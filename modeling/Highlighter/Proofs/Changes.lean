import Mathlib.Data.List.TakeWhile
import Highlighter.Proofs.Work

namespace Highlighter

variable {σ α : Type}

/-- What a host goes by that repaints only what has changed: without a reported row the tokens are the ones before, and
with one they are the ones before up to it. -/
def Answer.Tells (answer : Answer) (before : List Token) : Prop :=
  match answer.changedFrom with
  | none => answer.tokens = before
  | some row => (answer.tokens.filter fun token => token.line ≤ row) = before.filter fun token => token.line ≤ row

theorem Answer.tells_none {answer : Answer} (none_ : answer.changedFrom = none) (before : List Token) :
    answer.Tells before ↔ answer.tokens = before := by
  rw [Tells, none_]

theorem Answer.tells_some {answer : Answer} {row : Nat} (reported : answer.changedFrom = some row)
    (before : List Token) : answer.Tells before ↔ (answer.tokens.filter fun token => token.line ≤ row) =
      before.filter fun token => token.line ≤ row := by
  rw [Tells, reported]

theorem firstChange_take {old new : List String} {row : Nat} (changed : firstChange old new = some row) :
    row ≤ old.length ∧ old.take row = new.take row := by
  obtain ⟨_, rfl⟩ := firstChange_eq_some.mp changed
  exact ⟨(commonLines_take old new).1, (commonLines_take old new).2.2⟩

namespace ParseStep

variable {loader : Loader σ α} {t : Tokenizer σ α} {cache : BufferCache α} {buffer : Nat} {scope : String}
  {lines : List String} {parse : Parse σ α} {answer : Answer}

theorem changedFrom_eq (step : ParseStep loader t cache buffer scope lines parse)
    (success : parse.answer = .ok answer) : answer.changedFrom = firstChange cache.lines lines := by
  cases step with
  | unchanged same =>
    cases success
    exact (firstChange_eq_none.mpr same).symm
  | failed _ _ => cases success
  | tokenized changed _ _ =>
    cases success
    exact changed.symm

theorem changedFrom_eq_none (step : ParseStep loader t cache buffer scope lines parse)
    (success : parse.answer = .ok answer) : answer.changedFrom = none ↔ lines = cache.lines := by
  rw [step.changedFrom_eq success, firstChange_eq_none]
  exact eq_comm

theorem changedFrom_le (step : ParseStep loader t cache buffer scope lines parse)
    (success : parse.answer = .ok answer) {row : Nat} (reported : answer.changedFrom = some row) :
    row ≤ cache.lines.length := by
  rw [step.changedFrom_eq success] at reported
  exact (firstChange_take reported).1

theorem tells (step : ParseStep loader t cache buffer scope lines parse) {R : RowCondition α} (holds : cache.Holds R)
    (success : parse.answer = .ok answer) : answer.Tells cache.tokens := by
  cases step with
  | unchanged same =>
    cases success
    rfl
  | failed _ _ => cases success
  | @tokenized row grammar source results _ _ made =>
    cases success
    have later : Rows (fun _ _ _ _ _ => True) _ _ _ results := .of_scratch (fun _ _ _ _ _ _ => trivial) made
    calc (((cache.cut row).extend (lines.drop row) results).tokens.filter fun token => token.line ≤ row)
        = (cache.cut row).tokens.filter fun token => token.line ≤ row := BufferCache.filter_extend later
      _ = cache.tokens.filter fun token => token.line ≤ row := by
        rw [holds.cut_eq]
        simp only [List.filter_filter, Bool.and_self]

end ParseStep

namespace Tokenizer

variable {loader : Loader σ α} {t : Tokenizer σ α}

/-- An answer for a buffer whose rows are known tells what has changed of them, unless it is for another scope and
without lines: then it reports no change, and tells the truth only if there were no tokens. -/
theorem tells_iff_of_known {R : RowCondition α} {buffer : Nat} {scope : String} {lines : List String}
    {results : List (List Token × LineState α)} (rows : Rows R 0 none lines results)
    (known : t.buffers.get? buffer = some (.ofRows scope lines results)) {nextScope : String} {nextLines : List String}
    {next : Parse σ α} {answer : Answer} (parsed : t.parse loader buffer nextScope nextLines = .ok next)
    (success : next.answer = .ok answer) : answer.Tells (results.flatMap Prod.fst) ↔
      (nextScope ≠ scope → nextLines = [] → results.flatMap Prod.fst = []) := by
  have step := parse_ok_iff.mp parsed
  rw [cacheFor_known known nextScope] at step
  by_cases same : nextScope = scope
  · rw [if_pos (show (BufferCache.ofRows scope lines results).scope = nextScope from same.symm)] at step
    have tells := step.tells (BufferCache.holds_ofRows rows) success
    exact ⟨fun _ different => absurd same different, fun _ => tells⟩
  · -- Nothing is kept for the new scope, so either all lines are tokenized or there are none.
    rw [if_neg (show (BufferCache.ofRows scope lines results).scope ≠ nextScope from Ne.symm same)] at step
    have tells := step.tells (R := R) (BufferCache.holds_new nextScope) success
    have reported := step.changedFrom_eq success
    rcases nextLines with _ | ⟨line, rest⟩
    · have none_ : answer.changedFrom = none := reported
      rw [Answer.tells_none none_] at tells ⊢
      rw [tells]
      exact ⟨fun empty _ _ => empty.symm, fun empty => (empty same rfl).symm⟩
    · have zero : answer.changedFrom = some 0 := reported
      rw [Answer.tells_some zero] at tells ⊢
      have none_ : ((results.flatMap Prod.fst).filter fun token => token.line ≤ 0) = [] := rows.filter_tokens 0
      rw [tells, none_, List.filter_nil]
      exact ⟨fun _ _ empty => (nomatch empty), fun _ => rfl⟩

/-- The first answer for a buffer tells what has changed since it had no tokens. Whatever is asked for other buffers in
between, each further one tells what has changed since the one before, unless it is for another scope and without lines
while there were tokens before. -/
theorem tells_of_parse {start : σ} {requests : List (Request σ)} {replies : List Reply}
    (run : ({ source := start } : Tokenizer σ α).serveAll loader requests = .ok (replies, t)) {buffer : Nat}
    {scope : String} {lines : List String} {parse : Parse σ α} {answer : Answer}
    (parsed : t.parse loader buffer scope lines = .ok parse) (success : parse.answer = .ok answer) :
    (t.buffers.get? buffer = none → answer.Tells []) ∧
      ∀ {between replies u}, (∀ request ∈ between, request.Spares buffer) →
        parse.tokenizer.serveAll loader between = .ok (replies, u) →
        ∀ {nextScope nextLines next nextAnswer}, u.parse loader buffer nextScope nextLines = .ok next →
          next.answer = .ok nextAnswer →
          (nextAnswer.Tells answer.tokens ↔ (nextScope ≠ scope → nextLines = [] → answer.tokens = [])) := by
  have sound := sound_reached run
  refine ⟨fun unknown => ?_, fun {between _ u} spare served {nextScope nextLines next nextAnswer} again found => ?_⟩
  · have tells := (parse_ok_iff.mp parsed).tells (sound.cacheFor buffer scope) success
    rwa [cacheFor_unknown unknown] at tells
  · obtain ⟨_, answered⟩ := sound.parse loader.gives_any (impose_any _) parsed
    obtain ⟨results, rows, tokens, stored⟩ := answered answer success
    rw [tokens]
    exact tells_iff_of_known rows ((serveAll_spares spare served).trans stored) again found

theorem tells_of_parse_switched : ∃ replies t parse answer noted u next nextAnswer,
    ({ source := true } : Tokenizer Bool Nat).serveAll everyOther [.evict 0] = .ok (replies, t) ∧
      t.parse everyOther 0 "count" ["é"] = .ok parse ∧ parse.answer = .ok answer ∧ answer.Tells [] ∧
      parse.tokenizer.serveAll everyOther [.parse 1 "count" ["é"]] = .ok (noted, u) ∧
      u.parse everyOther 0 "other" ["x"] = .ok next ∧ next.answer = .ok nextAnswer ∧
      nextAnswer.Tells answer.tokens := by
  obtain ⟨replies, t, parse, answer, noted, u, next, nextAnswer, served, unknown, parsed, success, aside, again,
      found⟩ : ∃ replies t parse answer noted u next nextAnswer,
        ({ source := true } : Tokenizer Bool Nat).serveAll everyOther [.evict 0] = .ok (replies, t) ∧
        t.buffers.get? 0 = none ∧ t.parse everyOther 0 "count" ["é"] = .ok parse ∧ parse.answer = .ok answer ∧
        parse.tokenizer.serveAll everyOther [.parse 1 "count" ["é"]] = .ok (noted, u) ∧
        u.parse everyOther 0 "other" ["x"] = .ok next ∧ next.answer = .ok nextAnswer :=
    ⟨_, _, _, _, _, _, _, _, rfl, rfl, rfl, rfl, rfl, rfl, rfl⟩
  obtain ⟨first, later⟩ := tells_of_parse served parsed success
  have spare : ∀ request ∈ ([.parse 1 "count" ["é"]] : List (Request Bool)), request.Spares 0 :=
    List.forall_mem_singleton.mpr Nat.one_ne_zero
  have tells := (later spare aside again found).mpr fun _ empty => (nomatch empty)
  exact ⟨replies, t, parse, answer, noted, u, next, nextAnswer, served, parsed, success, first unknown, aside, again,
    found, tells⟩

/-- A buffer that is emptied under another scope: its token is gone, and the answer reports no change. -/
theorem untold_of_emptied : ∃ parse next,
    ({ source := true } : Tokenizer Bool Nat).parse everyOther 0 "count" ["x"] = .ok parse ∧
      parse.answer = .ok ⟨[⟨1, 1, 1, ["line"]⟩], some 0⟩ ∧
      parse.tokenizer.parse everyOther 0 "other" [] = .ok next ∧ next.answer = .ok ⟨[], none⟩ ∧
      ¬(⟨[], none⟩ : Answer).Tells [⟨1, 1, 1, ["line"]⟩] :=
  ⟨_, _, rfl, rfl, rfl, rfl, fun tells => nomatch tells⟩

end Tokenizer

namespace BufferCache

variable {R : RowCondition α} {cache : BufferCache α}

theorem cut_cut (cache : BufferCache α) {few many : Nat} (fewer : few ≤ many) :
    (cache.cut many).cut few = cache.cut few := by
  have tokens : (cache.tokens.takeWhile fun token => token.line ≤ many).takeWhile (fun token => token.line ≤ few) =
      cache.tokens.takeWhile fun token => token.line ≤ few := by
    rw [List.takeWhile_takeWhile]
    congr 1
    funext token
    exact decide_eq_decide.mpr (by simp only [decide_eq_true_eq]; omega)
  simp only [cut, List.take_take, Nat.min_eq_left fewer, tokens]

theorem Holds.cut_zero (holds : cache.Holds R) : cache.cut 0 = { scope := cache.scope } := by
  obtain ⟨results, rows, whole⟩ := holds
  rw [whole, cut_ofRows rows]
  rfl

theorem Holds.cut_whole (holds : cache.Holds R) : cache.cut cache.lines.length = cache := by
  obtain ⟨results, rows, whole⟩ := holds
  rw [whole, cut_ofRows rows, show (ofRows cache.scope cache.lines results).lines = cache.lines from rfl,
    List.take_length, ← rows.length, List.take_length]

end BufferCache

/-- After a parse without a grammar, the rows above its change are all that is known of the buffer. -/
theorem Tokenizer.cacheFor_failed {loader : Loader σ α} {t : Tokenizer σ α} {buffer : Nat} {scope : String}
    {lines : List String} {parse : Parse σ α} {problem : GrammarError}
    (parsed : t.parse loader buffer scope lines = .ok parse) (failure : parse.answer = .error problem) :
    ∃ row, firstChange (t.cacheFor buffer scope).lines lines = some row ∧
      ∀ other, parse.tokenizer.cacheFor buffer other =
        if scope = other then (t.cacheFor buffer scope).cut row else { scope := other } := by
  cases parse_ok_iff.mp parsed with
  | unchanged _ => cases failure
  | tokenized _ _ _ => cases failure
  | @failed row _ source changed _ =>
    have here : ((t.cacheFor buffer scope).cut row).scope = scope := t.cacheFor_scope buffer scope
    refine ⟨row, changed, fun other => ?_⟩
    rw [cacheFor_store, if_pos rfl, here]

/-- What may become of a tokenizer without any parse of a buffer that is answered with tokens: requests for other
buffers are served, the buffer is given up, or no grammar is to be had for it. -/
inductive Unanswered (loader : Loader σ α) (buffer : Nat) (t : Tokenizer σ α) : Tokenizer σ α → Prop
  | start : Unanswered loader buffer t t
  | aside {u request reply after} : Unanswered loader buffer t u → request.Spares buffer →
      u.serve loader request = .ok (reply, after) → Unanswered loader buffer t after
  | evicted {u} : Unanswered loader buffer t u → Unanswered loader buffer t (u.evict buffer).2
  | failed {u scope lines parse problem} : Unanswered loader buffer t u →
      u.parse loader buffer scope lines = .ok parse → parse.answer = .error problem →
      Unanswered loader buffer t parse.tokenizer

namespace Unanswered

variable {loader : Loader σ α} {buffer : Nat} {t u : Tokenizer σ α}

/-- All that is left of what is known of the buffer are its first rows. -/
theorem cut (unanswered : Unanswered loader buffer t u) {scope : String} {R : RowCondition α}
    (holds : (t.cacheFor buffer scope).Holds R) :
    ∃ rows ≤ (t.cacheFor buffer scope).lines.length, u.cacheFor buffer scope = (t.cacheFor buffer scope).cut rows := by
  have here := t.cacheFor_scope buffer scope
  have nothing : (t.cacheFor buffer scope).cut 0 = { scope } := by rw [holds.cut_zero, here]
  induction unanswered with
  | start => exact ⟨_, Nat.le_refl _, holds.cut_whole.symm⟩
  | @aside u request reply after _ spares served ih =>
    obtain ⟨rows, within, left⟩ := ih
    exact ⟨rows, within, (Tokenizer.cacheFor_congr (Tokenizer.serve_spares spares served) scope).trans left⟩
  | @evicted u _ _ =>
    refine ⟨0, Nat.zero_le _, ?_⟩
    rw [Tokenizer.cacheFor_evict, if_pos rfl, nothing]
  | @failed u other lines parse problem _ parsed failure ih =>
    obtain ⟨rows, within, left⟩ := ih
    obtain ⟨row, changed, after⟩ := Tokenizer.cacheFor_failed parsed failure
    rw [after scope]
    by_cases same : other = scope
    · subst same
      rw [left] at changed
      have fewer : row ≤ rows := Nat.le_trans (firstChange_take changed).1 (List.length_take_le ..)
      rw [if_pos rfl, left, BufferCache.cut_cut _ fewer]
      exact ⟨row, Nat.le_trans fewer within, rfl⟩
    · rw [if_neg same]
      exact ⟨0, Nat.zero_le _, nothing.symm⟩

end Unanswered

namespace Tokenizer

variable {loader : Loader σ α} {t u : Tokenizer σ α}

/-- A parse without a grammar is answered with nothing, and cuts what is known of the buffer where its text has changed.
Whatever happens until the next answer for the buffer, some of these first lines are still known then. The answer
reports one of them or the row after them, unless the text is just these lines: then it reports no change, with their
tokens. -/
theorem parse_after_failure {start : σ} {requests : List (Request σ)} {replies : List Reply}
    (run : ({ source := start } : Tokenizer σ α).serveAll loader requests = .ok (replies, t)) {buffer : Nat}
    {scope : String} {lines : List String} {parse : Parse σ α} {problem : GrammarError}
    (parsed : t.parse loader buffer scope lines = .ok parse) (failure : parse.answer = .error problem)
    (unanswered : Unanswered loader buffer parse.tokenizer u) :
    parse.answerOrNone = ⟨[], some 0⟩ ∧ ∃ row, firstChange (t.cacheFor buffer scope).lines lines = some row ∧
      (parse.tokenizer.cacheFor buffer scope).lines = lines.take row ∧
      ∃ kept ≤ row, (u.cacheFor buffer scope).lines = lines.take kept ∧
        ∀ {nextLines next answer}, u.parse loader buffer scope nextLines = .ok next → next.answer = .ok answer →
          (answer.changedFrom = none ↔ nextLines = lines.take kept) ∧
          (answer.changedFrom = none →
            answer.tokens = (t.cacheFor buffer scope).tokens.filter fun token => token.line ≤ kept) ∧
          ∀ {reported}, answer.changedFrom = some reported → reported ≤ kept := by
  have known := (sound_reached run).cacheFor buffer scope
  obtain ⟨row, changed, after⟩ := cacheFor_failed parsed failure
  have cut : parse.tokenizer.cacheFor buffer scope = (t.cacheFor buffer scope).cut row :=
    (after scope).trans (if_pos rfl)
  obtain ⟨kept, within, left⟩ := unanswered.cut (cut ▸ known.cut row)
  rw [cut] at within left
  have fewer : kept ≤ row := Nat.le_trans within (List.length_take_le ..)
  rw [BufferCache.cut_cut _ fewer] at left
  have alike := (firstChange_take changed).2
  have text : (u.cacheFor buffer scope).lines = lines.take kept := by
    have both := congrArg (List.take kept) alike
    rw [List.take_take, List.take_take, Nat.min_eq_left fewer] at both
    rw [left]
    exact both
  refine ⟨by rw [Parse.answerOrNone, failure], row, changed, (congrArg BufferCache.lines cut).trans alike, kept, fewer,
    text, fun {nextLines next answer} again success => ?_⟩
  have step := parse_ok_iff.mp again
  refine ⟨?_, fun none_ => ?_, fun {reported} at_ => ?_⟩
  · rw [step.changedFrom_eq_none success, text]
  · have same := (Answer.tells_none none_ _).mp (step.tells (left ▸ known.cut kept) success)
    rw [same, left, known.cut_eq]
  · have late := step.changedFrom_le success at_
    rw [text] at late
    exact Nat.le_trans late (List.length_take_le ..)

theorem parse_after_failure_aside : ∃ replies t parse problem u next answer,
    ({ source := true } : Tokenizer Bool Nat).serveAll everyOther [.parse 0 "count" ["é", "b"]] = .ok (replies, t) ∧
      t.parse everyOther 0 "count" ["é", "c"] = .ok parse ∧ parse.answer = .error problem ∧
      Unanswered everyOther 0 parse.tokenizer u ∧ u.parse everyOther 0 "count" ["é", "d"] = .ok next ∧
      next.answer = .ok answer ∧ parse.answerOrNone = ⟨[], some 0⟩ ∧ answer.changedFrom = some 1 ∧
      ∃ kept ≤ 1, (u.cacheFor 0 "count").lines = ["é", "c"].take kept ∧ 1 ≤ kept := by
  obtain ⟨replies, t, parse, problem, next, answer, served, parsed, failure, change, again, success, reported⟩ :
      ∃ replies t parse problem next answer,
        ({ source := true } : Tokenizer Bool Nat).serveAll everyOther [.parse 0 "count" ["é", "b"]] =
            .ok (replies, t) ∧
          t.parse everyOther 0 "count" ["é", "c"] = .ok parse ∧ parse.answer = .error problem ∧
          firstChange (t.cacheFor 0 "count").lines ["é", "c"] = some 1 ∧
          (parse.tokenizer.evict 1).2.parse everyOther 0 "count" ["é", "d"] = .ok next ∧
          next.answer = .ok answer ∧ answer.changedFrom = some 1 :=
    ⟨_, _, _, _, _, _, rfl, rfl, rfl, rfl, rfl, rfl, rfl⟩
  have spares : (Request.evict 1 : Request Bool).Spares 0 := Nat.one_ne_zero
  have aside : Unanswered everyOther 0 parse.tokenizer (parse.tokenizer.evict 1).2 := .aside .start spares rfl
  obtain ⟨empty, row, changed, _, kept, fewer, left, later⟩ := parse_after_failure served parsed failure aside
  cases change.symm.trans changed
  exact ⟨replies, t, parse, problem, _, next, answer, served, parsed, failure, aside, again, success, empty, reported,
    kept, fewer, left, (later again success).2.2 reported⟩

/-- After a parse without a grammar, the lines above its change are sent alone. Their token comes back, and the answer
reports no change, though the answer before had no tokens. -/
theorem unchanged_after_failure : ∃ first failed next,
    ({ source := true } : Tokenizer Bool Nat).parse everyOther 0 "count" ["a", "b"] = .ok first ∧
      first.tokenizer.parse everyOther 0 "count" ["a", "c"] = .ok failed ∧
      failed.answer = .error (.unknownScope "count") ∧ failed.answerOrNone = ⟨[], some 0⟩ ∧
      failed.tokenizer.parse everyOther 0 "count" ["a"] = .ok next ∧
      next.answer = .ok ⟨[⟨1, 1, 1, ["line"]⟩], none⟩ :=
  ⟨_, _, _, rfl, rfl, rfl, rfl, rfl, rfl⟩

end Tokenizer

end Highlighter
