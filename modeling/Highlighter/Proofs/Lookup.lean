import Highlighter.Proofs.Work

namespace Highlighter

variable {σ α β : Type}

/-- A position before which all elements have a property and from which on none has it. Where a list has one, this is
what a binary search for the first element without the property comes to. -/
structure Parts (p : β → Bool) (xs : List β) (n : Nat) : Prop where
  before : ∀ x ∈ xs.take n, p x
  after : ∀ x ∈ xs.drop n, ¬p x

namespace Parts

variable {p : β → Bool} {xs : List β} {n : Nat}

theorem takeWhile_eq (parts : Parts p xs n) : xs.takeWhile p = xs.take n := by
  have none_ : (xs.drop n).takeWhile p = [] := by
    rcases rest : xs.drop n with _ | ⟨x, later⟩
    · rfl
    · exact List.takeWhile_cons_of_neg (parts.after x (rest ▸ List.mem_cons_self))
  calc xs.takeWhile p = (xs.take n ++ xs.drop n).takeWhile p := by rw [List.take_append_drop]
    _ = xs.take n ++ (xs.drop n).takeWhile p := List.takeWhile_append_of_pos parts.before
    _ = xs.take n := by rw [none_, List.append_nil]

theorem dropWhile_eq (parts : Parts p xs n) : xs.dropWhile p = xs.drop n := by
  have all := List.takeWhile_append_dropWhile (p := p) (l := xs)
  rw [parts.takeWhile_eq] at all
  exact List.append_cancel_left (all.trans (List.take_append_drop n xs).symm)

theorem filter_eq (parts : Parts p xs n) : xs.filter p = xs.take n := by
  have first : (xs.take n).filter p = xs.take n := List.filter_eq_self.mpr parts.before
  have rest : (xs.drop n).filter p = [] := List.filter_eq_nil_iff.mpr parts.after
  calc xs.filter p = (xs.take n ++ xs.drop n).filter p := by rw [List.take_append_drop]
    _ = xs.take n := by rw [List.filter_append, first, rest, List.append_nil]

theorem filter_not_eq (parts : Parts p xs n) : (xs.filter fun x => !p x) = xs.drop n := by
  have first : ((xs.take n).filter fun x => !p x) = [] :=
    List.filter_eq_nil_iff.mpr fun x member => by simpa using parts.before x member
  have rest : ((xs.drop n).filter fun x => !p x) = xs.drop n :=
    List.filter_eq_self.mpr fun x member => by simpa using parts.after x member
  calc (xs.filter fun x => !p x) = (xs.take n ++ xs.drop n).filter fun x => !p x := by rw [List.take_append_drop]
    _ = xs.drop n := by rw [List.filter_append, first, rest, List.nil_append]

theorem drop (parts : Parts p xs n) (m : Nat) : Parts p (xs.drop m) (n - m) where
  before x member := by
    rw [← List.drop_take] at member
    exact parts.before x (List.mem_of_mem_drop member)
  after x member := by
    rw [List.drop_drop, show m + (n - m) = n + (m - n) by omega, ← List.drop_drop] at member
    exact parts.after x (List.mem_of_mem_drop member)

end Parts

/-- A property that goes over to all earlier elements parts a list in its order. -/
theorem parts_of_ordered {r : β → β → Prop} {p : β → Bool} (down : ∀ {x y}, r x y → p y → p x) {xs : List β}
    (ordered : xs.Pairwise r) : ∃ n, Parts p xs n := by
  induction ordered with
  | nil => exact ⟨0, by simp, by simp⟩
  | @cons x xs first _ ih =>
    by_cases holds : p x
    · obtain ⟨n, parts⟩ := ih
      exact ⟨n + 1, List.forall_mem_cons.mpr ⟨holds, parts.before⟩, parts.after⟩
    · refine ⟨0, by simp, List.forall_mem_cons.mpr ⟨holds, fun y member later => holds ?_⟩⟩
      exact down (first y member) later

/-- Tokens in the order of their lines. -/
def InOrder (tokens : List Token) : Prop := tokens.Pairwise fun a b => a.line ≤ b.line

namespace InOrder

variable {tokens : List Token}

theorem parts_before (ordered : InOrder tokens) (line : Nat) :
    ∃ first, Parts (fun token => token.line < line) tokens first :=
  parts_of_ordered (fun below before => by simp only [decide_eq_true_eq] at *; omega) ordered

theorem parts_upTo (ordered : InOrder tokens) (line : Nat) :
    ∃ past, Parts (fun token => token.line ≤ line) tokens past :=
  parts_of_ordered (fun below before => by simp only [decide_eq_true_eq] at *; omega) ordered

/-- Line by line, ordered tokens are all there. -/
theorem flatMap_lines (ordered : InOrder tokens) {first count : Nat}
    (within : ∀ token ∈ tokens, first ≤ token.line ∧ token.line < first + count) :
    ((List.range' first count).flatMap fun line => tokens.filter fun token => token.line = line) = tokens := by
  induction count generalizing first tokens with
  | zero =>
    have none_ : tokens = [] := List.eq_nil_iff_forall_not_mem.mpr fun token member => by
      have bounds := within token member
      omega
    rw [none_]
    rfl
  | succ count ih =>
    obtain ⟨n, parts⟩ := ordered.parts_upTo first
    have here : (tokens.filter fun token => token.line = first) = tokens.take n := by
      rw [← parts.filter_eq]
      refine List.filter_congr fun token member => decide_eq_decide.mpr ?_
      have bounds := within token member
      omega
    have below : ∀ token ∈ tokens.drop n, first + 1 ≤ token.line ∧ token.line < first + 1 + count := by
      intro token member
      have above := parts.after token member
      have bounds := within token (List.mem_of_mem_drop member)
      simp only [decide_eq_true_eq] at above
      omega
    have rest : ((List.range' (first + 1) count).flatMap fun line => tokens.filter fun token => token.line = line) =
        tokens.drop n := by
      refine Eq.trans (List.flatMap_congr fun line member => ?_) (ih (ordered.sublist (List.drop_sublist ..)) below)
      have later : first < line := by have := (List.mem_range'_1.mp member).1; omega
      rw [← parts.filter_not_eq, List.filter_filter]
      refine List.filter_congr fun token _ => ?_
      grind
    rw [List.range'_succ, List.flatMap_cons, here, rest, List.take_append_drop]

end InOrder

namespace Answer

/-- The tokens on a line lie between the ends of the tokens before it and of those up to it, wherever these are. -/
theorem onLine_eq_slice {answer : Answer} {line first past : Nat}
    (start : Parts (fun token => token.line < line) answer.tokens first)
    (stop : Parts (fun token => token.line ≤ line) answer.tokens past) :
    answer.onLine line = (answer.tokens.drop first).take (past - first) := by
  rw [onLine, start.dropWhile_eq, (stop.drop first).takeWhile_eq]

theorem onLine_eq_filter {answer : Answer} (ordered : InOrder answer.tokens) (line : Nat) :
    answer.onLine line = answer.tokens.filter fun token => token.line = line := by
  obtain ⟨first, start⟩ := ordered.parts_before line
  have fromHere : InOrder (answer.tokens.drop first) := ordered.sublist (List.drop_sublist ..)
  obtain ⟨count, upTo⟩ := fromHere.parts_upTo line
  rw [onLine, start.dropWhile_eq, upTo.takeWhile_eq, ← upTo.filter_eq, ← start.filter_not_eq, List.filter_filter]
  refine List.filter_congr fun token _ => ?_
  grind

/-- The lookup of a line finds the tokens that name it, in their order, and these lie between the two positions that a
binary search for their ends comes to. -/
structure Finds (answer : Answer) (line : Nat) : Prop where
  onLine : answer.onLine line = answer.tokens.filter fun token => token.line = line
  first : ∃ first, Parts (fun token => token.line < line) answer.tokens first
  past : ∃ past, Parts (fun token => token.line ≤ line) answer.tokens past
  slice : ∀ {first past}, Parts (fun token => token.line < line) answer.tokens first →
    Parts (fun token => token.line ≤ line) answer.tokens past →
    (answer.tokens.drop first).take (past - first) = answer.onLine line

theorem finds {answer : Answer} (ordered : InOrder answer.tokens) (line : Nat) : answer.Finds line where
  onLine := onLine_eq_filter ordered line
  first := ordered.parts_before line
  past := ordered.parts_upTo line
  slice start stop := (onLine_eq_slice start stop).symm

end Answer

theorem Rows.inOrder {R : RowCondition α} {row : Nat} {prior : Option (LineState α)} {lines : List String}
    {results : List (List Token × LineState α)} (rows : Rows R row prior lines results) :
    InOrder (results.flatMap Prod.fst) := by
  induction rows with
  | nil => exact .nil
  | @cons row prior line lines tokens state results onRow _ tail ih =>
    rw [List.flatMap_cons]
    refine List.pairwise_append.mpr ⟨?_, ih, fun token here other later => ?_⟩
    · refine List.pairwise_of_forall_mem_list fun token here other there => ?_
      have first := onRow token here
      have second := onRow other there
      omega
    · have above := tail.token_above later
      rw [onRow token here]
      omega

theorem Rows.line_bounds {R : RowCondition α} {prior : Option (LineState α)} {lines : List String}
    {results : List (List Token × LineState α)} (rows : Rows R 0 prior lines results) {token : Token}
    (member : token ∈ results.flatMap Prod.fst) : 1 ≤ token.line ∧ token.line ≤ lines.length := by
  have above := rows.token_above member
  have within := rows.token_within member
  rw [rows.length] at within
  omega

namespace BufferCache

/-- There is a state for each line, and the tokens name the lines in their order and no others. Where the tokens of the
first rows end, a binary search finds the place to cut. -/
structure WellFormed (cache : BufferCache α) : Prop where
  states : cache.states.length = cache.lines.length
  ordered : InOrder cache.tokens
  within : ∀ token ∈ cache.tokens, 1 ≤ token.line ∧ token.line ≤ cache.lines.length
  cut : ∀ rows, ∃ kept, Parts (fun token => token.line ≤ rows) cache.tokens kept ∧
    (cache.cut rows).tokens = cache.tokens.take kept

theorem Holds.wellFormed {R : RowCondition α} {cache : BufferCache α} (holds : cache.Holds R) : cache.WellFormed := by
  obtain ⟨results, rows, whole⟩ := id holds
  have tokens : cache.tokens = results.flatMap Prod.fst := congrArg BufferCache.tokens whole
  have ordered : InOrder cache.tokens := tokens ▸ rows.inOrder
  refine ⟨holds.length_states, ordered, fun token member => ?_, fun rows => ?_⟩
  · rw [tokens] at member
    exact rows.line_bounds member
  · obtain ⟨kept, parts⟩ := ordered.parts_upTo rows
    exact ⟨kept, parts, parts.takeWhile_eq⟩

end BufferCache

/-- The condition that a row is what some grammar that is had from a loader for the scope makes of its line. -/
def Loader.Makes (loader : Loader σ α) (scope : String) : RowCondition α := fun row prior line tokens state =>
  ∃ grammar source after, loader.load source scope = (.ok grammar, after) ∧
    grammar.Makes row prior line tokens state

/-- Of each line, an answer has the tokens that some grammar which the loader gives for the scope has reported for it,
in the order of that report. Line by line these are the whole answer. -/
structure Answer.Reports (loader : Loader σ α) (scope : String) (lines : List String) (answer : Answer) : Prop where
  whole : (List.range' 1 lines.length).flatMap answer.onLine = answer.tokens
  reported : ∀ {row line}, lines[row]? = some line →
    ∃ grammar source after prior result, loader.load source scope = (.ok grammar, after) ∧
      grammar.tokenizeLine line prior = .ok result ∧
      List.Forall₂ (fun span token => Token.ofSpan line row span = .ok token) result.spans (answer.onLine (row + 1))

theorem Rows.reports {loader : Loader σ α} {scope : String} {lines : List String}
    {results : List (List Token × LineState α)} (rows : Rows (loader.Makes scope) 0 none lines results)
    {answer : Answer} (tokens : answer.tokens = results.flatMap Prod.fst) : answer.Reports loader scope lines := by
  have ordered : InOrder answer.tokens := tokens ▸ rows.inOrder
  have lookup := Answer.onLine_eq_filter ordered
  refine ⟨?_, fun {row line} here => ?_⟩
  · rw [funext lookup]
    refine ordered.flatMap_lines fun token member => ?_
    rw [tokens] at member
    have bounds := rows.line_bounds member
    omega
  · obtain ⟨prior, made, state, ⟨grammar, source, after, load, makes⟩, same⟩ := rows.row_at here
    obtain ⟨result, asked, _, converted⟩ := Grammar.scratchRow_ok makes
    rw [Nat.zero_add] at same converted
    rw [lookup, tokens, same]
    exact ⟨grammar, source, after, prior, result, load, asked, converted⟩

namespace Tokenizer

variable {loader : Loader σ α} {t : Tokenizer σ α}

theorem gives_loaded (loader : Loader σ α) : loader.Gives (fun _ => True)
    fun scope grammar => ∃ source after, loader.load source scope = (.ok grammar, after) where
  grammar _ load := ⟨_, _, load⟩
  source _ _ := trivial

theorem impose_loaded (loader : Loader σ α) :
    Impose (fun scope grammar => ∃ source after, loader.load source scope = (.ok grammar, after)) loader.Makes :=
  fun _ grammar ⟨source, after, load⟩ _ _ _ _ _ makes => ⟨grammar, source, after, load, makes⟩

/-- Whatever has been asked of a tokenizer, with whichever grammars and failures of its loader, its caches are well
formed, and so are all answers that it gives next: lines are looked up right, and in an answer with tokens each line has
what some grammar of the loader has reported for it. -/
theorem onLine_of_reached {start : σ} {requests : List (Request σ)} {replies : List Reply}
    (run : ({ source := start } : Tokenizer σ α).serveAll loader requests = .ok (replies, t)) :
    (∀ {buffer cache}, t.buffers.get? buffer = some cache → cache.WellFormed) ∧
      ∀ buffer scope lines,
        ((∀ {grammar source}, loader.load t.source scope = (.ok grammar, source) → grammar.InLine) →
          ∃ parse, t.parse loader buffer scope lines = .ok parse) ∧
        ∀ {parse}, t.parse loader buffer scope lines = .ok parse → (∀ line, parse.answerOrNone.Finds line) ∧
          ∀ {answer}, parse.answer = .ok answer → parse.answerOrNone = answer ∧ answer.Reports loader scope lines := by
  have sound : t.Sound (fun _ => True) loader.Makes :=
    (sound_new trivial).serveAll (gives_loaded loader) (impose_loaded loader) (fun request _ => request.keeps_any) run
  refine ⟨fun found => (sound.caches found).wellFormed, fun buffer scope lines => ⟨?_, fun {parse} parsed => ?_⟩⟩
  · intro inLine
    exact parse_total fun _ _ load => inLine load
  obtain ⟨after, answered⟩ := sound.parse (gives_loaded loader) (impose_loaded loader) parsed
  rcases outcome : parse.answer with problem | answer
  · have none_ : parse.answerOrNone = ⟨[], some 0⟩ := by rw [Parse.answerOrNone, outcome]
    refine ⟨none_ ▸ Answer.finds .nil, fun success => ?_⟩
    cases success
  · have given : parse.answerOrNone = answer := by rw [Parse.answerOrNone, outcome]
    obtain ⟨results, rows, tokens, _⟩ := answered answer outcome
    refine ⟨given ▸ Answer.finds (tokens ▸ rows.inOrder), fun success => ?_⟩
    cases success
    exact ⟨given, rows.reports tokens⟩

/-- A grammar that reports the first character of a line after the others. -/
def firstLast : Grammar Nat where
  scope := "count"
  tokenizeLine line _ := .ok ⟨[⟨min 1 line.length, line.length, ["rest"]⟩, ⟨0, min 1 line.length, ["first"]⟩], .other 0⟩

/-- Of three loads the second fails, and the other two give different grammars. -/
def fickle : Loader Nat Nat where
  load turn scope := (match turn % 3 with
    | 0 => .ok lineCounter
    | 1 => .error (.unknownScope scope)
    | _ => .ok firstLast, turn + 1)

theorem onLine_of_reached_fickle : ∃ replies t parse answer,
    ({ source := 0 } : Tokenizer Nat Nat).serveAll fickle
        [.parse 0 "count" ["éa", "b"], .parse 0 "count" ["éa", "c"], .evict 1] = .ok (replies, t) ∧
      t.parse fickle 0 "count" ["éa", "日本"] = .ok parse ∧ parse.answer = .ok answer ∧
      answer.Finds 2 ∧ answer.Finds 0 ∧ answer.Reports fickle "count" ["éa", "日本"] ∧
      answer.onLine 2 = [⟨2, 4, 3, ["rest"]⟩, ⟨2, 1, 3, ["first"]⟩] := by
  obtain ⟨replies, t, parse, served, parsed, outcome⟩ : ∃ replies t parse,
      ({ source := 0 } : Tokenizer Nat Nat).serveAll fickle
          [.parse 0 "count" ["éa", "b"], .parse 0 "count" ["éa", "c"], .evict 1] = .ok (replies, t) ∧
        t.parse fickle 0 "count" ["éa", "日本"] = .ok parse ∧
        parse.answer = .ok ⟨[⟨1, 1, 3, ["line"]⟩, ⟨2, 4, 3, ["rest"]⟩, ⟨2, 1, 3, ["first"]⟩], some 1⟩ :=
    ⟨_, _, _, rfl, rfl, rfl⟩
  obtain ⟨_, next⟩ := onLine_of_reached served
  obtain ⟨finds, answered⟩ := (next 0 "count" ["éa", "日本"]).2 parsed
  obtain ⟨same, reports⟩ := answered outcome
  rw [same] at finds
  exact ⟨replies, t, parse, _, served, parsed, outcome, finds 2, finds 0, reports, rfl⟩

end Tokenizer

end Highlighter
