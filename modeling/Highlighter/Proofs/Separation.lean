import Highlighter.Proofs.Replacement

namespace Highlighter

variable {σ α : Type}

/-- What shows of a parse to a host that has only its buffer. -/
def Parse.shown (parse : Parse σ α) (buffer : Nat) : Except GrammarError Answer × Option (BufferCache α) :=
  (parse.answer, parse.tokenizer.buffers.get? buffer)

/-- A parse depends on nothing but what is known of its buffer and the grammar that its scope is loaded with. -/
theorem Tokenizer.parse_congr {loader : Loader σ α} {t u : Tokenizer σ α} {buffer : Nat} {scope : String}
    (known : u.buffers.get? buffer = t.buffers.get? buffer)
    (load : (loader.load u.source scope).1 = (loader.load t.source scope).1) (lines : List String) :
    (u.parse loader buffer scope lines).map (·.shown buffer) =
      (t.parse loader buffer scope lines).map (·.shown buffer) := by
  have cache := cacheFor_congr known scope
  have stored (v : Tokenizer σ α) (cache : BufferCache α) : (v.store buffer cache).buffers.get? buffer = some cache :=
    (v.store_get? ..).trans (if_pos rfl)
  rcases changed : firstChange (t.cacheFor buffer scope).lines lines with _ | row
  · have same := firstChange_eq_none.mp changed
    rw [parse_unchanged (t := u) (cache ▸ same), parse_unchanged same, cache]
    simp only [Except.map, Parse.shown, stored]
  · rcases loaded : loader.load t.source scope with ⟨problem | grammar, source⟩
    · rcases other : loader.load u.source scope with ⟨_, after⟩
      rw [loaded, other] at load
      cases load
      rw [parse_failed (t := u) (cache ▸ changed) other, parse_failed changed loaded, cache]
      simp only [Except.map, Parse.shown, stored]
    · rcases other : loader.load u.source scope with ⟨_, after⟩
      rw [loaded, other] at load
      cases load
      rw [parse_tokenized (t := u) (cache ▸ changed) other, parse_tokenized changed loaded, cache]
      rcases grammar.scratch row _ (lines.drop row) with fault | results
      · rfl
      · simp only [Except.map, Parse.shown, stored]

/-- A request for a buffer, or one that changes what grammars are had from. -/
def Request.concerns (buffer : Nat) : Request σ → Bool
  | .parse other _ _ | .tryParse other _ _ | .evict other => other == buffer
  | .change _ => true

theorem Request.spares_of_not_concerns {buffer : Nat} {request : Request σ}
    (elsewhere : request.concerns buffer = false) : request.Spares buffer := by
  cases request with
  | change update => trivial
  | parse other scope lines => exact beq_eq_false_iff_ne.mp elsewhere
  | tryParse other scope lines => exact beq_eq_false_iff_ne.mp elsewhere
  | evict other => exact beq_eq_false_iff_ne.mp elsewhere

theorem ParseStep.coherent {t : Tokenizer (Catalogue α) α} {cache : BufferCache α} {buffer : Nat} {scope : String}
    {lines : List String} {parse : Parse (Catalogue α) α} {history : List (Registration α)}
    (step : ParseStep Catalogue.loader t cache buffer scope lines parse) (coherent : t.source.Coherent history) :
    parse.tokenizer.source.Coherent history := by
  obtain ⟨after, source, result, _, origin⟩ := step.stored
  rw [result]
  rcases origin with rfl | rfl
  · exact coherent
  · exact coherent.load scope

open Catalogue

namespace Tokenizer

/-- Two tokenizers with the same registrations that know the same of a buffer. Their catalogues may have loaded
different scopes, and of other buffers they may know anything. -/
structure AlikeFor (history : List (Registration α)) (buffer : Nat) (t u : Tokenizer (Catalogue α) α) : Prop where
  first : t.source.Coherent history
  second : u.source.Coherent history
  known : u.buffers.get? buffer = t.buffers.get? buffer

namespace AlikeFor

variable {history : List (Registration α)} {buffer : Nat} {t u : Tokenizer (Catalogue α) α}
  {request : Request (Catalogue α)}

/-- What one of them is asked for other buffers makes no difference. -/
theorem aside (alike : AlikeFor history buffer t u) (elsewhere : request.concerns buffer = false) {reply : Reply}
    {after : Tokenizer (Catalogue α) α} (run : t.serve Catalogue.loader request = .ok (reply, after)) :
    AlikeFor history buffer after u := by
  refine ⟨?_, alike.second, alike.known.trans (serve_spares (Request.spares_of_not_concerns elsewhere) run).symm⟩
  rcases serve_cases run with ⟨other, scope, lines, parse, _, parsed, rfl⟩ | ⟨other, _, rfl⟩ | ⟨update, rfl, _⟩
  · exact (parse_ok_iff.mp parsed).coherent alike.first
  · exact alike.first
  · cases elsewhere

theorem parse (alike : AlikeFor history buffer t u) (scope : String) (lines : List String) :
    (∃ fault, t.parse Catalogue.loader buffer scope lines = .error fault ∧
        u.parse Catalogue.loader buffer scope lines = .error fault) ∨
      ∃ ofFirst ofSecond, t.parse Catalogue.loader buffer scope lines = .ok ofFirst ∧
        u.parse Catalogue.loader buffer scope lines = .ok ofSecond ∧ ofSecond.answer = ofFirst.answer ∧
        AlikeFor history buffer ofFirst.tokenizer ofSecond.tokenizer := by
  have load : (Catalogue.loader.load u.source scope).1 = (Catalogue.loader.load t.source scope).1 :=
    (alike.second.load_eq scope).trans (alike.first.load_eq scope).symm
  have same := parse_congr alike.known load lines
  rcases parsed : t.parse Catalogue.loader buffer scope lines with fault | ofFirst
  · rcases again : u.parse Catalogue.loader buffer scope lines with other | ofSecond
    · rw [parsed, again] at same
      cases same
      exact .inl ⟨fault, rfl, rfl⟩
    · rw [parsed, again] at same
      cases same
  · rcases again : u.parse Catalogue.loader buffer scope lines with other | ofSecond
    · rw [parsed, again] at same
      cases same
    · rw [parsed, again] at same
      obtain ⟨answer, known⟩ := Prod.mk.inj (Except.ok.inj same)
      exact .inr ⟨ofFirst, ofSecond, rfl, rfl, answer, (parse_ok_iff.mp parsed).coherent alike.first,
        (parse_ok_iff.mp again).coherent alike.second, known⟩

/-- Both reply to a parse with the same, if the reply depends on nothing but the answer. -/
theorem reply (alike : AlikeFor history buffer t u) (scope : String) (lines : List String)
    (reply : Parse (Catalogue α) α → Reply) (shown : ∀ p q, q.answer = p.answer → reply q = reply p) :
    let serve := fun v : Tokenizer (Catalogue α) α => do
      let parse ← v.parse Catalogue.loader buffer scope lines
      return (reply parse, parse.tokenizer)
    (∃ fault, serve t = .error fault ∧ serve u = .error fault) ∨
      ∃ given ofFirst ofSecond later, serve t = .ok (given, ofFirst) ∧ serve u = .ok (given, ofSecond) ∧
        AlikeFor later buffer ofFirst ofSecond := by
  rcases alike.parse scope lines with ⟨fault, parsed, again⟩ | ⟨ofFirst, ofSecond, parsed, again, same, after⟩
  · exact .inl ⟨fault, by simp only [parsed]; rfl, by simp only [again]; rfl⟩
  · refine .inr ⟨reply ofFirst, _, _, _, ?_, ?_, after⟩
    · simp only [parsed, ok_bind]
      rfl
    · simp only [again, ok_bind, shown ofFirst ofSecond same]
      rfl

/-- Whatever both are asked for the buffer comes to the same, be it that something goes wrong in both. -/
theorem serve (alike : AlikeFor history buffer t u) (concerns : request.concerns buffer = true)
    (performs : request.Performs fun _ => True) :
    (∃ fault, t.serve Catalogue.loader request = .error fault ∧ u.serve Catalogue.loader request = .error fault) ∨
      ∃ reply ofFirst ofSecond later, t.serve Catalogue.loader request = .ok (reply, ofFirst) ∧
        u.serve Catalogue.loader request = .ok (reply, ofSecond) ∧ AlikeFor later buffer ofFirst ofSecond := by
  cases request with
  | parse other scope lines =>
    obtain rfl := beq_iff_eq.mp concerns
    refine alike.reply scope lines (fun parse => .parsed parse.answerOrNone) fun p q same => ?_
    simp only [Parse.answerOrNone, same]
  | tryParse other scope lines =>
    obtain rfl := beq_iff_eq.mp concerns
    exact alike.reply scope lines (fun parse => .tried parse.answer) fun p q same => congrArg Reply.tried same
  | evict other =>
    obtain rfl := beq_iff_eq.mp concerns
    refine .inr ⟨.evicted (t.evict other).1, (t.evict other).2, (u.evict other).2, history, rfl, ?_, alike.first,
      alike.second, ?_⟩
    · have known : (u.evict other).1 = (t.evict other).1 := by
        simp only [Tokenizer.evict, Table.contains, alike.known]
      simp only [Tokenizer.serve, known]
      rfl
    · simp only [Tokenizer.evict, Table.get?_erase, if_true]
  | change update =>
    obtain ⟨operation, _, rfl⟩ := performs
    exact .inr ⟨.changed, _, _, history ++ operation.registered, rfl, rfl, alike.first.perform operation,
      alike.second.perform operation, alike.known⟩

end AlikeFor

/-- What is left of requests and their replies when the calls for other buffers are removed. -/
def repliesFor (buffer : Nat) (requests : List (Request σ)) (replies : List Reply) : List Reply :=
  ((requests.zip replies).filter fun (request, _) => request.concerns buffer).map Prod.snd

theorem repliesFor_cons (buffer : Nat) (request : Request σ) (requests : List (Request σ)) (reply : Reply)
    (replies : List Reply) : repliesFor buffer (request :: requests) (reply :: replies) =
      if request.concerns buffer then reply :: repliesFor buffer requests replies
      else repliesFor buffer requests replies := by
  simp only [repliesFor, List.zip_cons_cons, List.filter_cons]
  split <;> rfl

theorem AlikeFor.serveAll {history : List (Registration α)} {buffer : Nat} {t u : Tokenizer (Catalogue α) α}
    (alike : AlikeFor history buffer t u) {requests : List (Request (Catalogue α))}
    (perform : ∀ request ∈ requests, request.Performs fun _ => True) {replies : List Reply}
    {after : Tokenizer (Catalogue α) α} (run : t.serveAll Catalogue.loader requests = .ok (replies, after)) :
    ∃ alone later, u.serveAll Catalogue.loader (requests.filter (·.concerns buffer)) =
        .ok (repliesFor buffer requests replies, alone) ∧ AlikeFor later buffer after alone := by
  induction requests generalizing t u history replies with
  | nil =>
    cases run
    exact ⟨u, history, rfl, alike⟩
  | cons request requests ih =>
    obtain ⟨reply, rest, between, first, later, rfl⟩ := serveAll_cons run
    have performRest := fun other member => perform other (List.mem_cons_of_mem request member)
    rw [repliesFor_cons, List.filter_cons]
    rcases concerns : request.concerns buffer with _ | _
    · exact ih (alike.aside concerns first) performRest later
    · rcases alike.serve concerns (perform request List.mem_cons_self) with
        ⟨fault, wrong, _⟩ | ⟨same, ofFirst, ofSecond, registered, served, again, next⟩
      · cases wrong.symm.trans first
      · cases served.symm.trans first
        obtain ⟨alone, history, rest, final⟩ := ih next performRest later
        refine ⟨alone, history, ?_, final⟩
        simp only [if_true, Tokenizer.serveAll, again, ok_bind, rest]
        rfl

/-- Buffers do not interfere. Of any run with parses and evictions of many buffers and with registrations in between,
the calls for other buffers than one can be removed: the others are replied to as before, and the same is known of that
buffer. Whatever is asked for it next comes to the same with the other buffers as without them, faults included. -/
theorem serveAll_alone {start : Catalogue α} {before : List (Registration α)} (begins : Begins start before)
    {requests : List (Request (Catalogue α))} (perform : ∀ request ∈ requests, request.Performs fun _ => True)
    {replies : List Reply} {t : Tokenizer (Catalogue α) α}
    (run : ({ source := start } : Tokenizer (Catalogue α) α).serveAll Catalogue.loader requests = .ok (replies, t))
    (buffer : Nat) :
    ∃ alone, ({ source := start } : Tokenizer (Catalogue α) α).serveAll Catalogue.loader
          (requests.filter (·.concerns buffer)) = .ok (repliesFor buffer requests replies, alone) ∧
      alone.buffers.get? buffer = t.buffers.get? buffer ∧
      ∀ request : Request (Catalogue α), request.concerns buffer → (request.Performs fun _ => True) →
        ((alone.serve Catalogue.loader request).map fun (reply, after) => (reply, after.buffers.get? buffer)) =
          (t.serve Catalogue.loader request).map fun (reply, after) => (reply, after.buffers.get? buffer) := by
  have fresh : AlikeFor before buffer ({ source := start } : Tokenizer (Catalogue α) α) { source := start } :=
    ⟨begins.coherent, begins.coherent, rfl⟩
  obtain ⟨alone, history, served, alike⟩ := fresh.serveAll perform run
  refine ⟨alone, served, alike.known, fun request concerns performs => ?_⟩
  rcases alike.serve concerns performs with ⟨fault, wrong, again⟩ | ⟨reply, ofFirst, ofSecond, _, served, again, after⟩
  · rw [wrong, again]
  · rw [served, again]
    simp only [Except.map, after.known]

/-- While a buffer is tokenized, another one asks for a scope that nobody registered, finds that a new definition does
not compile, and is given up. -/
def sideBySide : List (Request (Catalogue Nat)) :=
  [.change fun c => c.perform (.registerGrammar (leading 1)), .parse 0 "probe" ["ab"], .tryParse 1 "gone" ["x"],
    .change fun c => c.perform (.register ⟨"half", "probe", [], [⟨none, some "a", none, "x"⟩]⟩),
    .parse 1 "probe" ["ab"], .evict 1, .tryParse 0 "probe" ["ab", "cd"]]

theorem serveAll_alone_sideBySide : ∃ replies t alone,
    ({ source := {} } : Tokenizer (Catalogue Nat) Nat).serveAll Catalogue.loader sideBySide = .ok (replies, t) ∧
      ({ source := {} } : Tokenizer (Catalogue Nat) Nat).serveAll Catalogue.loader
          [sideBySide[0], .parse 0 "probe" ["ab"], sideBySide[3], .tryParse 0 "probe" ["ab", "cd"]] =
        .ok (repliesFor 0 sideBySide replies, alone) ∧
      alone.buffers.get? 0 = t.buffers.get? 0 ∧
      ((alone.serve Catalogue.loader (.tryParse 0 "probe" ["cd"])).map fun (reply, after) =>
          (reply, after.buffers.get? 0)) =
        (t.serve Catalogue.loader (.tryParse 0 "probe" ["cd"])).map fun (reply, after) =>
          (reply, after.buffers.get? 0) := by
  obtain ⟨replies, t, run⟩ : ∃ replies t,
      ({ source := {} } : Tokenizer (Catalogue Nat) Nat).serveAll Catalogue.loader sideBySide = .ok (replies, t) :=
    ⟨_, _, rfl⟩
  have perform : ∀ request ∈ sideBySide, request.Performs fun _ => True := by
    simp only [sideBySide, List.forall_mem_cons]
    exact ⟨⟨_, trivial, rfl⟩, trivial, trivial, ⟨_, trivial, rfl⟩, trivial, trivial, trivial,
      fun _ member => absurd member List.not_mem_nil⟩
  obtain ⟨alone, served, known, next⟩ := serveAll_alone .empty perform run 0
  exact ⟨replies, t, alone, run, served, known, next (.tryParse 0 "probe" ["cd"]) rfl trivial⟩

end Tokenizer

end Highlighter
