import Highlighter.CommandLine.Run
import Highlighter.Proofs.Changes
import Highlighter.Proofs.Registrations

namespace Highlighter

variable {α : Type}

theorem lastOf_append_all (history more : List (Registration α)) (scope : String) :
    lastOf (history ++ more) scope = (lastOf more scope).or (lastOf history scope) := by
  simp only [lastOf, List.reverse_append, List.find?_append]

/-- An operation after which a scope is loaded with what it was before: if it registers the scope, then with that. -/
def Operation.Retains (c : Catalogue α) (scope : String) (operation : Operation α) : Prop :=
  ∀ registration ∈ operation.registered, registration.scope = scope → registration.load = (c.load scope).1

namespace Catalogue

variable {c : Catalogue α} {history : List (Registration α)}

theorem Coherent.load_retained (coherent : c.Coherent history) {scope : String} {operation : Operation α}
    (retains : operation.Retains c scope) : ((c.perform operation).load scope).1 = (c.load scope).1 := by
  rw [(coherent.perform operation).load_eq, lastOf_append_all]
  rcases last : lastOf operation.registered scope with _ | registration
  · exact (coherent.load_eq scope).symm
  · exact retains registration (mem_of_lastOf last) (scope_of_lastOf last)

/-- The catalogues whose tables agree with what has been registered. -/
def IsCoherent (c : Catalogue α) : Prop := ∃ history, c.Coherent history

theorem loader_gives_any : (loader : Loader (Catalogue α) α).Gives IsCoherent fun _ _ => True where
  grammar _ _ := trivial
  source scope := fun ⟨history, coherent⟩ => ⟨history, coherent.load scope⟩

end Catalogue

open Catalogue

/-- A request that changes the catalogue, if at all, by an allowed operation. -/
def Request.Performs (allowed : Operation α → Prop) : Request (Catalogue α) → Prop
  | .change update => ∃ operation, allowed operation ∧ update = fun c => c.perform operation
  | _ => True

theorem Request.Performs.keeps {allowed : Operation α → Prop} {request : Request (Catalogue α)}
    (performs : request.Performs allowed) : request.Keeps IsCoherent := by
  cases request with
  | change update =>
    obtain ⟨operation, _, rfl⟩ := performs
    exact fun c ⟨history, coherent⟩ => ⟨_, coherent.perform operation⟩
  | parse _ _ _ => trivial
  | tryParse _ _ _ => trivial
  | evict _ => trivial

namespace Tokenizer

/-- A tokenizer at which a host arrives that parses, evicts, and performs operations on the catalogue. -/
def Reached (t : Tokenizer (Catalogue α) α) : Prop := ∃ start history requests replies, Begins start history ∧
  (∀ request ∈ requests, request.Performs fun _ => True) ∧
  ({ source := start } : Tokenizer (Catalogue α) α).serveAll Catalogue.loader requests = .ok (replies, t)

theorem Reached.sound {t : Tokenizer (Catalogue α) α} (reached : t.Reached) :
    t.Sound IsCoherent fun _ _ _ _ _ _ => True := by
  obtain ⟨start, history, requests, replies, begins, perform, run⟩ := reached
  have initial : start.IsCoherent := ⟨history, begins.coherent⟩
  exact (sound_new initial).serveAll loader_gives_any (impose_any _)
    (fun request member => (perform request member).keeps) run

/-- A tokenizer that has kept nothing of a buffer under a scope that is older than what the scope is registered with.
Once, it knew no line of the buffer, or a parse tokenized the buffer from its first line; since then, the scope has been
registered with nothing else. -/
inductive UpToDate (buffer : Nat) (scope : String) : Tokenizer (Catalogue α) α → Prop
  | blank {t : Tokenizer (Catalogue α) α} : t.Reached → (t.cacheFor buffer scope).lines = [] → UpToDate buffer scope t
  | renewed {t : Tokenizer (Catalogue α) α} {lines parse tokens} : t.Reached →
      t.parse Catalogue.loader buffer scope lines = .ok parse → parse.answer = .ok ⟨tokens, some 0⟩ →
      UpToDate buffer scope parse.tokenizer
  | next {t : Tokenizer (Catalogue α) α} {request reply after} : UpToDate buffer scope t →
      request.Performs (·.Retains t.source scope) → t.serve Catalogue.loader request = .ok (reply, after) →
      UpToDate buffer scope after

end Tokenizer

/-- A cache with the rows that the loaded grammar makes of its lines, or without any where there is no grammar. -/
def BufferCache.MadeBy (load : Except GrammarError (Grammar α)) (cache : BufferCache α) : Prop :=
  match load with
  | .ok grammar => cache.Holds grammar.Makes
  | .error _ => cache.lines = []

namespace BufferCache

variable {load : Except GrammarError (Grammar α)} {cache : BufferCache α}

theorem madeBy_new (load : Except GrammarError (Grammar α)) (scope : String) :
    ({ scope } : BufferCache α).MadeBy load := by
  cases load with
  | ok grammar => exact holds_new scope
  | error problem => rfl

theorem MadeBy.cut (made : cache.MadeBy load) (rows : Nat) : (cache.cut rows).MadeBy load := by
  cases load with
  | ok grammar => exact Holds.cut made rows
  | error problem =>
    have blank : cache.lines = [] := made
    simp only [MadeBy, BufferCache.cut, blank, List.take_nil]

theorem Holds.eq_new {R : RowCondition α} (holds : cache.Holds R) (blank : cache.lines = []) :
    cache = { scope := cache.scope } := by
  obtain ⟨results, rows, whole⟩ := holds
  rw [blank] at rows whole
  cases rows
  exact whole

theorem Holds.madeBy_of_blank {R : RowCondition α} (holds : cache.Holds R) (blank : cache.lines = []) :
    cache.MadeBy load := by
  rw [holds.eq_new blank]
  exact madeBy_new load cache.scope

end BufferCache

namespace ParseStep

variable {t : Tokenizer (Catalogue α) α} {cache : BufferCache α} {buffer : Nat} {scope : String}
  {lines : List String} {parse : Parse (Catalogue α) α}

/-- A parse puts some cache for its scope in the place of its buffer's, and may load. -/
theorem stored (step : ParseStep Catalogue.loader t cache buffer scope lines parse) :
    ∃ after source, parse.tokenizer = { t.store buffer after with source } ∧ after.scope = cache.scope ∧
      (source = t.source ∨ source = (t.source.load scope).2) := by
  cases step with
  | unchanged _ => exact ⟨cache, t.source, rfl, rfl, .inl rfl⟩
  | failed _ load => exact ⟨_, _, rfl, rfl, .inr (congrArg Prod.snd load).symm⟩
  | tokenized _ load _ => exact ⟨_, _, rfl, rfl, .inr (congrArg Prod.snd load).symm⟩

theorem load_kept (step : ParseStep Catalogue.loader t cache buffer scope lines parse)
    (coherent : t.source.IsCoherent) (other : String) :
    parse.tokenizer.source.IsCoherent ∧ (parse.tokenizer.source.load other).1 = (t.source.load other).1 := by
  obtain ⟨history, agrees⟩ := coherent
  obtain ⟨after, source, result, _, origin⟩ := step.stored
  rw [result]
  rcases origin with rfl | rfl
  · exact ⟨⟨history, agrees⟩, rfl⟩
  · exact ⟨⟨history, agrees.load scope⟩, (agrees.alike_load scope).load other⟩

/-- If the rows that are kept are made by the loaded grammar, then all rows are. -/
theorem madeBy (step : ParseStep Catalogue.loader t cache buffer scope lines parse) (here : cache.scope = scope)
    (whole : cache.lines = lines → cache.MadeBy (t.source.load scope).1)
    (kept : ∀ {row}, firstChange cache.lines lines = some row → (cache.cut row).MadeBy (t.source.load scope).1) :
    (parse.tokenizer.cacheFor buffer scope).MadeBy (t.source.load scope).1 := by
  cases step with
  | unchanged same =>
    have stored : (t.store buffer cache).cacheFor buffer scope = cache :=
      (t.cacheFor_store t.source buffer buffer cache scope).trans ((if_pos rfl).trans (if_pos here))
    rw [stored]
    exact whole same
  | @failed row problem source changed load =>
    rw [Tokenizer.cacheFor_store, if_pos rfl, if_pos (show (cache.cut row).scope = scope from here)]
    exact kept changed
  | @tokenized row grammar source results changed load made =>
    have loaded : (t.source.load scope).1 = .ok grammar := congrArg Prod.fst load
    rw [Tokenizer.cacheFor_store, if_pos rfl,
      if_pos (show ((cache.cut row).extend (lines.drop row) results).scope = scope from here)]
    have rows : Rows grammar.Makes _ _ _ results := .of_scratch (fun _ _ _ _ _ makes => makes) made
    have first := kept changed
    rw [loaded] at first ⊢
    obtain rfl := (firstChange_eq_some.mp changed).2
    obtain ⟨all, rows, same⟩ := BufferCache.Holds.renew first rows
    exact same ▸ BufferCache.holds_ofRows rows

end ParseStep

namespace Tokenizer

/-- What a tokenizer has kept of a buffer under a scope is made by the grammar that the scope is loaded with. -/
structure Current (buffer : Nat) (scope : String) (t : Tokenizer (Catalogue α) α) : Prop where
  coherent : t.source.IsCoherent
  made : (t.cacheFor buffer scope).MadeBy (t.source.load scope).1

namespace Current

variable {buffer : Nat} {scope : String} {t : Tokenizer (Catalogue α) α}

theorem parse (current : Current buffer scope t) {other : Nat} {otherScope : String} {lines : List String}
    {parse : Parse (Catalogue α) α} (parsed : t.parse Catalogue.loader other otherScope lines = .ok parse) :
    Current buffer scope parse.tokenizer := by
  have step := parse_ok_iff.mp parsed
  obtain ⟨coherent, same⟩ := step.load_kept current.coherent scope
  refine ⟨coherent, ?_⟩
  rw [same]
  by_cases different : buffer = other
  · subst different
    by_cases scopes : otherScope = scope
    · subst scopes
      exact step.madeBy (t.cacheFor_scope buffer otherScope) (fun _ => current.made) fun _ => current.made.cut _
    · obtain ⟨after, source, result, own, _⟩ := step.stored
      have other : after.scope ≠ scope :=
        fun equal => scopes ((own.trans (t.cacheFor_scope buffer otherScope)).symm.trans equal)
      rw [result, cacheFor_store, if_pos rfl, if_neg other]
      exact BufferCache.madeBy_new _ scope
  · rw [cacheFor_congr (step.keeps_others different) scope]
    exact current.made

theorem serve (current : Current buffer scope t) {request : Request (Catalogue α)}
    (performs : request.Performs (·.Retains t.source scope)) {reply : Reply} {after : Tokenizer (Catalogue α) α}
    (run : t.serve Catalogue.loader request = .ok (reply, after)) : Current buffer scope after := by
  rcases serve_cases run with ⟨other, otherScope, lines, parse, _, parsed, rfl⟩ | ⟨other, _, rfl⟩ | ⟨update, rfl, rfl⟩
  · exact current.parse parsed
  · refine ⟨current.coherent, ?_⟩
    rw [cacheFor_evict]
    split
    · exact BufferCache.madeBy_new _ scope
    · exact current.made
  · obtain ⟨operation, retains, rfl⟩ := performs
    obtain ⟨history, coherent⟩ := current.coherent
    exact ⟨⟨_, coherent.perform operation⟩, (coherent.load_retained retains).symm ▸ current.made⟩

end Current

theorem UpToDate.current {buffer : Nat} {scope : String} {t : Tokenizer (Catalogue α) α}
    (upToDate : UpToDate buffer scope t) : Current buffer scope t := by
  induction upToDate with
  | @blank t reached blank =>
    exact ⟨reached.sound.source, (reached.sound.cacheFor buffer scope).madeBy_of_blank blank⟩
  | @renewed t lines parse tokens reached parsed success =>
    have step := parse_ok_iff.mp parsed
    have known := reached.sound.cacheFor buffer scope
    obtain ⟨coherent, same⟩ := step.load_kept reached.sound.source scope
    have reported := step.changedFrom_eq success
    refine ⟨coherent, same ▸ step.madeBy (t.cacheFor_scope buffer scope) (fun unchanged => ?_) fun {row} changed => ?_⟩
    · rw [firstChange_eq_none.mpr unchanged] at reported
      cases reported
    · rw [changed] at reported
      cases reported
      exact (known.cut 0).madeBy_of_blank rfl
  | next _ performs run ih => exact ih.serve performs run

/-- A fresh tokenizer has the tokens that come of all lines from scratch. -/
theorem parse_fresh {σ : Type} {loader : Loader σ α} {source after : σ} {scope line : String} {lines : List String}
    {grammar : Grammar α} {results : List (List Token × LineState α)} (buffer : Nat)
    (load : loader.load source scope = (.ok grammar, after))
    (made : grammar.scratch 0 none (line :: lines) = .ok results) :
    ∃ parse, ({ source } : Tokenizer σ α).parse loader buffer scope (line :: lines) = .ok parse ∧
      parse.answer = .ok ⟨results.flatMap Prod.fst, some 0⟩ :=
  ⟨_, parse_ok_iff.mpr (.tokenized rfl load made), rfl⟩

/-- Where nothing that was kept is older than the registration of its scope, a parse that is answered with tokens has
those that a fresh tokenizer with the same catalogue gives. -/
theorem tokens_eq_fresh {t : Tokenizer (Catalogue α) α} (reached : t.Reached) {buffer : Nat} {scope : String}
    {lines : List String} {parse : Parse (Catalogue α) α} {answer : Answer}
    (parsed : t.parse Catalogue.loader buffer scope lines = .ok parse) (success : parse.answer = .ok answer)
    (upToDate : UpToDate buffer scope parse.tokenizer) :
    ∃ fresh freshAnswer,
      ({ source := t.source } : Tokenizer (Catalogue α) α).parse Catalogue.loader buffer scope lines = .ok fresh ∧
        fresh.answer = .ok freshAnswer ∧ freshAnswer.tokens = answer.tokens := by
  have sound := reached.sound
  obtain ⟨_, same⟩ := (parse_ok_iff.mp parsed).load_kept sound.source scope
  obtain ⟨_, answered⟩ := sound.parse loader_gives_any (impose_any _) parsed
  obtain ⟨results, rows, tokens, stored⟩ := answered answer success
  have cached : parse.tokenizer.cacheFor buffer scope = .ofRows scope lines results :=
    (cacheFor_known stored scope).trans (if_pos rfl)
  have made := upToDate.current.made
  rw [same, cached] at made
  -- a fresh tokenizer takes the empty text for unchanged, and begins any other with its first line
  rcases lines with _ | ⟨line, lines⟩
  · cases rows
    exact ⟨_, _, parse_unchanged rfl, rfl, tokens.symm⟩
  · rcases load : Catalogue.loader.load t.source scope with ⟨problem | grammar, source⟩
    · have loaded : (t.source.load scope).1 = .error problem := congrArg Prod.fst load
      rw [loaded] at made
      exact nomatch (show line :: lines = [] from made)
    · have loaded : (t.source.load scope).1 = .ok grammar := congrArg Prod.fst load
      rw [loaded] at made
      obtain ⟨others, made, whole⟩ := made
      obtain ⟨fresh, run, found⟩ := parse_fresh buffer load made.scratch
      exact ⟨fresh, _, run, found, (congrArg BufferCache.tokens whole).symm.trans tokens.symm⟩

/-- A grammar that reports the first characters of each line. -/
def leading (count : Nat) : Grammar Nat where
  scope := "probe"
  tokenizeLine line _ := .ok ⟨[⟨0, min count line.length, ["probe"]⟩], .other 0⟩

/-- A scope is registered again between two parses. -/
def registeredAgain : List (Request (Catalogue Nat)) :=
  [.change fun c => c.perform (.registerGrammar (leading 1)), .parse 0 "probe" ["ab", "cd"],
    .change fun c => c.perform (.registerGrammar (leading 2))]

theorem performs_registeredAgain : ∀ request ∈ registeredAgain, request.Performs fun _ => True := by
  simp only [registeredAgain, List.forall_mem_cons]
  exact ⟨⟨_, trivial, rfl⟩, trivial, ⟨_, trivial, rfl⟩, fun _ member => absurd member List.not_mem_nil⟩

theorem tokens_eq_fresh_renewed : ∃ replies t parse answer fresh freshAnswer,
    ({ source := {} } : Tokenizer (Catalogue Nat) Nat).serveAll Catalogue.loader
        (registeredAgain ++ [.tryParse 0 "probe" ["xy", "cd"]]) = .ok (replies, t) ∧
      t.parse Catalogue.loader 0 "probe" ["xy", "ef"] = .ok parse ∧ parse.answer = .ok answer ∧
      answer.changedFrom = some 1 ∧ UpToDate 0 "probe" parse.tokenizer ∧
      ({ source := t.source } : Tokenizer (Catalogue Nat) Nat).parse Catalogue.loader 0 "probe" ["xy", "ef"] =
        .ok fresh ∧
      fresh.answer = .ok freshAnswer ∧ freshAnswer.tokens = answer.tokens := by
  obtain ⟨before, u, first, tokens, replies, parse, answer, registered, parsedFirst, fromTop, served, parsed, success,
      changed⟩ : ∃ before u first tokens replies parse answer,
      ({ source := {} } : Tokenizer (Catalogue Nat) Nat).serveAll Catalogue.loader registeredAgain = .ok (before, u) ∧
        u.parse Catalogue.loader 0 "probe" ["xy", "cd"] = .ok first ∧ first.answer = .ok ⟨tokens, some 0⟩ ∧
        ({ source := {} } : Tokenizer (Catalogue Nat) Nat).serveAll Catalogue.loader
            (registeredAgain ++ [.tryParse 0 "probe" ["xy", "cd"]]) = .ok (replies, first.tokenizer) ∧
        first.tokenizer.parse Catalogue.loader 0 "probe" ["xy", "ef"] = .ok parse ∧ parse.answer = .ok answer ∧
        answer.changedFrom = some 1 :=
    ⟨_, _, _, _, _, _, _, rfl, rfl, rfl, rfl, rfl, rfl, rfl⟩
  have performs : ∀ request ∈ registeredAgain ++ [.tryParse 0 "probe" ["xy", "cd"]], request.Performs fun _ => True :=
    List.forall_mem_append.mpr ⟨performs_registeredAgain, List.forall_mem_singleton.mpr trivial⟩
  have reached : first.tokenizer.Reached := ⟨_, _, _, _, .empty, performs, served⟩
  have renewed : UpToDate 0 "probe" first.tokenizer :=
    .renewed ⟨_, _, _, _, .empty, performs_registeredAgain, registered⟩ parsedFirst fromTop
  have tried : first.tokenizer.serve Catalogue.loader (.tryParse 0 "probe" ["xy", "ef"]) =
      .ok (.tried parse.answer, parse.tokenizer) := by
    simp only [Tokenizer.serve, parsed, ok_bind]
    rfl
  have nothingDone : (Request.tryParse 0 "probe" ["xy", "ef"] : Request (Catalogue Nat)).Performs
      (·.Retains first.tokenizer.source "probe") := trivial
  have upToDate : UpToDate 0 "probe" parse.tokenizer := renewed.next nothingDone tried
  obtain ⟨fresh, freshAnswer, run, found, same⟩ := tokens_eq_fresh reached parsed success upToDate
  exact ⟨replies, _, parse, answer, fresh, freshAnswer, served, parsed, success, changed, upToDate, run, found, same⟩

/-- The tokens of the grammar that has been replaced stay: all of them if the text is the same, and
beside tokens of its replacement if only a later line has changed. -/
theorem stale_of_registeredAgain : ∃ replies t same edited fresh,
    ({ source := {} } : Tokenizer (Catalogue Nat) Nat).serveAll Catalogue.loader registeredAgain = .ok (replies, t) ∧
      t.parse Catalogue.loader 0 "probe" ["ab", "cd"] = .ok same ∧
      same.answer = .ok ⟨[⟨1, 1, 1, ["probe"]⟩, ⟨2, 1, 1, ["probe"]⟩], none⟩ ∧
      t.parse Catalogue.loader 0 "probe" ["ab", "ef"] = .ok edited ∧
      edited.answer = .ok ⟨[⟨1, 1, 1, ["probe"]⟩, ⟨2, 1, 2, ["probe"]⟩], some 1⟩ ∧
      ({ source := t.source } : Tokenizer (Catalogue Nat) Nat).parse Catalogue.loader 0 "probe" ["ab", "ef"] =
        .ok fresh ∧
      fresh.answer = .ok ⟨[⟨1, 1, 2, ["probe"]⟩, ⟨2, 1, 2, ["probe"]⟩], some 0⟩ :=
  ⟨_, _, _, _, _, rfl, rfl, rfl, rfl, rfl, rfl, rfl⟩

end Tokenizer

end Highlighter
