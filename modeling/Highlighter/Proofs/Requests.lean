import Highlighter.Proofs.Rows

namespace Highlighter

variable {σ α : Type}

/-- What becomes of lines when the cache holds what is known of their buffer. Either nothing has changed, or there is
no grammar and the rows above the first change are kept, or the rows from there on are tokenized. -/
inductive ParseStep (loader : Loader σ α) (t : Tokenizer σ α) (cache : BufferCache α) (buffer : Nat) (scope : String)
    (lines : List String) : Parse σ α → Prop
  | unchanged : cache.lines = lines →
      ParseStep loader t cache buffer scope lines ⟨.ok ⟨cache.tokens, none⟩, [], t.store buffer cache⟩
  | failed {row problem source} : firstChange cache.lines lines = some row →
      loader.load t.source scope = (.error problem, source) →
      ParseStep loader t cache buffer scope lines
        ⟨.error problem, [.load scope], { t.store buffer (cache.cut row) with source }⟩
  | tokenized {row grammar source results} : firstChange cache.lines lines = some row →
      loader.load t.source scope = (.ok grammar, source) →
      grammar.scratch row ((cache.cut row).stateBefore row) (lines.drop row) = .ok results →
      ParseStep loader t cache buffer scope lines
        ⟨.ok ⟨((cache.cut row).extend (lines.drop row) results).tokens, some row⟩,
          .load scope :: callsFor row ((cache.cut row).stateBefore row) (lines.drop row) (results.map Prod.snd),
          { t.store buffer ((cache.cut row).extend (lines.drop row) results) with source }⟩

theorem firstChange_eq_none {old new : List String} : firstChange old new = none ↔ old = new := by
  unfold firstChange
  split <;> simp_all

theorem firstChange_eq_some {old new : List String} {row : Nat} :
    firstChange old new = some row ↔ old ≠ new ∧ row = commonLines old new := by
  unfold firstChange
  split <;> simp_all [eq_comm]

namespace Tokenizer

variable {loader : Loader σ α} {t : Tokenizer σ α} {buffer : Nat} {scope : String} {lines : List String}
  {parse : Parse σ α}

theorem parse_unchanged (same : (t.cacheFor buffer scope).lines = lines) :
    t.parse loader buffer scope lines =
      .ok ⟨.ok ⟨(t.cacheFor buffer scope).tokens, none⟩, [], t.store buffer (t.cacheFor buffer scope)⟩ := by
  simp only [Tokenizer.parse, answer, firstChange_eq_none.mpr same]
  rfl

theorem parse_failed {row : Nat} {problem : GrammarError} {source : σ}
    (changed : firstChange (t.cacheFor buffer scope).lines lines = some row)
    (load : loader.load t.source scope = (.error problem, source)) :
    t.parse loader buffer scope lines = .ok ⟨.error problem, [.load scope],
      { t.store buffer ((t.cacheFor buffer scope).cut row) with source }⟩ := by
  simp only [Tokenizer.parse, answer, changed, StateT.run_bind, Loader.call_run, load]
  rfl

theorem parse_tokenized {row : Nat} {grammar : Grammar α} {source : σ}
    (changed : firstChange (t.cacheFor buffer scope).lines lines = some row)
    (load : loader.load t.source scope = (.ok grammar, source)) :
    t.parse loader buffer scope lines =
      (grammar.scratch row (((t.cacheFor buffer scope).cut row).stateBefore row) (lines.drop row)).map fun results =>
        ⟨.ok ⟨(((t.cacheFor buffer scope).cut row).extend (lines.drop row) results).tokens, some row⟩,
          .load scope :: callsFor row (((t.cacheFor buffer scope).cut row).stateBefore row) (lines.drop row)
            (results.map Prod.snd),
          { t.store buffer (((t.cacheFor buffer scope).cut row).extend (lines.drop row) results) with source }⟩ := by
  simp only [Tokenizer.parse, answer, changed, StateT.run_bind, Loader.call_run, load, ok_bind,
    Grammar.tokenizeRows_run]
  rcases grammar.scratch row _ (lines.drop row) with fault | results
  · rfl
  · simp only [Except.map, ok_bind, StateT.run_pure, pure_bind, List.reverse_append, List.reverse_reverse]
    rfl

theorem parse_ok_iff : t.parse loader buffer scope lines = .ok parse ↔
    ParseStep loader t (t.cacheFor buffer scope) buffer scope lines parse := by
  constructor
  · intro run
    rcases changed : firstChange (t.cacheFor buffer scope).lines lines with _ | row
    · rw [parse_unchanged (firstChange_eq_none.mp changed)] at run
      cases run
      exact .unchanged (firstChange_eq_none.mp changed)
    · rcases load : loader.load t.source scope with ⟨problem | grammar, source⟩
      · rw [parse_failed changed load] at run
        cases run
        exact .failed changed load
      · rw [parse_tokenized changed load] at run
        rcases results : grammar.scratch row (((t.cacheFor buffer scope).cut row).stateBefore row)
          (lines.drop row) with fault | results
        · rw [results] at run
          cases run
        · rw [results] at run
          cases run
          exact .tokenized changed load results
  · intro step
    cases step with
    | unchanged same => exact parse_unchanged same
    | failed changed load => exact parse_failed changed load
    | tokenized changed load results =>
      rw [parse_tokenized changed load, results]
      rfl

theorem parse_total (inLine : ∀ grammar source, loader.load t.source scope = (.ok grammar, source) → grammar.InLine) :
    ∃ parse, t.parse loader buffer scope lines = .ok parse := by
  rcases changed : firstChange (t.cacheFor buffer scope).lines lines with _ | row
  · exact ⟨_, parse_unchanged (firstChange_eq_none.mp changed)⟩
  · rcases load : loader.load t.source scope with ⟨problem | grammar, source⟩
    · exact ⟨_, parse_failed changed load⟩
    · obtain ⟨results, run⟩ := (inLine grammar source load).scratch_total row
        (((t.cacheFor buffer scope).cut row).stateBefore row) (lines.drop row)
      exact ⟨_, parse_ok_iff.mpr (.tokenized changed load run)⟩

/-- Where a grammar is to be had, there are tokens. -/
theorem answered_of_load {grammar : Grammar α} {source : σ} (load : loader.load t.source scope = (.ok grammar, source))
    (run : t.parse loader buffer scope lines = .ok parse) : ∃ answer, parse.answer = .ok answer := by
  cases parse_ok_iff.mp run with
  | unchanged _ => exact ⟨_, rfl⟩
  | failed _ failure => cases load.symm.trans failure
  | tokenized _ _ _ => exact ⟨_, rfl⟩

theorem store_get? (t : Tokenizer σ α) (buffer other : Nat) (cache : BufferCache α) :
    (t.store buffer cache).buffers.get? other = if other = buffer then some cache else t.buffers.get? other :=
  Table.get?_insert t.buffers buffer other cache

theorem cacheFor_scope (t : Tokenizer σ α) (buffer : Nat) (scope : String) :
    (t.cacheFor buffer scope).scope = scope := by
  unfold cacheFor
  split
  · split
    · assumption
    · rfl
  · rfl

theorem cacheFor_unknown (unknown : t.buffers.get? buffer = none) (scope : String) :
    t.cacheFor buffer scope = { scope } := by
  unfold cacheFor
  rw [unknown]

theorem cacheFor_known {cache : BufferCache α} (known : t.buffers.get? buffer = some cache) (scope : String) :
    t.cacheFor buffer scope = if cache.scope = scope then cache else { scope } := by
  unfold cacheFor
  rw [known]

theorem cacheFor_store (t : Tokenizer σ α) (source : σ) (buffer other : Nat) (cache : BufferCache α) (scope : String) :
    ({ t.store buffer cache with source } : Tokenizer σ α).cacheFor other scope =
      if other = buffer then if cache.scope = scope then cache else { scope } else t.cacheFor other scope := by
  unfold cacheFor
  rw [show ({ t.store buffer cache with source } : Tokenizer σ α).buffers = (t.store buffer cache).buffers from rfl,
    store_get?]
  by_cases here : other = buffer
  · rw [if_pos here, if_pos here]
  · rw [if_neg here, if_neg here]

theorem cacheFor_evict (t : Tokenizer σ α) (buffer other : Nat) (scope : String) :
    (t.evict buffer).2.cacheFor other scope = if other = buffer then { scope } else t.cacheFor other scope := by
  simp only [cacheFor, evict, Table.get?_erase]
  by_cases here : other = buffer
  · rw [if_pos here, if_pos here]
  · rw [if_neg here, if_neg here]

theorem cacheFor_congr {u : Tokenizer σ α} (same : u.buffers.get? buffer = t.buffers.get? buffer) (scope : String) :
    u.cacheFor buffer scope = t.cacheFor buffer scope := by
  unfold cacheFor
  rw [same]

end Tokenizer

theorem ParseStep.keeps_others {loader : Loader σ α} {t : Tokenizer σ α} {cache : BufferCache α} {buffer : Nat}
    {scope : String} {lines : List String} {parse : Parse σ α}
    (step : ParseStep loader t cache buffer scope lines parse) {other : Nat} (different : other ≠ buffer) :
    parse.tokenizer.buffers.get? other = t.buffers.get? other := by
  cases step <;> exact (t.store_get? buffer other _).trans (if_neg different)

/-- What a host asks of a tokenizer. Between two other requests it may change what grammars are had from. -/
inductive Request (σ : Type) where
  | parse (buffer : Nat) (scope : String) (lines : List String)
  | tryParse (buffer : Nat) (scope : String) (lines : List String)
  | evict (buffer : Nat)
  | change (update : σ → σ)

inductive Reply where
  | parsed (answer : Answer)
  | tried (answer : Except GrammarError Answer)
  | evicted (known : Bool)
  | changed
deriving DecidableEq

/-- A request that is not for a buffer. -/
def Request.Spares (buffer : Nat) : Request σ → Prop
  | .parse other _ _ | .tryParse other _ _ | .evict other => other ≠ buffer
  | .change _ => True

namespace Tokenizer

def serve (loader : Loader σ α) (t : Tokenizer σ α) : Request σ → Except Fault (Reply × Tokenizer σ α)
  | .parse buffer scope lines => do
    let parse ← t.parse loader buffer scope lines
    return (.parsed parse.answerOrNone, parse.tokenizer)
  | .tryParse buffer scope lines => do
    let parse ← t.parse loader buffer scope lines
    return (.tried parse.answer, parse.tokenizer)
  | .evict buffer => return (.evicted (t.evict buffer).1, (t.evict buffer).2)
  | .change update => return (.changed, { t with source := update t.source })

/-- All that can become of a tokenizer when it serves a request. -/
theorem serve_cases {loader : Loader σ α} {t after : Tokenizer σ α} {request : Request σ} {reply : Reply}
    (run : t.serve loader request = .ok (reply, after)) :
    (∃ buffer scope lines parse, (request = .parse buffer scope lines ∨ request = .tryParse buffer scope lines) ∧
        t.parse loader buffer scope lines = .ok parse ∧ after = parse.tokenizer) ∨
      (∃ buffer, request = .evict buffer ∧ after = (t.evict buffer).2) ∨
      ∃ update, request = .change update ∧ after = { t with source := update t.source } := by
  cases request with
  | parse buffer scope lines =>
    obtain ⟨parse, parsed, run⟩ := bind_eq_ok run
    cases run
    exact .inl ⟨buffer, scope, lines, parse, .inl rfl, parsed, rfl⟩
  | tryParse buffer scope lines =>
    obtain ⟨parse, parsed, run⟩ := bind_eq_ok run
    cases run
    exact .inl ⟨buffer, scope, lines, parse, .inr rfl, parsed, rfl⟩
  | evict buffer =>
    cases run
    exact .inr (.inl ⟨buffer, rfl, rfl⟩)
  | change update =>
    cases run
    exact .inr (.inr ⟨update, rfl, rfl⟩)

/-- The replies to requests that are served one after another, and the tokenizer after them. -/
def serveAll (loader : Loader σ α) (t : Tokenizer σ α) :
    List (Request σ) → Except Fault (List Reply × Tokenizer σ α)
  | [] => return ([], t)
  | request :: requests => do
    let (reply, t) ← t.serve loader request
    let (replies, t) ← t.serveAll loader requests
    return (reply :: replies, t)

end Tokenizer

/-- A request that does not lead out of some sources. -/
def Request.Keeps (sources : σ → Prop) : Request σ → Prop
  | .change update => ∀ source, sources source → sources (update source)
  | _ => True

theorem Request.keeps_any (request : Request σ) : request.Keeps fun _ => True := by
  cases request with
  | change update => exact fun _ _ => trivial
  | parse _ _ _ => trivial
  | tryParse _ _ _ => trivial
  | evict _ => trivial

/-- As long as its source is one of these, a loader gives only grammars that are allowed for their scope. Whether it
gives any is open. -/
structure Loader.Gives (loader : Loader σ α) (sources : σ → Prop) (allowed : String → Grammar α → Prop) : Prop where
  grammar : ∀ {source scope given after}, sources source → loader.load source scope = (.ok given, after) →
    allowed scope given
  source : ∀ {source} (scope : String), sources source → sources (loader.load source scope).2

/-- All rows that allowed grammars make meet the condition of their scope. -/
def Impose (allowed : String → Grammar α → Prop) (R : String → RowCondition α) : Prop :=
  ∀ scope grammar, allowed scope grammar → ∀ row prior line tokens state,
    grammar.Makes row prior line tokens state → R scope row prior line tokens state

/-- A tokenizer that is at one of some sources and knows only rows that meet the condition of their scope. -/
structure Tokenizer.Sound (sources : σ → Prop) (R : String → RowCondition α) (t : Tokenizer σ α) : Prop where
  source : sources t.source
  caches : ∀ {buffer cache}, t.buffers.get? buffer = some cache → cache.Holds (R cache.scope)

/-- Whatever a loader gives is some grammar, and its rows meet the condition that all rows meet. -/
theorem Loader.gives_any (loader : Loader σ α) : loader.Gives (fun _ => True) fun _ _ => True :=
  ⟨fun _ _ => trivial, fun _ _ => trivial⟩

theorem impose_any (allowed : String → Grammar α → Prop) : Impose allowed fun _ _ _ _ _ _ => True :=
  fun _ _ _ _ _ _ _ _ _ => trivial

namespace Tokenizer

variable {loader : Loader σ α} {sources : σ → Prop} {allowed : String → Grammar α → Prop}
  {R : String → RowCondition α} {t : Tokenizer σ α}

theorem sound_new {source : σ} (initial : sources source) : ({ source } : Tokenizer σ α).Sound sources R :=
  ⟨initial, fun found => nomatch found⟩

namespace Sound

theorem cacheFor (sound : t.Sound sources R) (buffer : Nat) (scope : String) :
    (t.cacheFor buffer scope).Holds (R scope) := by
  unfold Tokenizer.cacheFor
  split
  · rename_i cache found
    split
    · rename_i same
      exact same ▸ sound.caches found
    · exact BufferCache.holds_new scope
  · exact BufferCache.holds_new scope

theorem store (sound : t.Sound sources R) {source : σ} (reached : sources source) (buffer : Nat)
    {cache : BufferCache α} (holds : cache.Holds (R cache.scope)) :
    ({ t.store buffer cache with source } : Tokenizer σ α).Sound sources R := by
  refine ⟨reached, fun {other known} found => ?_⟩
  rw [show ({ t.store buffer cache with source } : Tokenizer σ α).buffers = (t.store buffer cache).buffers from rfl,
    store_get?] at found
  split at found
  · cases found
    exact holds
  · exact sound.caches found

/-- A parse leaves the buffer with rows that meet the condition of the scope. If it is answered with tokens, these are
the tokens of the rows, and the rows are those of the lines. -/
theorem parse (sound : t.Sound sources R) (gives : loader.Gives sources allowed) (impose : Impose allowed R)
    {buffer : Nat} {scope : String} {lines : List String} {parse : Parse σ α}
    (run : t.parse loader buffer scope lines = .ok parse) :
    parse.tokenizer.Sound sources R ∧ ∀ answer, parse.answer = .ok answer →
      ∃ results, Rows (R scope) 0 none lines results ∧ answer.tokens = results.flatMap Prod.fst ∧
        parse.tokenizer.buffers.get? buffer = some (.ofRows scope lines results) := by
  have known := sound.cacheFor buffer scope
  have here := t.cacheFor_scope buffer scope
  have step := parse_ok_iff.mp run
  generalize t.cacheFor buffer scope = cache at known here step
  cases step with
  | unchanged same =>
    refine ⟨sound.store sound.source buffer (by rwa [here]), ?_⟩
    intro answer success
    cases success
    obtain ⟨results, rows, whole⟩ := known
    rw [same, here] at whole
    exact ⟨results, same ▸ rows, congrArg BufferCache.tokens whole,
      by rw [store_get?, if_pos rfl, whole]⟩
  | @failed row problem source changed load =>
    have stays := gives.source scope sound.source
    rw [load] at stays
    have left : (cache.cut row).Holds (R (cache.cut row).scope) := by
      rw [show (cache.cut row).scope = scope from here]
      exact known.cut row
    exact ⟨sound.store stays buffer left, fun _ success => nomatch success⟩
  | @tokenized row grammar source rest changed load made =>
    have stays := gives.source scope sound.source
    rw [load] at stays
    have later := Rows.of_scratch (impose scope grammar (gives.grammar sound.source load)) made
    have sameRow := (firstChange_eq_some.mp changed).2
    subst sameRow
    obtain ⟨results, rows, whole⟩ := (known.cut _).renew later
    rw [here] at whole
    refine ⟨sound.store stays buffer ?_, ?_⟩
    · rw [whole]
      exact BufferCache.holds_ofRows rows
    · intro answer success
      cases success
      exact ⟨results, rows, congrArg BufferCache.tokens whole, by rw [store_get?, if_pos rfl, whole]⟩

theorem evict (sound : t.Sound sources R) (buffer : Nat) : (t.evict buffer).2.Sound sources R := by
  refine ⟨sound.source, fun {other cache} found => ?_⟩
  simp only [Tokenizer.evict, Table.get?_erase] at found
  split at found
  · exact nomatch found
  · exact sound.caches found

theorem serve (sound : t.Sound sources R) (gives : loader.Gives sources allowed) (impose : Impose allowed R)
    {request : Request σ} (keeps : request.Keeps sources) {reply : Reply} {after : Tokenizer σ α}
    (run : t.serve loader request = .ok (reply, after)) : after.Sound sources R := by
  rcases serve_cases run with ⟨buffer, scope, lines, parse, _, parsed, rfl⟩ | ⟨buffer, _, rfl⟩ | ⟨update, rfl, rfl⟩
  · exact (sound.parse gives impose parsed).1
  · exact sound.evict buffer
  · exact ⟨keeps _ sound.source, sound.caches⟩

end Sound

theorem serve_total (reachable : sources t.source) (gives : loader.Gives sources allowed)
    (inLine : ∀ {scope grammar}, allowed scope grammar → grammar.InLine) (request : Request σ) :
    ∃ reply after, t.serve loader request = .ok (reply, after) := by
  have parses (buffer : Nat) (scope : String) (lines : List String) :
      ∃ parse, t.parse loader buffer scope lines = .ok parse :=
    parse_total fun _ _ load => inLine (gives.grammar reachable load)
  cases request with
  | parse buffer scope lines =>
    obtain ⟨parse, parsed⟩ := parses buffer scope lines
    exact ⟨_, _, by simp only [serve, parsed]; rfl⟩
  | tryParse buffer scope lines =>
    obtain ⟨parse, parsed⟩ := parses buffer scope lines
    exact ⟨_, _, by simp only [serve, parsed]; rfl⟩
  | evict buffer => exact ⟨_, _, rfl⟩
  | change update => exact ⟨_, _, rfl⟩

theorem serveAll_cons {request : Request σ} {requests : List (Request σ)} {replies : List Reply}
    {after : Tokenizer σ α} (run : t.serveAll loader (request :: requests) = .ok (replies, after)) :
    ∃ reply rest between, t.serve loader request = .ok (reply, between) ∧
      between.serveAll loader requests = .ok (rest, after) ∧ replies = reply :: rest := by
  simp only [serveAll] at run
  obtain ⟨⟨reply, between⟩, first, run⟩ := bind_eq_ok run
  obtain ⟨⟨rest, final⟩, later, run⟩ := bind_eq_ok run
  cases run
  exact ⟨reply, rest, between, first, later, rfl⟩

theorem serve_spares {buffer : Nat} {request : Request σ} (spares : request.Spares buffer) {reply : Reply}
    {after : Tokenizer σ α} (run : t.serve loader request = .ok (reply, after)) :
    after.buffers.get? buffer = t.buffers.get? buffer := by
  rcases serve_cases run with ⟨other, scope, lines, parse, asked, parsed, rfl⟩ | ⟨other, rfl, rfl⟩ | ⟨update, _, rfl⟩
  · have different : buffer ≠ other := by rcases asked with rfl | rfl <;> exact Ne.symm spares
    exact (parse_ok_iff.mp parsed).keeps_others different
  · exact (Table.get?_erase ..).trans (if_neg (Ne.symm spares))
  · rfl

theorem serveAll_spares {buffer : Nat} {requests : List (Request σ)}
    (spare : ∀ request ∈ requests, request.Spares buffer) {replies : List Reply} {after : Tokenizer σ α}
    (run : t.serveAll loader requests = .ok (replies, after)) :
    after.buffers.get? buffer = t.buffers.get? buffer := by
  induction requests generalizing t replies with
  | nil =>
    cases run
    rfl
  | cons request requests ih =>
    obtain ⟨reply, rest, between, first, later, _⟩ := serveAll_cons run
    have kept := serve_spares (spare request List.mem_cons_self) first
    exact (ih (fun other member => spare other (List.mem_cons_of_mem _ member)) later).trans kept

theorem Sound.serveAll (sound : t.Sound sources R) (gives : loader.Gives sources allowed) (impose : Impose allowed R)
    {requests : List (Request σ)} (keep : ∀ request ∈ requests, request.Keeps sources) {replies : List Reply}
    {after : Tokenizer σ α} (run : t.serveAll loader requests = .ok (replies, after)) : after.Sound sources R := by
  induction requests generalizing t replies with
  | nil =>
    cases run
    exact sound
  | cons request requests ih =>
    obtain ⟨reply, rest, between, first, later, _⟩ := serveAll_cons run
    have next := sound.serve gives impose (keep request List.mem_cons_self) first
    exact ih next (fun other member => keep other (List.mem_cons_of_mem _ member)) later

/-- Where all grammars are in line, nothing goes wrong in any run. -/
theorem Sound.serveAll_total (sound : t.Sound sources R) (gives : loader.Gives sources allowed)
    (impose : Impose allowed R) (inLine : ∀ {scope grammar}, allowed scope grammar → grammar.InLine)
    {requests : List (Request σ)} (keep : ∀ request ∈ requests, request.Keeps sources) :
    ∃ replies after, t.serveAll loader requests = .ok (replies, after) ∧ after.Sound sources R := by
  induction requests generalizing t with
  | nil => exact ⟨[], t, rfl, sound⟩
  | cons request requests ih =>
    obtain ⟨reply, between, first⟩ := serve_total sound.source gives inLine request
    have next := sound.serve gives impose (keep request List.mem_cons_self) first
    obtain ⟨replies, after, rest, final⟩ := ih next fun other member => keep other (List.mem_cons_of_mem _ member)
    refine ⟨reply :: replies, after, ?_, final⟩
    simp only [Tokenizer.serveAll, first, ok_bind, rest]
    rfl

end Tokenizer

end Highlighter
