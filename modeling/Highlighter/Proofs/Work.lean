import Highlighter.Proofs.Incremental

namespace Highlighter

variable {σ α : Type}

/-- Lines that two texts both begin with, and no fewer than any others that they both begin with. -/
structure IsLongestCommonPrefix (old new common : List String) : Prop where
  begins_old : common <+: old
  begins_new : common <+: new
  longest : ∀ {other}, other <+: old → other <+: new → other.length ≤ common.length

theorem commonLines_longest (old new : List String) :
    IsLongestCommonPrefix old new (old.take (commonLines old new)) where
  begins_old := List.take_prefix ..
  begins_new := (commonLines_take old new).2.2 ▸ List.take_prefix ..
  longest := by
    intro other atOld atNew
    rw [List.length_take_of_le (commonLines_take old new).1]
    induction other generalizing old new with
    | nil => exact Nat.zero_le _
    | cons line other ih =>
      obtain ⟨old, rfl, restOld⟩ := List.cons_prefix_iff.mp atOld
      obtain ⟨new, rfl, restNew⟩ := List.cons_prefix_iff.mp atNew
      have rest := ih old new restOld restNew
      simp only [commonLines, if_true, List.length_cons]
      omega

/-- The calls for all lines from a row on, with the states that they are given. -/
theorem callsFor_eq {row : Nat} {lines : List String} {states : List (LineState α)}
    (before : Nat → Option (LineState α)) (length : states.length = lines.length)
    (left : ∀ i state, states[i]? = some state → before (row + i + 1) = some state) :
    callsFor row (before row) lines states =
      (lines.zipIdx row).map fun (line, row) => .tokenize row line (before row) := by
  induction lines generalizing row states with
  | nil => simp [callsFor]
  | cons line lines ih =>
    obtain _ | ⟨state, states⟩ := states
    · cases length
    · have next := left 0 state rfl
      have below : ∀ i state, states[i]? = some state → before (row + 1 + i + 1) = some state := by
        intro i state found
        have later := left (i + 1) state found
        rwa [show row + (i + 1) + 1 = row + 1 + i + 1 by omega] at later
      have rest := ih (Nat.succ.inj length) below
      rw [Nat.add_zero] at next
      simp only [callsFor, List.zipIdx_cons, List.map_cons, ← next, rest]

theorem zipIdx_drop {β : Type} (xs : List β) (n : Nat) : xs.zipIdx.drop n = (xs.drop n).zipIdx n := by
  apply List.ext_getElem?
  intro i
  simp only [List.getElem?_drop, List.getElem?_zipIdx, Nat.zero_add]

namespace BufferCache

variable {R : RowCondition α} {cache : BufferCache α} {rows : Nat} {lines : List String}
  {results : List (List Token × LineState α)}

theorem Holds.cut_eq (holds : cache.Holds R) (rows : Nat) : cache.cut rows =
    ⟨cache.scope, cache.lines.take rows, cache.states.take rows,
      cache.tokens.filter fun token => token.line ≤ rows⟩ := by
  obtain ⟨results, known, whole⟩ := holds
  have same := (known.takeWhile_tokens rows).trans (known.filter_tokens rows).symm
  rw [Nat.zero_add] at same
  rw [whole]
  simp only [BufferCache.cut, ofRows, same]

theorem stateBefore_extend (row : Nat) (known : row ≤ cache.states.length) :
    (cache.extend lines results).stateBefore row = cache.stateBefore row := by
  unfold stateBefore
  split
  · rfl
  · exact List.getElem?_append_left (by omega)

/-- The tokens of later rows are none of the first ones. -/
theorem filter_extend {above : Option (LineState α)} (later : Rows R rows above lines results) :
    ((cache.extend lines results).tokens.filter fun token => token.line ≤ rows) =
      cache.tokens.filter fun token => token.line ≤ rows := by
  have none_ : ((results.flatMap Prod.fst).filter fun token => token.line ≤ rows) = [] := later.filter_tokens 0
  simp only [extend, List.filter_append, none_, List.append_nil]

/-- Each of the rows that a cache goes on with was given the state before it. -/
theorem callsFor_extend {above : Option (LineState α)} (length : cache.states.length = rows)
    (later : Rows R rows above lines results) :
    callsFor rows (cache.stateBefore rows) lines (results.map Prod.snd) =
      (lines.zipIdx rows).map fun (line, row) => .tokenize row line ((cache.extend lines results).stateBefore row) := by
  rw [← stateBefore_extend rows (by omega)]
  refine callsFor_eq _ (by rw [List.length_map, later.length]) fun i state found => ?_
  simp only [stateBefore, extend]
  rw [if_neg (by omega), List.getElem?_append_right (by omega), ← found]
  congr 1
  omega

end BufferCache

/-- What a parse does, where the cache holds what is known of its buffer under its scope and the text begins with that
many of the cached lines. -/
structure ParseWork (loader : Loader σ α) (t : Tokenizer σ α) (cache : BufferCache α) (buffer : Nat) (scope : String)
    (lines : List String) (same : Nat) : Prop where
  unchanged : cache.lines = lines → ∃ parse, t.parse loader buffer scope lines = .ok parse ∧ parse.calls = [] ∧
    parse.answer = .ok ⟨cache.tokens, none⟩ ∧ parse.tokenizer.source = t.source ∧
    parse.tokenizer.buffers.get? buffer = some cache
  failed : cache.lines ≠ lines → ∀ {problem source}, loader.load t.source scope = (.error problem, source) →
    ∃ parse, t.parse loader buffer scope lines = .ok parse ∧ parse.calls = [.load scope] ∧
      parse.answer = .error problem ∧ parse.tokenizer.source = source ∧
      parse.tokenizer.buffers.get? buffer = some ⟨scope, lines.take same, cache.states.take same,
        cache.tokens.filter fun token => token.line ≤ same⟩
  total : ∀ {grammar source}, loader.load t.source scope = (.ok grammar, source) → grammar.InLine →
    ∃ parse, t.parse loader buffer scope lines = .ok parse
  tokenized : cache.lines ≠ lines → ∀ {grammar source}, loader.load t.source scope = (.ok grammar, source) →
    ∀ {parse}, t.parse loader buffer scope lines = .ok parse →
      ∃ after, parse.tokenizer.buffers.get? buffer = some after ∧ parse.answer = .ok ⟨after.tokens, some same⟩ ∧
        parse.calls = .load scope ::
          ((lines.zipIdx.drop same).map fun (line, row) => .tokenize row line (after.stateBefore row)) ∧
        parse.tokenizer.source = source ∧ after.scope = scope ∧ after.lines = lines ∧
        after.states.take same = cache.states.take same ∧
        (after.tokens.filter fun token => token.line ≤ same) = cache.tokens.filter fun token => token.line ≤ same
  others : ∀ {parse}, t.parse loader buffer scope lines = .ok parse → ∀ {other}, other ≠ buffer →
    parse.tokenizer.buffers.get? other = t.buffers.get? other

namespace Tokenizer

variable {loader : Loader σ α} {t : Tokenizer σ α}

/-- Whatever a tokenizer was asked for before, what it knows of a buffer are rows. -/
theorem sound_reached {start : σ} {requests : List (Request σ)} {replies : List Reply}
    (run : ({ source := start } : Tokenizer σ α).serveAll loader requests = .ok (replies, t)) :
    t.Sound (fun _ => True) fun _ _ _ _ _ _ => True :=
  (sound_new trivial).serveAll loader.gives_any (impose_any _) (fun request _ => request.keeps_any) run

/-- The work of a parse after any requests: of the lines that are cached under the scope, the first ones that the new
text has too are kept, and the others are tokenized. -/
theorem parse_work {start : σ} {requests : List (Request σ)} {replies : List Reply}
    (run : ({ source := start } : Tokenizer σ α).serveAll loader requests = .ok (replies, t)) (buffer : Nat)
    (scope : String) (lines : List String) :
    ∃ common, IsLongestCommonPrefix (t.cacheFor buffer scope).lines lines common ∧
      ParseWork loader t (t.cacheFor buffer scope) buffer scope lines common.length := by
  have known := (sound_reached run).cacheFor buffer scope
  have here := t.cacheFor_scope buffer scope
  obtain ⟨atLeast, _, alike⟩ := commonLines_take (t.cacheFor buffer scope).lines lines
  refine ⟨_, commonLines_longest _ lines, ?_⟩
  rw [List.length_take_of_le atLeast]
  have kept := known.cut_eq (commonLines (t.cacheFor buffer scope).lines lines)
  constructor
  · intro same
    exact ⟨_, parse_unchanged same, rfl, rfl, rfl, (t.store_get? ..).trans (if_pos rfl)⟩
  · intro differ problem source load
    rw [here, alike] at kept
    exact ⟨_, parse_failed (firstChange_eq_some.mpr ⟨differ, rfl⟩) load, rfl, rfl, rfl,
      (t.store_get? ..).trans ((if_pos rfl).trans (congrArg some kept))⟩
  · intro grammar source load inLine
    refine parse_total fun other _ loaded => ?_
    rw [load] at loaded
    cases loaded
    exact inLine
  · intro differ grammar source load parse parsed
    cases parse_ok_iff.mp parsed with
    | unchanged same => exact absurd same differ
    | failed _ failure => cases load.symm.trans failure
    | @tokenized row _ _ results changed loaded made =>
      cases load.symm.trans loaded
      have row_eq := (firstChange_eq_some.mp changed).2
      subst row_eq
      have length := List.length_take_of_le (known.length_states ▸ atLeast)
      have later : Rows (fun _ _ _ _ _ => True) _ _ _ results := .of_scratch (fun _ _ _ _ _ _ => trivial) made
      refine ⟨_, (t.store_get? ..).trans (if_pos rfl), rfl, ?_, rfl, here, ?_, ?_, ?_⟩
      · rw [BufferCache.callsFor_extend length later, zipIdx_drop]
      · simp only [BufferCache.extend, BufferCache.cut, alike, List.take_append_drop]
      · exact List.take_left' length
      · rw [BufferCache.filter_extend later, kept, List.filter_filter]
        simp only [Bool.and_self]
  · intro parse parsed other different
    exact (parse_ok_iff.mp parsed).keeps_others different

theorem parse_work_cutShort : ∃ replies t,
    ({ source := true } : Tokenizer Bool Nat).serveAll everyOther cutShort = .ok (replies, t) ∧
      (t.cacheFor 0 "count").lines = ["é"] ∧ ∃ common, IsLongestCommonPrefix ["é"] ["é", "d"] common ∧
        ParseWork everyOther t (t.cacheFor 0 "count") 0 "count" ["é", "d"] common.length := by
  obtain ⟨replies, t, served, cached⟩ : ∃ replies t,
      ({ source := true } : Tokenizer Bool Nat).serveAll everyOther cutShort = .ok (replies, t) ∧
        (t.cacheFor 0 "count").lines = ["é"] := ⟨_, _, rfl, rfl⟩
  have work := parse_work served 0 "count" ["é", "d"]
  rw [cached] at work
  exact ⟨replies, t, served, cached, work⟩

end Tokenizer

end Highlighter
