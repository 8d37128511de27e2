import Highlighter.Proofs.Boundary
import Highlighter.Proofs.Except
import Highlighter.Tokenizer

namespace Highlighter

variable {α : Type}

namespace Grammar

/-- The tokens of one line, with each span converted on its own, and the state after it. -/
def scratchRow (g : Grammar α) (row : Nat) (prior : Option (LineState α)) (line : String) :
    Except Fault (List Token × LineState α) := do
  let result ← g.tokenizeLine line prior
  return (← result.spans.mapM (Token.ofSpan line row), result.state)

/-- The tokens of each line and the state after it. Nothing is kept but that state, which the line below gets. -/
def scratch (g : Grammar α) (row : Nat) (prior : Option (LineState α)) :
    List String → Except Fault (List (List Token × LineState α))
  | [] => return []
  | line :: lines => do
    let result ← g.scratchRow row prior line
    return result :: (← g.scratch (row + 1) (some result.2) lines)

/-- A grammar that has an answer for every line, with no column past the line's end. -/
def InLine (g : Grammar α) : Prop := ∀ line prior, ∃ result, g.tokenizeLine line prior = .ok result ∧
  ∀ span ∈ result.spans, span.start ≤ line.length ∧ span.stop ≤ line.length

end Grammar

theorem Token.ofSpan_total {text : String} {span : Span} (row : Nat) (start : span.start ≤ text.length)
    (stop : span.stop ≤ text.length) : ∃ token, Token.ofSpan text row span = .ok token :=
  ⟨_, Token.ofSpan_take row start stop⟩

theorem Token.line_of_ofSpan {text : String} {row : Nat} {span : Span} {token : Token}
    (made : Token.ofSpan text row span = .ok token) : token.line = row + 1 := by
  rw [Token.ofSpan_eq] at made
  obtain ⟨first, _, made⟩ := bind_eq_ok made
  obtain ⟨last, _, made⟩ := bind_eq_ok made
  cases made
  rfl

theorem Token.lines_of_ofSpan {text : String} {row : Nat} {spans : List Span} {tokens : List Token}
    (made : List.Forall₂ (fun span token => Token.ofSpan text row span = .ok token) spans tokens) :
    ∀ token ∈ tokens, token.line = row + 1 := by
  induction made with
  | nil => exact fun _ member => absurd member List.not_mem_nil
  | cons head _ ih => exact List.forall_mem_cons.mpr ⟨Token.line_of_ofSpan head, ih⟩

namespace Grammar

theorem scratchRow_ok {g : Grammar α} {row : Nat} {prior : Option (LineState α)} {line : String} {tokens : List Token}
    {state : LineState α} (run : g.scratchRow row prior line = .ok (tokens, state)) :
    ∃ result, g.tokenizeLine line prior = .ok result ∧ result.state = state ∧
      List.Forall₂ (fun span token => Token.ofSpan line row span = .ok token) result.spans tokens := by
  simp only [scratchRow] at run
  obtain ⟨result, asked, run⟩ := bind_eq_ok run
  obtain ⟨made, converted, run⟩ := bind_eq_ok run
  cases run
  exact ⟨result, asked, rfl, forall₂_of_mapM converted⟩

theorem scratchRow_onRow {g : Grammar α} {row : Nat} {prior : Option (LineState α)} {line : String}
    {tokens : List Token} {state : LineState α} (run : g.scratchRow row prior line = .ok (tokens, state)) :
    ∀ token ∈ tokens, token.line = row + 1 := by
  obtain ⟨result, _, _, made⟩ := scratchRow_ok run
  exact Token.lines_of_ofSpan made

theorem InLine.scratchRow_total {g : Grammar α} (inLine : g.InLine) (row : Nat) (prior : Option (LineState α))
    (line : String) : ∃ result, g.scratchRow row prior line = .ok result := by
  obtain ⟨result, asked, inside⟩ := inLine line prior
  obtain ⟨tokens, made⟩ := mapM_total fun span member =>
    Token.ofSpan_total row (inside span member).1 (inside span member).2
  exact ⟨(tokens, result.state), by simp only [scratchRow, asked, made, ok_bind]; rfl⟩

theorem InLine.scratch_total {g : Grammar α} (inLine : g.InLine) (row : Nat) (prior : Option (LineState α))
    (lines : List String) : ∃ results, g.scratch row prior lines = .ok results := by
  induction lines generalizing row prior with
  | nil => exact ⟨[], rfl⟩
  | cons line lines ih =>
    obtain ⟨result, head⟩ := inLine.scratchRow_total row prior line
    obtain ⟨results, tail⟩ := ih (row + 1) (some result.2)
    exact ⟨result :: results, by simp only [scratch, head, tail, ok_bind]; rfl⟩

end Grammar

/-- Going on with one cursor from span to span makes no difference. -/
theorem ByteCursor.Exact.tokens {cursor : ByteCursor} {text : String} (exact_ : cursor.Exact text) (row : Nat)
    (spans : List Span) : cursor.tokens row spans = spans.mapM (Token.ofSpan text row) := by
  induction spans generalizing cursor with
  | nil => rfl
  | cons span spans ih =>
    obtain ⟨after, same⟩ := exact_.token row span
    rw [← Token.ofSpan_eq] at same
    rw [List.mapM_cons, ← same]
    simp only [ByteCursor.tokens]
    rcases made : cursor.token row span with ⟨fault | token, next⟩
    · rfl
    · rw [made] at after
      simp only [ih after]
      cases spans.mapM (Token.ofSpan text row) <;> rfl

/-- The calls for lines from a row on, where every line gets the state that the one above it left. -/
def callsFor (row : Nat) (prior : Option (LineState α)) : List String → List (LineState α) → List (Call α)
  | line :: lines, state :: states => .tokenize row line prior :: callsFor (row + 1) (some state) lines states
  | _, _ => []

theorem Loader.call_run {σ : Type} (loader : Loader σ α) (source : σ) (scope : String) (calls : List (Call α)) :
    (loader.call source scope).run calls = .ok (loader.load source scope, .load scope :: calls) := rfl

namespace Grammar

theorem call_run (g : Grammar α) (row : Nat) (prior : Option (LineState α)) (line : String) (calls : List (Call α)) :
    (g.call row prior line).run calls =
      (g.tokenizeLine line prior).map fun result => (result, .tokenize row line prior :: calls) := by
  simp only [call]
  cases g.tokenizeLine line prior <;> rfl

theorem tokenizeRow_run (g : Grammar α) (row : Nat) (prior : Option (LineState α)) (line : String)
    (calls : List (Call α)) : (g.tokenizeRow row prior line).run calls =
      (g.scratchRow row prior line).map fun result => (result, .tokenize row line prior :: calls) := by
  simp only [tokenizeRow, scratchRow, (ByteCursor.exact_ofText line).tokens, StateT.run_bind, call_run]
  rcases g.tokenizeLine line prior with fault | result
  · rfl
  · rcases made : result.spans.mapM (Token.ofSpan line row) with fault | tokens
    · simp only [Except.map, bind, Except.bind, made]
      rfl
    · simp only [Except.map, bind, Except.bind, made]
      rfl

/-- Rows come to what they come to from scratch, with one call for each of them from the first to the last. -/
theorem tokenizeRows_run (g : Grammar α) (row : Nat) (prior : Option (LineState α)) (lines : List String)
    (calls : List (Call α)) : (g.tokenizeRows row prior lines).run calls =
      (g.scratch row prior lines).map fun results =>
        (results, (callsFor row prior lines (results.map Prod.snd)).reverse ++ calls) := by
  induction lines generalizing row prior calls with
  | nil => rfl
  | cons line lines ih =>
    simp only [tokenizeRows, scratch, StateT.run_bind, tokenizeRow_run]
    rcases g.scratchRow row prior line with fault | result
    · rfl
    · simp only [Except.map, bind, Except.bind, ih]
      rcases g.scratch (row + 1) (some result.2) lines with fault | results
      · rfl
      · have order : (callsFor row prior (line :: lines) ((result :: results).map Prod.snd)).reverse ++ calls =
            (callsFor (row + 1) (some result.2) lines (results.map Prod.snd)).reverse ++
              .tokenize row line prior :: calls := by
          rw [List.map_cons, callsFor, List.reverse_cons, List.append_assoc]
          rfl
        exact congrArg (fun noted => Except.ok (result :: results, noted)) order.symm

end Grammar

/-- A condition on a row, the state before it, its line, its tokens and the state after it. -/
abbrev RowCondition (α : Type) := Nat → Option (LineState α) → String → List Token → LineState α → Prop

/-- What lines from a row on have come to, where each row meets a condition for the state that the one above it left
and its tokens name its line. -/
inductive Rows (R : RowCondition α) :
    Nat → Option (LineState α) → List String → List (List Token × LineState α) → Prop
  | nil {row prior} : Rows R row prior [] []
  | cons {row prior line lines tokens state results} : (∀ token ∈ tokens, token.line = row + 1) →
      R row prior line tokens state → Rows R (row + 1) (some state) lines results →
      Rows R row prior (line :: lines) ((tokens, state) :: results)

/-- The condition that a row is what a grammar makes of it from scratch. -/
def Grammar.Makes (g : Grammar α) : RowCondition α := fun row prior line tokens state =>
  g.scratchRow row prior line = .ok (tokens, state)

variable {R : RowCondition α} {row : Nat} {prior : Option (LineState α)} {lines : List String}
  {results : List (List Token × LineState α)}

namespace Rows

theorem of_scratch {g : Grammar α} (meets : ∀ row prior line tokens state,
    g.Makes row prior line tokens state → R row prior line tokens state)
    (run : g.scratch row prior lines = .ok results) : Rows R row prior lines results := by
  induction lines generalizing row prior results with
  | nil =>
    cases run
    exact .nil
  | cons line lines ih =>
    simp only [Grammar.scratch] at run
    obtain ⟨⟨tokens, state⟩, head, run⟩ := bind_eq_ok run
    obtain ⟨rest, tail, run⟩ := bind_eq_ok run
    cases run
    exact .cons (Grammar.scratchRow_onRow head) (meets _ _ _ _ _ head) (ih tail)

theorem scratch {g : Grammar α} (rows : Rows g.Makes row prior lines results) :
    g.scratch row prior lines = .ok results := by
  induction rows with
  | nil => rfl
  | cons _ head _ ih =>
    simp only [Grammar.Makes] at head
    simp only [Grammar.scratch, head, ih, ok_bind]
    rfl

theorem length (rows : Rows R row prior lines results) : results.length = lines.length := by
  induction rows with
  | nil => rfl
  | cons _ _ _ ih => simp only [List.length_cons, ih]

theorem take (rows : Rows R row prior lines results) (n : Nat) :
    Rows R row prior (lines.take n) (results.take n) := by
  induction rows generalizing n with
  | nil => simpa only [List.take_nil] using Rows.nil
  | cons onRow head _ ih =>
    cases n with
    | zero => exact .nil
    | succ n => exact .cons onRow head (ih n)

theorem append {more : List String} {rest : List (List Token × LineState α)}
    (rows : Rows R row prior lines results)
    (later : Rows R (row + lines.length) ((results.map Prod.snd).getLast?.or prior) more rest) :
    Rows R row prior (lines ++ more) (results ++ rest) := by
  induction rows with
  | nil => simpa using later
  | @cons row prior line lines tokens state results onRow head tail ih =>
    refine .cons onRow head (ih ?_)
    rw [List.length_cons, List.map_cons, List.getLast?_cons] at later
    rw [show row + 1 + lines.length = row + (lines.length + 1) by omega]
    cases last : (results.map Prod.snd).getLast? <;> simpa [last] using later

theorem drop (rows : Rows R row prior lines results) (n : Nat) :
    ∃ above, Rows R (row + n) above (lines.drop n) (results.drop n) := by
  induction rows generalizing n with
  | nil => exact ⟨none, by simpa only [List.drop_nil] using Rows.nil⟩
  | @cons row prior line lines tokens state results onRow head tail ih =>
    cases n with
    | zero => exact ⟨prior, .cons onRow head tail⟩
    | succ n =>
      obtain ⟨above, rest⟩ := ih n
      exact ⟨above, by rwa [show row + (n + 1) = row + 1 + n by omega]⟩

theorem token_above (rows : Rows R row prior lines results) {token : Token}
    (member : token ∈ results.flatMap Prod.fst) : row < token.line := by
  induction rows with
  | nil => exact absurd member List.not_mem_nil
  | cons onRow _ _ ih =>
    rw [List.flatMap_cons, List.mem_append] at member
    rcases member with here | later
    · have line := onRow token here
      omega
    · have line := ih later
      omega

theorem token_within (rows : Rows R row prior lines results) {token : Token}
    (member : token ∈ results.flatMap Prod.fst) : token.line ≤ row + results.length := by
  induction rows with
  | nil => exact absurd member List.not_mem_nil
  | cons onRow _ _ ih =>
    rw [List.flatMap_cons, List.mem_append] at member
    rw [List.length_cons]
    rcases member with here | later
    · have line := onRow token here
      omega
    · have line := ih later
      omega

/-- Each line has met the condition, and its tokens are those that name it. -/
theorem row_at (rows : Rows R row prior lines results) {i : Nat} {line : String} (found : lines[i]? = some line) :
    ∃ above tokens state, R (row + i) above line tokens state ∧
      ((results.flatMap Prod.fst).filter fun token => token.line = row + i + 1) = tokens := by
  induction rows generalizing i with
  | nil => cases found
  | @cons row prior head lines tokens state results onRow meets tail ih =>
    cases i with
    | zero =>
      cases found
      refine ⟨prior, tokens, state, meets, ?_⟩
      have here : tokens.filter (fun token => token.line = row + 0 + 1) = tokens :=
        List.filter_eq_self.mpr fun token member => decide_eq_true (onRow token member)
      have later : (results.flatMap Prod.fst).filter (fun token => token.line = row + 0 + 1) = [] :=
        List.filter_eq_nil_iff.mpr fun token member => by
          have above := tail.token_above member
          simp only [decide_eq_true_eq]
          omega
      rw [List.flatMap_cons, List.filter_append, here, later, List.append_nil]
    | succ i =>
      obtain ⟨above, tokens_, after, meets, same⟩ := ih found
      have order : row + 1 + i = row + (i + 1) := by omega
      rw [order] at meets same
      refine ⟨above, tokens_, after, meets, ?_⟩
      have earlier : tokens.filter (fun token => token.line = row + (i + 1) + 1) = [] :=
        List.filter_eq_nil_iff.mpr fun token member => by
          have line := onRow token member
          simp only [decide_eq_true_eq]
          omega
      rw [List.flatMap_cons, List.filter_append, earlier, List.nil_append, same]

/-- The tokens of the first rows name these, and the other tokens name later ones. -/
theorem tokens_split (rows : Rows R row prior lines results) (n : Nat) :
    (∀ token ∈ (results.take n).flatMap Prod.fst, token.line ≤ row + n) ∧
      ∀ token ∈ (results.drop n).flatMap Prod.fst, row + n < token.line := by
  constructor
  · intro token member
    have line := (rows.take n).token_within member
    have few := List.length_take_le n results
    omega
  · intro token member
    obtain ⟨above, later⟩ := rows.drop n
    exact later.token_above member

theorem flatMap_split (results : List (List Token × LineState α)) (n : Nat) :
    results.flatMap Prod.fst = (results.take n).flatMap Prod.fst ++ (results.drop n).flatMap Prod.fst := by
  rw [← List.flatMap_append, List.take_append_drop]

/-- The tokens up to some row are those of the results up to it. -/
theorem takeWhile_tokens (rows : Rows R row prior lines results) (n : Nat) :
    ((results.flatMap Prod.fst).takeWhile fun token => token.line ≤ row + n) = (results.take n).flatMap Prod.fst := by
  obtain ⟨first, later⟩ := rows.tokens_split n
  rw [flatMap_split results n, List.takeWhile_append_of_pos (by simpa only [decide_eq_true_eq] using first)]
  rcases all : (results.drop n).flatMap Prod.fst with _ | ⟨token, rest⟩
  · simp
  · have above := later token (all ▸ List.mem_cons_self)
    rw [List.takeWhile_cons_of_neg (by simpa using above), List.append_nil]

theorem filter_tokens (rows : Rows R row prior lines results) (n : Nat) :
    ((results.flatMap Prod.fst).filter fun token => token.line ≤ row + n) = (results.take n).flatMap Prod.fst := by
  obtain ⟨first, later⟩ := rows.tokens_split n
  have kept : ((results.take n).flatMap Prod.fst).filter (fun token => token.line ≤ row + n) =
      (results.take n).flatMap Prod.fst :=
    List.filter_eq_self.mpr fun token member => decide_eq_true (first token member)
  have dropped : ((results.drop n).flatMap Prod.fst).filter (fun token => token.line ≤ row + n) = [] :=
    List.filter_eq_nil_iff.mpr fun token member => by simpa using later token member
  rw [flatMap_split results n, List.filter_append, kept, dropped, List.append_nil]

end Rows

/-- The number of common lines is no more than either text has, and so many lines the two have alike. -/
theorem commonLines_take (old new : List String) : commonLines old new ≤ old.length ∧
    commonLines old new ≤ new.length ∧ old.take (commonLines old new) = new.take (commonLines old new) := by
  induction old generalizing new with
  | nil => simp [commonLines]
  | cons line old ih =>
    cases new with
    | nil => simp [commonLines]
    | cons other new =>
      simp only [commonLines]
      split
      · rename_i same
        obtain ⟨left, right, alike⟩ := ih new
        simp only [List.length_cons, List.take_succ_cons, same, alike]
        exact ⟨by omega, by omega, trivial⟩
      · simp

namespace BufferCache

/-- The cache that is left by lines and what they have come to. -/
def ofRows (scope : String) (lines : List String) (results : List (List Token × LineState α)) : BufferCache α where
  scope
  lines
  states := results.map Prod.snd
  tokens := results.flatMap Prod.fst

/-- A cache whose rows meet a condition. -/
def Holds (cache : BufferCache α) (R : RowCondition α) : Prop :=
  ∃ results, Rows R 0 none cache.lines results ∧ cache = ofRows cache.scope cache.lines results

theorem holds_ofRows {scope : String} (rows : Rows R 0 none lines results) : (ofRows scope lines results).Holds R :=
  ⟨results, rows, rfl⟩

theorem holds_new (scope : String) : ({ scope } : BufferCache α).Holds R := ⟨[], .nil, rfl⟩

theorem cut_ofRows {scope : String} (rows : Rows R 0 none lines results) (n : Nat) :
    (ofRows scope lines results).cut n = ofRows scope (lines.take n) (results.take n) := by
  have tokens := rows.takeWhile_tokens n
  rw [Nat.zero_add] at tokens
  simp only [cut, ofRows, List.map_take, tokens]

theorem extend_ofRows (scope : String) (lines more : List String) (results rest : List (List Token × LineState α)) :
    (ofRows scope lines results).extend more rest = ofRows scope (lines ++ more) (results ++ rest) := by
  simp only [extend, ofRows, List.map_append, List.flatMap_append]

theorem stateBefore_ofRows (scope : String) (rows : Rows R 0 none lines results) :
    (ofRows scope lines results).stateBefore lines.length = (results.map Prod.snd).getLast? := by
  simp only [stateBefore, ofRows]
  rw [List.getLast?_eq_getElem?, List.length_map, rows.length]
  split
  · rename_i empty
    have none_ : results = [] := List.eq_nil_of_length_eq_zero (rows.length.trans empty)
    simp [none_]
  · rfl

namespace Holds

variable {cache : BufferCache α}

theorem cut (holds : cache.Holds R) (n : Nat) : (cache.cut n).Holds R := by
  obtain ⟨results, rows, whole⟩ := holds
  rw [whole, cut_ofRows rows]
  exact holds_ofRows (rows.take n)

/-- Going on from a cache with rows that meet its condition for the state it ends with. -/
theorem extend (holds : cache.Holds R) {more : List String} {rest : List (List Token × LineState α)}
    (later : Rows R cache.lines.length (cache.stateBefore cache.lines.length) more rest) :
    (cache.extend more rest).Holds R := by
  obtain ⟨results, rows, whole⟩ := holds
  have last := stateBefore_ofRows cache.scope rows
  rw [← whole] at last
  rw [last] at later
  rw [whole, extend_ofRows]
  exact holds_ofRows (rows.append (by simpa using later))

/-- Going on from the lines that a text has in common with a cache, with rows for the others, leaves the rows of the
whole text. -/
theorem renew {lines : List String} (kept : (cache.cut (commonLines cache.lines lines)).Holds R)
    {rest : List (List Token × LineState α)} (later : Rows R (commonLines cache.lines lines)
      ((cache.cut (commonLines cache.lines lines)).stateBefore (commonLines cache.lines lines))
      (lines.drop (commonLines cache.lines lines)) rest) :
    ∃ results, Rows R 0 none lines results ∧ (cache.cut (commonLines cache.lines lines)).extend
      (lines.drop (commonLines cache.lines lines)) rest = ofRows cache.scope lines results := by
  obtain ⟨atLeast, _, alike⟩ := commonLines_take cache.lines lines
  have length : (cache.cut (commonLines cache.lines lines)).lines.length = commonLines cache.lines lines :=
    List.length_take_of_le atLeast
  obtain ⟨results, rows, whole⟩ := kept.extend (by rwa [length])
  have text : ((cache.cut (commonLines cache.lines lines)).extend (lines.drop (commonLines cache.lines lines))
      rest).lines = lines := by
    simp only [BufferCache.extend, BufferCache.cut, alike, List.take_append_drop]
  rw [text] at rows whole
  exact ⟨results, rows, whole⟩

theorem length_states (holds : cache.Holds R) : cache.states.length = cache.lines.length := by
  obtain ⟨results, rows, whole⟩ := holds
  rw [whole]
  simp only [ofRows, List.length_map, rows.length]

end Holds

end BufferCache

end Highlighter
