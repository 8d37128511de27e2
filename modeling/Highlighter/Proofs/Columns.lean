import Mathlib.Order.Fin.Basic
import Mathlib.Order.GaloisConnection.Basic
import Highlighter.Proofs.Boundary

namespace Highlighter.Text

variable {text : List Char} {column later byte : Nat}

theorem byteLength_take_le_iff (inside : column ≤ text.length) :
    byteLength (text.take column) ≤ byte ↔ column ≤ charsWithin text byte := by
  induction text generalizing column byte with
  | nil =>
    have start : column = 0 := Nat.le_zero.mp inside
    simp only [start, List.take_zero, byteLength, Nat.zero_le]
  | cons c text ih =>
    cases column with
    | zero => simp only [List.take_zero, byteLength, Nat.zero_le]
    | succ column =>
      have rest := @ih column (byte - c.utf8Size) (Nat.le_of_succ_le_succ inside)
      have positive := c.utf8Size_pos
      simp only [List.take_succ_cons, byteLength, charsWithin]
      by_cases fits : c.utf8Size ≤ byte
      · rw [if_pos fits, Nat.add_le_add_iff_right, ← rest]
        omega
      · rw [if_neg fits]
        omega

/-- The bytes before a column are the lower adjoint, the characters within some bytes the upper one. -/
theorem gc_columns (text : List Char) :
    GaloisConnection (fun column : Fin (text.length + 1) => byteLength (text.take column))
      fun byte => ⟨charsWithin text byte, Nat.lt_succ_of_le (charsWithin_le_length text byte)⟩ :=
  fun column _ => byteLength_take_le_iff (Nat.le_of_lt_succ column.isLt)

theorem byteLength_take_mono (ordered : column ≤ later) (inside : later ≤ text.length) :
    byteLength (text.take column) ≤ byteLength (text.take later) := by
  have mono := (gc_columns text).monotone_l
  exact @mono ⟨column, by omega⟩ ⟨later, by omega⟩ ordered

theorem charsWithin_mono (text : List Char) : Monotone (charsWithin text) :=
  fun _ _ ordered => (gc_columns text).monotone_u ordered

theorem charsWithin_byteLength_take (inside : column ≤ text.length) :
    charsWithin text (byteLength (text.take column)) = column := by
  have whole := charsWithin_append (text.take column) (text.drop column)
  rwa [List.take_append_drop, List.length_take_of_le inside] at whole

/-- The last boundary at or before a byte, looked for backwards. -/
def lastBoundary (text : List Char) : Nat → Nat
  | 0 => 0
  | byte + 1 => if Boundary text (byte + 1) then byte + 1 else lastBoundary text byte

theorem isGreatest_lastBoundary (text : List Char) (byte : Nat) :
    IsGreatest {start | Boundary text start ∧ start ≤ byte} (lastBoundary text byte) := by
  induction byte with
  | zero => exact ⟨⟨boundary_zero text, Nat.le_refl 0⟩, fun _ candidate => candidate.2⟩
  | succ byte ih =>
    obtain ⟨⟨boundary, before⟩, greatest⟩ := ih
    by_cases here : Boundary text (byte + 1)
    · rw [lastBoundary, if_pos here]
      exact ⟨⟨here, Nat.le_refl _⟩, fun _ candidate => candidate.2⟩
    · rw [lastBoundary, if_neg here]
      refine ⟨⟨boundary, Nat.le_succ_of_le before⟩, ?_⟩
      rintro start ⟨begins, within⟩
      have different : start ≠ byte + 1 := fun same => here (same ▸ begins)
      exact greatest ⟨begins, by omega⟩

/-- No boundary at or before a byte lies behind the characters that fit into the bytes before it. -/
theorem isGreatest_byteLength_take (text : List Char) (byte : Nat) :
    IsGreatest {start | Boundary text start ∧ start ≤ byte} (byteLength (text.take (charsWithin text byte))) := by
  have inside := charsWithin_le_length text byte
  refine ⟨⟨⟨_, _, (List.take_append_drop _ text).symm, rfl⟩, (byteLength_take_le_iff inside).mpr (Nat.le_refl _)⟩, ?_⟩
  rintro _ ⟨⟨left, right, rfl, rfl⟩, within⟩
  have taken : (left ++ right).take left.length = left := List.take_left
  have fits : left.length ≤ charsWithin (left ++ right) byte :=
    (byteLength_take_le_iff (by simp)).mp (by rwa [taken])
  have ordered := byteLength_take_mono fits inside
  rwa [taken] at ordered

/-- Those characters end at the boundary that is found when one looks backwards, from the end of the text if the byte
lies behind it. -/
theorem byteLength_take_charsWithin (text : List Char) (byte : Nat) :
    byteLength (text.take (charsWithin text byte)) = lastBoundary text (min byte (byteLength text)) := by
  have clamped : {start | Boundary text start ∧ start ≤ min byte (byteLength text)} =
      {start | Boundary text start ∧ start ≤ byte} := by
    ext start
    refine and_congr_right fun boundary => ?_
    have inside := boundary.le
    omega
  have greatest := isGreatest_lastBoundary text (min byte (byteLength text))
  rw [clamped] at greatest
  exact (isGreatest_byteLength_take text byte).unique greatest

theorem splitAtByte_lastBoundary (text : List Char) (byte : Nat) :
    splitAtByte text (lastBoundary text (min byte (byteLength text))) =
      some (text.take (charsWithin text byte), text.drop (charsWithin text byte)) := by
  rw [← byteLength_take_charsWithin]
  exact splitAtByte_take text (charsWithin text byte)

theorem slice_take (text : List Char) (ordered : column ≤ later) :
    slice text (byteLength (text.take column)) (byteLength (text.take later)) =
      .ok ((text.take later).drop column) := by
  have begins : (text.take later).take column = text.take column := by rw [List.take_take, min_eq_left ordered]
  have taken : text.take later = text.take column ++ (text.take later).drop column := by
    rw [← begins, List.take_append_drop]
  have length : byteLength (text.take later) =
      byteLength (text.take column) + byteLength ((text.take later).drop column) := by
    rw [← byteLength_append, ← taken]
  have whole : text = text.take column ++ ((text.take later).drop column ++ text.drop later) := by
    rw [← List.append_assoc, ← taken, List.take_append_drop]
  have sliced := slice_append (text.take column) ((text.take later).drop column) (text.drop later)
  rwa [← whole, ← length] at sliced

/-- The bytes of a token are the characters of its span. -/
theorem slice_byteRange {line : String} {row : Nat} {span : Span} (ordered : span.start ≤ span.stop)
    (inside : span.stop ≤ line.length) : ∃ token, Token.ofSpan line row span = .ok token ∧
      slice line.toList token.byteRange.1 token.byteRange.2 = .ok ((line.toList.take span.stop).drop span.start) := by
  refine ⟨_, Token.ofSpan_take row (ordered.trans inside) inside, ?_⟩
  have bytes := byteLength_take_mono ordered (by rwa [String.length_toList])
  simp only [Token.byteRange, Nat.add_sub_cancel, Nat.add_sub_cancel' bytes]
  exact slice_take line.toList ordered

/-- A column begins at or before a byte exactly if it is at most the byte's column, and the conversions keep order. A
column is had back from its byte. A byte's column counts the characters in front of the last boundary at or before it,
which is the byte that one has back; a byte past the end counts as the end. The byte range of a token holds the
characters of its span. -/
theorem charToByte_galois (line : String) :
    (∀ column ≤ line.length, ∃ start, charToByte line column = .ok start ∧ byteToChar line start = column ∧
      ∀ byte, start ≤ byte ↔ column ≤ byteToChar line byte) ∧
    (∀ byte, ∃ front rest,
      splitAtByte line.toList (lastBoundary line.toList (min byte line.utf8ByteSize)) = some (front, rest) ∧
      byteToChar line byte = front.length ∧
      charToByte line (byteToChar line byte) = .ok (lastBoundary line.toList (min byte line.utf8ByteSize))) ∧
    (∀ later ≤ line.length, ∀ column ≤ later, ∃ start stop, charToByte line column = .ok start ∧
      charToByte line later = .ok stop ∧ start ≤ stop) ∧
    Monotone (byteToChar line) ∧
    ∀ row (span : Span), span.start ≤ span.stop → span.stop ≤ line.length → ∃ token,
      Token.ofSpan line row span = .ok token ∧
      slice line.toList token.byteRange.1 token.byteRange.2 =
        .ok ((line.toList.take span.stop).drop span.start) := by
  have length : line.toList.length = line.length := String.length_toList
  refine ⟨?_, ?_, ?_, charsWithin_mono line.toList, fun row span ordered inside => slice_byteRange ordered inside⟩
  · intro column inside
    refine ⟨_, charToByte_take inside, ?_, fun byte => ?_⟩
    · exact charsWithin_byteLength_take (length ▸ inside)
    · exact byteLength_take_le_iff (length ▸ inside)
  · intro byte
    rw [← byteLength_toList]
    have inside := charsWithin_le_length line.toList byte
    refine ⟨_, _, splitAtByte_lastBoundary line.toList byte, (List.length_take_of_le inside).symm, ?_⟩
    rw [← byteLength_take_charsWithin]
    exact charToByte_take (length ▸ inside)
  · intro later inside column ordered
    refine ⟨_, _, charToByte_take (ordered.trans inside), charToByte_take inside, ?_⟩
    exact byteLength_take_mono ordered (length ▸ inside)

/-- On a text with a character of three bytes, for the columns around it and a byte within it. -/
theorem charToByte_galois_euro :
    (charToByte "a€b" 2 = .ok 4 ∧ byteToChar "a€b" 4 = 2 ∧ ∀ byte, 4 ≤ byte ↔ 2 ≤ byteToChar "a€b" byte) ∧
    charToByte "a€b" (byteToChar "a€b" 3) = .ok 1 ∧
    (∃ start stop, charToByte "a€b" 1 = .ok start ∧ charToByte "a€b" 3 = .ok stop ∧ start ≤ stop) ∧
    ∃ token, Token.ofSpan "a€b" 0 ⟨1, 3, []⟩ = .ok token ∧
      slice "a€b".toList token.byteRange.1 token.byteRange.2 = .ok ['€', 'b'] := by
  obtain ⟨columns, bytes, order, _, spans⟩ := charToByte_galois "a€b"
  obtain ⟨start, begins, back, connected⟩ := columns 2 (by decide)
  have here : charToByte "a€b" 2 = .ok 4 := by decide
  cases here.symm.trans begins
  obtain ⟨_, _, _, _, rounded⟩ := bytes 3
  exact ⟨⟨begins, back, connected⟩, rounded, order 3 (by decide) 1 (by decide),
    spans 0 ⟨1, 3, []⟩ (by decide) (by decide)⟩

end Highlighter.Text
