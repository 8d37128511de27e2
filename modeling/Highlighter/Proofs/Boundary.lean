import Highlighter.Token

namespace Highlighter.Text

theorem byteLength_append (left right : List Char) :
    byteLength (left ++ right) = byteLength left + byteLength right := by
  induction left with
  | nil => simp [byteLength]
  | cons c left ih => simp only [List.cons_append, byteLength, ih, Nat.add_assoc]

theorem byteLength_toList (text : String) : byteLength text.toList = text.utf8ByteSize := by
  suffices all : ∀ chars : List Char, byteLength chars = (String.ofList chars).utf8ByteSize by
    rw [all, String.ofList_toList]
  intro chars
  induction chars with
  | nil => rfl
  | cons c chars ih =>
    rw [byteLength, ih, String.ofList_cons, String.utf8ByteSize_append, String.utf8ByteSize_singleton]

theorem eq_nil_of_byteLength {text : List Char} (empty : byteLength text = 0) : text = [] := by
  cases text with
  | nil => rfl
  | cons c text =>
    have positive := c.utf8Size_pos
    simp only [byteLength] at empty
    omega

/-- A byte offset at which a character begins, or at which the text ends. -/
def Boundary (text : List Char) (byte : Nat) : Prop := ∃ left right, text = left ++ right ∧ byteLength left = byte

theorem boundary_zero (text : List Char) : Boundary text 0 := ⟨[], text, rfl, rfl⟩

theorem boundary_end (text : List Char) : Boundary text (byteLength text) := ⟨text, [], by simp, rfl⟩

theorem Boundary.le {text : List Char} {byte : Nat} (boundary : Boundary text byte) : byte ≤ byteLength text := by
  obtain ⟨left, right, rfl, rfl⟩ := boundary
  rw [byteLength_append]
  exact Nat.le_add_right _ _

/-- Of two beginnings of one text the one with fewer bytes begins the other. -/
theorem beginning_extends {left right longer rest : List Char} (same : left ++ right = longer ++ rest)
    (shorter : byteLength left ≤ byteLength longer) :
    ∃ between, longer = left ++ between ∧ right = between ++ rest := by
  rcases List.append_eq_append_iff.mp same with ⟨between, atLonger, atRight⟩ | ⟨between, atLeft, atRest⟩
  · exact ⟨between, atLonger, atRight⟩
  · have length := congrArg byteLength atLeft
    rw [byteLength_append] at length
    have empty := eq_nil_of_byteLength (by omega : byteLength between = 0)
    subst empty
    exact ⟨[], by simpa using atLeft.symm, by simpa using atRest.symm⟩

theorem splitAtByte_append (left right : List Char) :
    splitAtByte (left ++ right) (byteLength left) = some (left, right) := by
  induction left with
  | nil => cases right <;> rfl
  | cons c left ih =>
    have positive := c.utf8Size_pos
    obtain ⟨n, size⟩ : ∃ n, c.utf8Size + byteLength left = n + 1 := ⟨_, (Nat.succ_pred (by omega)).symm⟩
    simp only [List.cons_append, byteLength, size, splitAtByte]
    rw [if_pos (by omega), show n + 1 - c.utf8Size = byteLength left by omega, ih]
    rfl

theorem splitAtByte_take (text : List Char) (column : Nat) :
    splitAtByte text (byteLength (text.take column)) = some (text.take column, text.drop column) := by
  have split := splitAtByte_append (text.take column) (text.drop column)
  rwa [List.take_append_drop] at split

theorem split_of_splitAtByte {text left right : List Char} {byte : Nat}
    (split : splitAtByte text byte = some (left, right)) : text = left ++ right ∧ byteLength left = byte := by
  fun_induction splitAtByte text byte generalizing left right with
  | case1 =>
    cases split
    exact ⟨rfl, rfl⟩
  | case2 => cases split
  | case3 c cs bytes _ fits ih =>
    obtain ⟨⟨within, rest⟩, found, made⟩ := Option.map_eq_some_iff.mp split
    cases made
    obtain ⟨rfl, length⟩ := ih found
    exact ⟨rfl, by simp only [byteLength]; omega⟩
  | case4 => cases split

/-- A text can be divided at boundaries, and only there. -/
theorem isSome_splitAtByte {text : List Char} {byte : Nat} : (splitAtByte text byte).isSome ↔ Boundary text byte := by
  constructor
  · intro divided
    obtain ⟨⟨left, right⟩, split⟩ := Option.isSome_iff_exists.mp divided
    exact ⟨left, right, split_of_splitAtByte split⟩
  · rintro ⟨left, right, rfl, rfl⟩
    rw [splitAtByte_append]
    rfl

instance (text : List Char) (byte : Nat) : Decidable (Boundary text byte) := decidable_of_iff _ isSome_splitAtByte

theorem slice_append (left middle right : List Char) :
    slice (left ++ (middle ++ right)) (byteLength left) (byteLength left + byteLength middle) = .ok middle := by
  simp only [slice, splitAtByte_append, Nat.add_sub_cancel_left, Nat.le_add_right, if_true]

theorem charsWithin_append (left right : List Char) : charsWithin (left ++ right) (byteLength left) = left.length := by
  induction left with
  | nil =>
    cases right with
    | nil => rfl
    | cons c right =>
      have positive := c.utf8Size_pos
      simp only [List.nil_append, charsWithin, byteLength, List.length_nil]
      rw [if_neg (by omega)]
  | cons c left ih =>
    simp only [List.cons_append, charsWithin, byteLength, List.length_cons, Nat.le_add_right, if_true,
      Nat.add_sub_cancel_left, ih]

/-- To go on by some bytes is to divide the text there, with the last character passed in hand. -/
theorem seek_eq (before : Option Char) (text : List Char) (byte : Nat) :
    seek before text byte = (splitAtByte text byte).map fun (left, rest) => (left.getLast?.or before, rest) := by
  fun_induction splitAtByte text byte generalizing before with
  | case1 => simp only [seek, Option.map_some, List.getLast?_nil, Option.none_or]
  | case2 => rfl
  | case3 c cs bytes _ fits ih =>
    have last (left : List Char) : left.getLast?.or (some c) = (c :: left).getLast?.or before := by
      rw [List.getLast?_cons]
      cases left.getLast? <;> rfl
    simp only [seek, if_pos fits, ih, Option.map_map, Function.comp_def, last]
  | case4 c cs bytes _ wide => simp only [seek, if_neg wide, Option.map_none]

/-- Behind some characters of a text the last of them is the character before. -/
theorem seek_append_eq (before : Option Char) (left right : List Char) :
    seek before (left ++ right) (byteLength left) = some (left.getLast?.or before, right) := by
  rw [seek_eq, splitAtByte_append]
  rfl

theorem split_of_seek {before last : Option Char} {text rest : List Char} {byte : Nat}
    (found : seek before text byte = some (last, rest)) : ∃ left, text = left ++ rest ∧ byteLength left = byte := by
  rw [seek_eq] at found
  obtain ⟨⟨left, _⟩, split, same⟩ := Option.map_eq_some_iff.mp found
  cases same
  exact ⟨left, split_of_splitAtByte split⟩

/-- The character after a boundary ends at the next one. -/
theorem Boundary.next {text : List Char} {byte : Nat} (boundary : Boundary text byte) :
    ∃ next, nextBoundary text byte = .ok next ∧ Boundary text next := by
  obtain ⟨left, right, rfl, rfl⟩ := boundary
  simp only [nextBoundary, seek_append_eq]
  cases right with
  | nil => exact ⟨_, rfl, left, [], rfl, rfl⟩
  | cons c right => exact ⟨_, rfl, left ++ [c], right, by simp, by simp [byteLength_append, byteLength]⟩

theorem charsWithin_le_length (text : List Char) (byte : Nat) : charsWithin text byte ≤ text.length := by
  fun_induction charsWithin text byte with
  | case1 => exact Nat.le_refl _
  | case2 c cs bytes _ ih =>
    rw [List.length_cons]
    exact Nat.succ_le_succ ih
  | case3 => exact Nat.zero_le _

/-- The characters up to a boundary have as many bytes as it says. -/
theorem Boundary.byteLength_take {text : List Char} {byte : Nat} (boundary : Boundary text byte) :
    byteLength (text.take (charsWithin text byte)) = byte := by
  obtain ⟨left, right, rfl, rfl⟩ := boundary
  rw [charsWithin_append, List.take_left' rfl]

/-- Between two boundaries there is at least one character. -/
theorem Boundary.charsWithin_lt {text : List Char} {byte later : Nat} (boundary : Boundary text byte)
    (next : Boundary text later) (before : byte < later) : charsWithin text byte < charsWithin text later := by
  obtain ⟨left, right, whole, rfl⟩ := boundary
  obtain ⟨longer, rest, again, rfl⟩ := next
  obtain ⟨between, rfl, rfl⟩ := beginning_extends (whole.symm.trans again) (Nat.le_of_lt before)
  cases between with
  | nil => simp at before
  | cons c between =>
    rw [again, charsWithin_append, ← again, whole, charsWithin_append, List.length_append, List.length_cons]
    omega

theorem charToByte_take {text : String} {column : Nat} (inside : column ≤ text.length) :
    charToByte text column = .ok (byteLength (text.toList.take column)) :=
  if_pos (by rwa [String.length_toList])

theorem charToByte_charsWithin {text : String} {byte : Nat} (boundary : Boundary text.toList byte) :
    charToByte text (charsWithin text.toList byte) = .ok byte := by
  have inside := charsWithin_le_length text.toList byte
  rw [String.length_toList] at inside
  rw [charToByte_take inside, boundary.byteLength_take]

end Highlighter.Text

namespace Highlighter

open Text

/-- A cursor whose column is that of its byte offset. -/
def CharCursor.Exact (cursor : CharCursor) : Prop :=
  Boundary cursor.text cursor.byte ∧ cursor.column = charsWithin cursor.text cursor.byte

theorem CharCursor.exact_ofText (text : String) : (CharCursor.ofText text).Exact :=
  ⟨boundary_zero _, (charsWithin_append [] text.toList).symm⟩

/-- Wherever an exact cursor stands, it finds the column of any boundary, before it or after it. -/
theorem CharCursor.Exact.seek {cursor : CharCursor} (exact : cursor.Exact) {byte : Nat}
    (boundary : Boundary cursor.text byte) :
    ∃ next, cursor.seek byte = .ok (charsWithin cursor.text byte, next) ∧ next.Exact ∧ next.text = cursor.text := by
  by_cases back : byte < cursor.byte
  · exact ⟨cursor, by simp only [CharCursor.seek, if_pos back], exact, rfl⟩
  · obtain ⟨⟨left, right, whole, here⟩, column⟩ := exact
    obtain ⟨longer, rest, again, there⟩ := boundary
    obtain ⟨between, rfl, rfl⟩ := beginning_extends (whole.symm.trans again) (by omega)
    rw [byteLength_append] at there
    have inner : slice cursor.text cursor.byte byte = .ok between := by
      rw [whole, ← here, ← there]
      exact slice_append left between rest
    have atColumn : cursor.column + between.length = charsWithin cursor.text byte := by
      rw [column, ← here, ← there, ← byteLength_append, again, charsWithin_append, ← again, whole, charsWithin_append,
        List.length_append]
    refine ⟨{ cursor with byte := byte, column := cursor.column + between.length }, ?_, ⟨?_, atColumn⟩, rfl⟩
    · simp only [CharCursor.seek, if_neg back, inner, ← atColumn]
      rfl
    · exact ⟨left ++ between, rest, again, by rw [byteLength_append]; exact there⟩

/-- A cursor whose byte offset is that of its column. -/
def ByteCursor.Exact (cursor : ByteCursor) (text : String) : Prop :=
  cursor.text = text.toList ∧ cursor.column ≤ text.toList.length ∧
    cursor.byte = byteLength (text.toList.take cursor.column)

theorem ByteCursor.exact_ofText (text : String) : (ByteCursor.ofText text).Exact text :=
  ⟨rfl, Nat.zero_le _, rfl⟩

theorem ByteCursor.Exact.restart {cursor : ByteCursor} {text : String} (exact : cursor.Exact text) (column : Nat) :
    ∃ start : ByteCursor, start.Exact text ∧ start.column ≤ column ∧
      (if column < cursor.column then { cursor with column := 0, byte := 0 } else cursor) = start := by
  by_cases back : column < cursor.column
  · exact ⟨⟨cursor.text, 0, 0⟩, ⟨exact.1, Nat.zero_le _, rfl⟩, Nat.zero_le _, if_pos back⟩
  · exact ⟨cursor, exact, by omega, if_neg back⟩

/-- An exact cursor answers as if it counted from the beginning, and stays exact whether or not there is an answer. -/
theorem ByteCursor.Exact.seek {cursor : ByteCursor} {text : String} (exact : cursor.Exact text) (column : Nat) :
    (cursor.seek column).1 = charToByte text column ∧ (cursor.seek column).2.Exact text := by
  obtain ⟨start, ⟨same, inside, byte⟩, before, started⟩ := exact.restart column
  have length : (start.text.drop start.column).length = text.toList.length - start.column := by
    rw [same, List.length_drop]
  simp only [ByteCursor.seek, started, charToByte]
  by_cases fits : column ≤ text.toList.length
  · rw [if_pos (by omega), if_pos fits]
    have bytes : start.byte + byteLength ((start.text.drop start.column).take (column - start.column)) =
        byteLength (text.toList.take column) := by
      rw [byte, same, ← byteLength_append, ← List.take_add, Nat.add_sub_cancel' before]
    exact ⟨by rw [bytes], same, fits, bytes⟩
  · rw [if_neg (by omega), if_neg fits]
    exact ⟨by rw [exact.1], same, inside, byte⟩

/-- A token from a cursor is the one that its span has on its own. -/
theorem ByteCursor.Exact.token {cursor : ByteCursor} {text : String} (exact : cursor.Exact text) (row : Nat)
    (span : Span) : (cursor.token row span).2.Exact text ∧ (cursor.token row span).1 = (do
      let start ← charToByte text span.start
      let stop ← charToByte text span.stop
      return ⟨row + 1, start + 1, stop - start, span.scopes⟩) := by
  obtain ⟨first, afterFirst⟩ := exact.seek span.start
  obtain ⟨second, afterSecond⟩ := afterFirst.seek span.stop
  simp only [ByteCursor.token]
  rw [← first]
  rcases atStart : cursor.seek span.start with ⟨_ | start, cursor⟩
  · exact ⟨by simpa only [atStart] using afterFirst, rfl⟩
  · simp only [atStart] at second afterSecond ⊢
    rw [← second]
    rcases atStop : cursor.seek span.stop with ⟨_ | stop, cursor⟩ <;>
      exact ⟨by simpa only [atStop] using afterSecond, rfl⟩

theorem Token.ofSpan_eq (text : String) (row : Nat) (span : Span) : Token.ofSpan text row span = (do
      let start ← charToByte text span.start
      let stop ← charToByte text span.stop
      return ⟨row + 1, start + 1, stop - start, span.scopes⟩) :=
  ((ByteCursor.exact_ofText text).token row span).2

theorem Token.ofSpan_take {text : String} {span : Span} (row : Nat) (start : span.start ≤ text.length)
    (stop : span.stop ≤ text.length) : Token.ofSpan text row span = .ok ⟨row + 1,
      byteLength (text.toList.take span.start) + 1,
      byteLength (text.toList.take span.stop) - byteLength (text.toList.take span.start), span.scopes⟩ := by
  rw [Token.ofSpan_eq, charToByte_take start, charToByte_take stop]
  rfl

end Highlighter
