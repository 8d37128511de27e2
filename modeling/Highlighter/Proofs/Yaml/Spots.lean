import Highlighter.Yaml.Glyph

namespace Highlighter.Yaml

/-- A place in a text: the line, the column and the index of the character that comes next. -/
structure Spot where
  line : Nat
  column : Nat
  index : Nat

def isWhiteSpace (c : Char) : Bool := c = ' ' || c = '\t' || isLineBreak c

namespace Spot

/-- The place behind a character. -/
def next (s : Spot) (c : Char) : Spot :=
  if isLineBreak c then ⟨s.line + 1, 0, s.index + 1⟩ else ⟨s.line, s.column + 1, s.index + 1⟩

/-- The place behind a text. -/
def past (s : Spot) (text : List Char) : Spot := text.foldl next s

def glyph (s : Spot) (c : Char) : Glyph := ⟨c, s.line, s.column, s.index⟩

/-- The characters of a text that stands at the place. -/
def glyphs (s : Spot) (text : List Char) : List Glyph := Glyph.place s.line s.column s.index text

variable (s : Spot) (c : Char) (text rest : List Char)

@[simp] theorem past_nil : s.past [] = s := rfl

@[simp] theorem past_cons : s.past (c :: text) = (s.next c).past text := rfl

@[simp] theorem past_append : s.past (text ++ rest) = (s.past text).past rest := List.foldl_append

@[simp] theorem glyphs_nil : s.glyphs [] = [] := rfl

@[simp] theorem glyphs_cons : s.glyphs (c :: text) = s.glyph c :: (s.next c).glyphs text := by
  simp only [glyphs, Glyph.place, next, glyph]
  split <;> rfl

@[simp] theorem glyphs_append : s.glyphs (text ++ rest) = s.glyphs text ++ (s.past text).glyphs rest := by
  induction text generalizing s with
  | nil => rfl
  | cons c text ih => simp only [List.cons_append, glyphs_cons, past_cons, ih]

@[simp] theorem length_glyphs : (s.glyphs text).length = text.length := by
  induction text generalizing s with
  | nil => rfl
  | cons c text ih => simp only [glyphs_cons, List.length_cons, ih]

@[simp] theorem glyphs_eq_nil : s.glyphs text = [] ↔ text = [] := by
  cases text <;> simp

@[simp] theorem map_char_glyphs : (s.glyphs text).map Glyph.char = text := by
  induction text generalizing s with
  | nil => rfl
  | cons c text ih => simp only [glyphs_cons, List.map_cons, ih, glyph]

@[simp] theorem char_glyph : (s.glyph c).char = c := rfl

@[simp] theorem column_glyph : (s.glyph c).column = s.column := rfl

@[simp] theorem line_glyph : (s.glyph c).line = s.line := rfl

@[simp] theorem index_glyph : (s.glyph c).index = s.index := rfl

@[simp] theorem isBreak_glyph : (s.glyph c).isBreak = isLineBreak c := rfl

@[simp] theorem isWhite_glyph : (s.glyph c).isWhite = isWhiteSpace c := rfl

theorem mem_glyphs {s : Spot} {text : List Char} {g : Glyph} (member : g ∈ s.glyphs text) : g.char ∈ text := by
  rw [← map_char_glyphs s text]
  exact List.mem_map_of_mem member

@[simp] theorem head?_glyphs : (s.glyphs text).head? = text.head?.map s.glyph := by
  cases text <;> simp

@[simp] theorem nextIsIn_glyphs (chars : List Char) : nextIsIn chars (s.glyphs text) = text.head?.any chars.contains := by
  cases text <;> simp [nextIsIn]

@[simp] theorem endsWord_glyphs : endsWord (s.glyphs text) = text.head?.all isWhiteSpace := by
  cases text <;> simp [endsWord]

@[simp] theorem endsLine_glyphs : endsLine (s.glyphs text) = text.head?.all isLineBreak := by
  cases text <;> simp [endsLine]

theorem forall_mem_glyphs {s : Spot} {text : List Char} {p : Glyph → Bool} {q : Char → Bool}
    (same : ∀ s c, p (glyph s c) = q c) (all : ∀ c ∈ text, q c = true) : ∀ g ∈ s.glyphs text, p g = true := by
  induction text generalizing s with
  | nil => exact nofun
  | cons c text ih =>
    obtain ⟨here, later⟩ := List.forall_mem_cons.mp all
    rw [glyphs_cons]
    exact List.forall_mem_cons.mpr ⟨(same s c).trans here, ih later⟩

theorem line_le_past : s.line ≤ (s.past text).line := by
  induction text generalizing s with
  | nil => exact Nat.le_refl _
  | cons c text ih =>
    have one : s.line ≤ (s.next c).line := by
      unfold next
      split <;> simp
    exact Nat.le_trans one (ih _)

/-- Behind a line break another line has begun. -/
theorem line_lt_past {text : List Char} (broken : text.any isLineBreak) : s.line < (s.past text).line := by
  induction text generalizing s with
  | nil => cases broken
  | cons c text ih =>
    rw [past_cons]
    by_cases here : isLineBreak c
    · have later := (s.next c).line_le_past text
      have one : (s.next c).line = s.line + 1 := by rw [next, if_pos here]
      omega
    · rw [List.any_cons, Bool.eq_false_iff.mpr here, Bool.false_or] at broken
      have one : (s.next c).line = s.line := by rw [next, if_neg here]
      exact one ▸ ih (s.next c) broken

theorem past_of_oneLine {text : List Char} (oneLine : text.any isLineBreak = false) :
    s.past text = ⟨s.line, s.column + text.length, s.index + text.length⟩ := by
  induction text generalizing s with
  | nil => rfl
  | cons c text ih =>
    simp only [List.any_cons, Bool.or_eq_false_iff] at oneLine
    rw [past_cons, ih _ oneLine.2, next, if_neg (by simp [oneLine.1]), List.length_cons]
    simp only [Spot.mk.injEq, true_and]
    omega

/-- Behind line breaks a line begins. -/
theorem column_past_breaks {breaks : List Char} (all : ∀ c ∈ breaks, isLineBreak c = true) (nonempty : breaks ≠ []) :
    (s.past breaks).column = 0 := by
  induction breaks generalizing s with
  | nil => exact absurd rfl nonempty
  | cons c breaks ih =>
    obtain ⟨here, later⟩ := List.forall_mem_cons.mp all
    cases breaks with
    | nil => simp [next, here]
    | cons d breaks => exact ih (s.next c) later nofun

end Spot

/-- What begins with a run of one kind, up to where another kind follows, is divided there. -/
theorem divide_run {α : Type} {p : α → Bool} {run rest : List α} (all : ∀ a ∈ run, p a = true)
    (stops : rest.head?.any p = false) :
    (run ++ rest).takeWhile p = run ∧ (run ++ rest).dropWhile p = rest := by
  rw [List.takeWhile_append_of_pos all, List.dropWhile_append_of_pos all]
  cases rest with
  | nil => simp
  | cons a rest =>
    rw [List.head?_cons, Option.any_some] at stops
    simp [stops]

theorem Spot.divide_white (s : Spot) {white rest : List Char} (all : ∀ c ∈ white, isWhiteSpace c = true)
    (stops : rest.head?.any isWhiteSpace = false) :
    (s.glyphs (white ++ rest)).takeWhile Glyph.isWhite = s.glyphs white ∧
      (s.glyphs (white ++ rest)).dropWhile Glyph.isWhite = (s.past white).glyphs rest := by
  have dark : ((s.past white).glyphs rest).head?.any Glyph.isWhite = false := by
    rw [head?_glyphs, Option.any_map]
    exact stops
  rw [glyphs_append]
  exact divide_run (forall_mem_glyphs isWhite_glyph all) dark

theorem not_startsWithThree {mark : Char} {g : Glyph} (rest : List Glyph) (other : g.column ≠ 0 ∨ g.char ≠ mark) :
    startsWithThree mark (g :: rest) = false := by
  unfold startsWithThree
  split
  · rename_i a _ _ _ same
    cases same
    rcases other with column | char
    · simp [column]
    · simp [char]
  · rfl

/-- A mark that stands alone is no part of three. -/
theorem not_startsWithThree_of_alone {mark : Char} (dark : isWhiteSpace mark = false) (g : Glyph) {rest : List Glyph}
    (alone : endsWord rest = true) : startsWithThree mark (g :: rest) = false := by
  unfold startsWithThree
  split
  · rename_i second _ _ same
    cases same
    have other : second.char ≠ mark := fun same => by
      have white : isWhiteSpace second.char = true := alone
      rw [same, dark] at white
      cases white
    simp [other]
  · rfl

theorem not_startsWithDocumentMark {g : Glyph} (rest : List Glyph) (other : g.column ≠ 0 ∨ g.char ≠ '-' ∧ g.char ≠ '.') :
    startsWithDocumentMark (g :: rest) = false := by
  rw [startsWithDocumentMark, not_startsWithThree rest (other.imp_right And.left),
    not_startsWithThree rest (other.imp_right And.right), Bool.or_self]

end Highlighter.Yaml
