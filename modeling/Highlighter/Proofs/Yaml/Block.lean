import Highlighter.Proofs.Yaml.Plain

namespace Highlighter.Yaml

variable {limit : Option Nat} {rest : List Char}

theorem blockBreaks_spaces (s : Spot) {widest n : Nat} (narrow : s.column ≤ widest)
    (inside : limit.all (s.column + n ≤ ·)) :
    blockBreaks limit widest (s.glyphs (spaces n ++ rest)) =
      blockBreaks limit (max widest (s.column + n)) ((s.past (spaces n)).glyphs rest) := by
  induction n generalizing s widest with
  | zero =>
    rw [Nat.add_zero, Nat.max_eq_left narrow]
    rfl
  | succ n ih =>
    have column : (s.next ' ').column = s.column + 1 := rfl
    have left : limit.all ((s.glyph ' ').column < ·) = true := by
      cases limit with
      | none => rfl
      | some limit =>
        rw [Option.all_some, decide_eq_true_eq] at inside ⊢
        exact Nat.lt_of_lt_of_le (Nat.lt_add_of_pos_right n.succ_pos) inside
    have here : (limit.all ((s.glyph ' ').column < ·) && decide ((s.glyph ' ').char = ' ')) = true := by
      rw [left]
      rfl
    have later : limit.all ((s.next ' ').column + n ≤ ·) = true := by
      rwa [column, Nat.add_right_comm, Nat.add_assoc]
    have narrower : (s.next ' ').column ≤ max widest (s.column + 1) := Nat.le_max_right _ _
    have wide : max (max widest (s.column + 1)) (s.column + 1 + n) = max widest (s.column + (n + 1)) := by omega
    rw [spaces, List.replicate_succ, List.cons_append, Spot.glyphs_cons, blockBreaks, if_pos here, ← spaces,
      Spot.column_glyph, ih (s.next ' ') narrower later, column, wide, Spot.past_cons]

theorem blockBreaks_breaks (s : Spot) (widest : Nat) {breaks : List Char} (all : ∀ c ∈ breaks, isLineBreak c = true) :
    blockBreaks limit widest (s.glyphs (breaks ++ rest)) =
      (blockBreaks limit widest ((s.past breaks).glyphs rest)).map fun (more, widest, after) =>
        (breaks ++ more, widest, after) := by
  induction breaks generalizing s with
  | nil =>
    rw [List.nil_append, Spot.past_nil]
    rcases blockBreaks limit widest (s.glyphs rest) with _ | ⟨more, wide, after⟩ <;> rfl
  | cons c breaks ih =>
    obtain ⟨here, later⟩ := List.forall_mem_cons.mp all
    have noSpace : c ≠ ' ' := by rintro rfl; exact absurd here (by decide)
    have noTab : c ≠ '\t' := by rintro rfl; exact absurd here (by decide)
    rw [List.cons_append, Spot.glyphs_cons, blockBreaks, ih _ later]
    simp only [Spot.char_glyph, noSpace, noTab, Spot.isBreak_glyph, here, decide_false, Bool.and_false,
      Bool.false_eq_true, if_false, if_true, Spot.past_cons]
    rcases blockBreaks limit widest _ with _ | ⟨more, wide, after⟩ <;> rfl

/-- Whether what stands at a column is neither an empty line nor indentation. -/
def StartsLine (limit : Option Nat) (column : Nat) (rest : List Char) : Prop :=
  rest.head?.any isWhiteSpace = false ∨ limit = some column ∧ rest.head?.any isLineBreak = false

theorem blockBreaks_stop (s : Spot) (widest : Nat) (starts : StartsLine limit s.column rest) :
    blockBreaks limit widest (s.glyphs rest) = .ok ([], widest, s.glyphs rest) := by
  cases rest with
  | nil => rfl
  | cons c rest =>
    rw [Spot.glyphs_cons, blockBreaks]
    simp only [StartsLine, List.head?_cons, Option.any_some] at starts
    rcases starts with dark | ⟨rfl, unbroken⟩
    · simp only [isWhiteSpace, Bool.or_eq_false_iff, decide_eq_false_iff_not] at dark
      simp [dark]
    · simp [unbroken]

theorem Spot.column_past_margin (s : Spot) (start : s.column = 0) {breaks : List Char}
    (all : ∀ c ∈ breaks, isLineBreak c = true) (n : Nat) : (s.past (breaks ++ spaces n)).column = n := by
  by_cases nonempty : breaks = []
  · rw [nonempty, List.nil_append, s.past_of_oneLine (any_isLineBreak_spaces n), start, spaces, List.length_replicate,
      Nat.zero_add]
  · exact s.column_past_indent nonempty all n

/-- Empty lines and indentation, up to where a line starts. -/
theorem blockBreaks_line (s : Spot) (start : s.column = 0) (widest : Nat) {breaks : List Char}
    (all : ∀ c ∈ breaks, isLineBreak c = true) {n : Nat} (inside : limit.all (n ≤ ·))
    (starts : StartsLine limit n rest) :
    blockBreaks limit widest (s.glyphs (breaks ++ (spaces n ++ rest))) =
      .ok (breaks, max widest n, (s.past (breaks ++ spaces n)).glyphs rest) := by
  have column := s.column_past_margin start all 0
  have behind := s.column_past_margin start all n
  rw [spaces, List.replicate_zero, List.append_nil] at column
  rw [Spot.past_append] at behind
  rw [blockBreaks_breaks s widest all, blockBreaks_spaces _ (column ▸ Nat.zero_le widest) (by simpa [column] using inside),
    blockBreaks_stop _ _ (behind.symm ▸ starts), column, Spot.past_append]
  simp [Except.map]

variable {indent : Nat}

theorem blockLines_stop (s : Spot) (fuel : Nat) (afterBlank : Bool) (tail : BlockTail)
    (outside : s.column ≠ indent ∨ rest = []) :
    blockLines false indent fuel afterBlank tail (s.glyphs rest) = .ok ([], tail, s.glyphs rest) := by
  cases fuel with
  | zero => rfl
  | succ fuel =>
    cases rest with
    | nil => rfl
    | cons c rest =>
      have column : (s.glyph c).column ≠ indent := outside.resolve_right nofun
      rw [Spot.glyphs_cons, blockLines, if_neg column]
      rfl

/-- One line, with the empty lines behind it. -/
theorem blockLines_line (s : Spot) (start : s.column = indent) (fuel : Nat) (afterBlank : Bool) (tail : BlockTail)
    {c : Char} {line : List Char} (unbroken : ∀ d ∈ c :: line, isLineBreak d = false) {break_ : Char}
    {breaks : List Char} (all : ∀ d ∈ break_ :: breaks, isLineBreak d = true) {n : Nat} (inside : n ≤ indent)
    (starts : StartsLine (some indent) n rest) :
    blockLines false indent (fuel + 1) afterBlank tail
        (s.glyphs (c :: line ++ (break_ :: breaks ++ (spaces n ++ rest)))) =
      (blockLines false indent fuel (s.glyph c).isBlank ⟨some break_, breaks⟩
        ((s.past (c :: line ++ (break_ :: breaks ++ spaces n))).glyphs rest)).map fun (more, tail', after) =>
          (tail.lineBreak.toList ++ tail.breaks ++ (c :: line) ++ more, tail', after) := by
  have dark : ∀ g ∈ s.glyphs (c :: line), (!g.isBreak) = true :=
    Spot.forall_mem_glyphs (fun s d => congrArg not (s.isBreak_glyph d)) (by simpa using unbroken)
  have stops : ((s.past (c :: line)).glyphs (break_ :: breaks ++ (spaces n ++ rest))).head?.any (fun g => !g.isBreak) =
      false := by
    simp [all break_ List.mem_cons_self]
  obtain ⟨taken, dropped⟩ := divide_run dark stops
  rw [← Spot.glyphs_append, List.cons_append, Spot.glyphs_cons] at taken dropped
  rw [Spot.past_append]
  generalize s.past (c :: line) = behind at taken dropped
  have next : (behind.next break_).column = 0 := by
    rw [Spot.next, if_pos (all break_ List.mem_cons_self)]
  have skipped := blockBreaks_line (behind.next break_) next 0
    (fun d member => all d (List.mem_cons_of_mem _ member)) (by simpa using inside) starts
  have column : (s.glyph c).column = indent := start
  rw [List.cons_append, Spot.glyphs_cons, blockLines, if_pos column, taken, dropped, Spot.map_char_glyphs,
    List.cons_append, Spot.glyphs_cons, List.cons_append, Spot.past_cons]
  simp only [List.drop_one, List.tail_cons, skipped, ok_bind, List.head?_cons, Option.map_some, Spot.char_glyph,
    Bool.false_and, Bool.false_eq_true, if_false]
  rcases blockLines false indent fuel _ _ _ with _ | ⟨more, tail', after⟩ <;> rfl

/-- What is to become of the line breaks at the end of a block, so that they stay as they are in a text. -/
def chompingFor (text : List Char) : Chomping :=
  match text.reverse with
  | last :: before => if !endsALine last then .strip else if before.head?.all endsALine then .keep else .clip
  | [] => .strip

/-- How a text ends: with a line, which a block gives a break, or with breaks behind a line. -/
inductive EndsAs : (text body : List Char) → BlockTail → Prop
  | line {body last} : endsALine last = false → EndsAs (body ++ [last]) (body ++ [last]) ⟨some '\n', []⟩
  | breaks {body last break_ breaks} : endsALine last = false → (∀ c ∈ break_ :: breaks, endsALine c = true) →
      EndsAs (body ++ [last] ++ break_ :: breaks) (body ++ [last]) ⟨some break_, breaks⟩

namespace EndsAs

variable {text body : List Char} {tail : BlockTail}

theorem behind (ends : EndsAs text body tail) (front : List Char) : EndsAs (front ++ text) (front ++ body) tail := by
  cases ends with
  | line stays =>
    rw [← List.append_assoc]
    exact .line stays
  | breaks stays all =>
    rw [← List.append_assoc, ← List.append_assoc]
    exact .breaks stays all

theorem chomped (ends : EndsAs text body tail) : body ++ tail.text (chompingFor text) = text := by
  cases ends with
  | line stays => simp [chompingFor, stays, BlockTail.text]
  | @breaks body last break_ breaks stays all =>
    rcases List.eq_nil_or_concat breaks with rfl | ⟨breaks, final, rfl⟩
    · have broken : endsALine break_ = true := all break_ List.mem_cons_self
      simp [chompingFor, stays, broken, BlockTail.text]
    · have broken : endsALine final = true := all final (by simp)
      have before : endsALine (breaks.getLast?.getD break_) = true := by
        rcases List.eq_nil_or_concat breaks with rfl | ⟨breaks, other, rfl⟩
        · exact all break_ List.mem_cons_self
        · simpa using all other (by simp)
      simp [chompingFor, broken, before, BlockTail.text]

end EndsAs

/-- What ends the last line of a block, unless the text does. -/
def lineEnd (text : List Char) : List Char := if text.getLast?.any endsALine then [] else ['\n']

theorem lineEnd_append {text : List Char} (nonempty : text ≠ []) (front : List Char) :
    lineEnd (front ++ text) = lineEnd text := by
  rw [lineEnd, List.getLast?_append_of_ne_nil _ nonempty, lineEnd]

theorem lineEnd_breaks {breaks : List Char} (nonempty : breaks ≠ []) (all : ∀ c ∈ breaks, endsALine c = true) :
    lineEnd breaks = [] := by
  rw [lineEnd, List.getLast?_eq_some_getLast nonempty, Option.any_some, if_pos (all _ (List.getLast_mem nonempty))]

theorem blockText_line {line : List Char} (unbroken : ∀ c ∈ line, endsALine c = false) (indent : Nat)
    (text : List Char) : blockText indent false (line ++ text) = line ++ blockText indent false text := by
  induction line with
  | nil => rfl
  | cons c line ih =>
    obtain ⟨here, later⟩ := List.forall_mem_cons.mp unbroken
    rw [List.cons_append, blockText, if_neg (Bool.eq_false_iff.mp here), ih later]
    rfl

theorem blockText_breaks {breaks : List Char} (all : ∀ c ∈ breaks, endsALine c = true) (indent : Nat)
    (afterBreak : Bool) (text : List Char) :
    blockText indent afterBreak (breaks ++ text) = breaks ++ blockText indent (afterBreak || !breaks.isEmpty) text := by
  induction breaks generalizing afterBreak with
  | nil => simp
  | cons c breaks ih =>
    obtain ⟨here, later⟩ := List.forall_mem_cons.mp all
    rw [List.cons_append, blockText, if_pos here, ih later]
    simp

theorem blockText_start {text : List Char} (nonempty : text ≠ []) (starts : text.head?.any endsALine = false)
    (indent : Nat) : blockText indent true text = spaces indent ++ blockText indent false text := by
  obtain ⟨c, text, rfl⟩ := List.exists_cons_of_ne_nil nonempty
  have stays : endsALine c = false := starts
  simp [blockText, stays]

theorem head?_blockText {text : List Char} (nonempty : text ≠ []) (starts : text.head?.any endsALine = false)
    (indent : Nat) (more : List Char) : (blockText indent false text ++ more).head? = text.head? := by
  obtain ⟨c, text, rfl⟩ := List.exists_cons_of_ne_nil nonempty
  have stays : endsALine c = false := starts
  simp [blockText, stays]

theorem length_le_blockText (indent : Nat) (afterBreak : Bool) (text : List Char) :
    text.length ≤ (blockText indent afterBreak text).length := by
  induction text generalizing afterBreak with
  | nil => exact Nat.zero_le _
  | cons c text ih =>
    rw [blockText]
    split
    · simpa using ih true
    · have later := ih false
      rw [List.length_append, List.length_cons, List.length_cons]
      omega

/-- The last line of a text has a break behind it, be it the text's or not. -/
theorem lastLine {word gap : List Char} (nonempty : word ≠ []) (letters : ∀ c ∈ word, endsALine c = false)
    (all : ∀ c ∈ gap, isLineBreak c = true) : ∃ break_ breaks,
      blockText indent false (word ++ gap) ++ lineEnd (word ++ gap) = word ++ break_ :: breaks ∧
      (∀ c ∈ break_ :: breaks, isLineBreak c = true) ∧ EndsAs (word ++ gap) word ⟨some break_, breaks⟩ := by
  obtain ⟨body, last, rfl⟩ : ∃ body last, word = body ++ [last] :=
    ⟨_, _, (List.dropLast_concat_getLast nonempty).symm⟩
  have stays : endsALine last = false := letters last (by simp)
  cases gap with
  | nil =>
    refine ⟨'\n', [], ?_, List.forall_mem_singleton.mpr rfl, ?_⟩
    · rw [blockText_line letters, List.append_nil]
      simp [blockText, lineEnd, stays]
    · rw [List.append_nil]
      exact .line stays
  | cons break_ breaks =>
    have ends : ∀ c ∈ break_ :: breaks, endsALine c = true := fun c member => by simp [endsALine, all c member]
    refine ⟨break_, breaks, ?_, all, .breaks stays ends⟩
    have whole := blockText_breaks ends indent false []
    rw [List.append_nil] at whole
    rw [blockText_line letters, whole, lineEnd_append (List.cons_ne_nil _ _), lineEnd_breaks (List.cons_ne_nil _ _) ends]
    simp [blockText]

/-- The lines of a text read back as they are, up to the breaks at its end. -/
theorem blockLines_text (s : Spot) (start : s.column = indent) (fuel : Nat) (afterBlank : Bool) (tail : BlockTail)
    {text : List Char} (printable : ∀ c ∈ text, isPrintable c = true) (words : Words endsALine text)
    (enough : text.length ≤ fuel) {n : Nat} (outside : n < indent) (dark : rest.head?.any isWhiteSpace = false) :
    ∃ body tail', EndsAs text body tail' ∧
      blockLines false indent fuel afterBlank tail
          (s.glyphs (blockText indent false text ++ (lineEnd text ++ (spaces n ++ rest)))) =
        .ok (tail.lineBreak.toList ++ tail.breaks ++ body, tail',
          (s.past (blockText indent false text ++ (lineEnd text ++ spaces n))).glyphs rest) := by
  -- one step for each line, whose breaks are handed on as the tail and are written in front of the next
  induction words generalizing s fuel afterBlank tail with
  | @last word gap first letters all =>
    have same : ∀ d ∈ word ++ gap, isLineBreak d = endsALine d := fun d member => (endsALine_eq (printable d member)).symm
    have lengthWord := List.length_pos_iff.mpr first
    obtain ⟨fuel, rfl⟩ : ∃ m, fuel = m + 1 := ⟨fuel - 1, by simp at enough; omega⟩
    obtain ⟨break_, breaks, written, broken, ends⟩ := @lastLine indent word gap first letters fun d member =>
      (same d (List.mem_append_right word member)).trans (all d member)
    obtain ⟨c, line, rfl⟩ := List.exists_cons_of_ne_nil first
    have unbroken : ∀ d ∈ c :: line, isLineBreak d = false := fun d member =>
      (same d (List.mem_append_left gap member)).trans (letters d member)
    have reads := blockLines_line s start fuel afterBlank tail unbroken broken (Nat.le_of_lt outside) (.inl dark)
    have column : (s.past (c :: line ++ (break_ :: breaks ++ spaces n))).column ≠ indent := by
      rw [Spot.past_append, Spot.column_past_indent _ (List.cons_ne_nil _ _) broken]
      omega
    rw [blockLines_stop _ fuel _ _ (.inl column)] at reads
    refine ⟨_, _, ends, ?_⟩
    rw [← List.append_assoc, ← List.append_assoc (blockText _ _ _), written, List.append_assoc, List.append_assoc, reads]
    simp [Except.map]
  | @more word gap text first letters between all second begins words ih =>
    have same : ∀ d ∈ word ++ (gap ++ text), isLineBreak d = endsALine d := fun d member =>
      (endsALine_eq (printable d member)).symm
    obtain ⟨c, line, rfl⟩ := List.exists_cons_of_ne_nil first
    obtain ⟨break_, breaks, rfl⟩ := List.exists_cons_of_ne_nil between
    have unbroken : ∀ d ∈ c :: line, isLineBreak d = false := fun d member =>
      (same d (List.mem_append_left _ member)).trans (letters d member)
    have broken : ∀ d ∈ break_ :: breaks, isLineBreak d = true := fun d member =>
      (same d (List.mem_append_right _ (List.mem_append_left text member))).trans (all d member)
    obtain ⟨fuel, rfl⟩ : ∃ m, fuel = m + 1 := ⟨fuel - 1, by simp at enough; omega⟩
    have column := (s.past (c :: line)).column_past_indent (List.cons_ne_nil _ _) broken indent
    obtain ⟨body, tail', ends, later⟩ := ih ((s.past (c :: line)).past (break_ :: breaks ++ spaces indent)) column fuel
      (s.glyph c).isBlank ⟨some break_, breaks⟩
      (fun d member => printable d (List.mem_append_right _ (List.mem_append_right _ member))) (by simp at enough; omega)
    have lastEnd : lineEnd (c :: line ++ (break_ :: breaks ++ text)) = lineEnd text := by
      rw [← List.append_assoc, lineEnd_append second]
    have starts : StartsLine (some indent) indent (blockText indent false text ++ (lineEnd text ++ (spaces n ++ rest))) := by
      refine .inr ⟨rfl, ?_⟩
      obtain ⟨d, text, rfl⟩ := List.exists_cons_of_ne_nil second
      have stays : endsALine d = false := begins
      rw [blockText, if_neg (Bool.eq_false_iff.mp stays)]
      exact (same d (by simp)).trans stays
    have reads := blockLines_line s start fuel afterBlank tail unbroken broken (Nat.le_refl indent) starts
    rw [← Spot.past_append] at later
    have whole : blockText indent false (c :: line ++ (break_ :: breaks ++ text)) =
        c :: line ++ (break_ :: breaks ++ (spaces indent ++ blockText indent false text)) := by
      rw [blockText_line letters, blockText_breaks all, Bool.false_or, List.isEmpty_cons, Bool.not_false,
        blockText_start second begins]
    refine ⟨c :: line ++ (break_ :: breaks ++ body), tail', ?_, ?_⟩
    · rw [← List.append_assoc, ← List.append_assoc]
      exact ends.behind _
    · rw [whole, lastEnd]
      simp only [List.append_assoc] at reads later ⊢
      rw [reads, later]
      simp [Except.map]

def Chomping.mark : Chomping → List Char
  | .strip => ['-']
  | .clip => []
  | .keep => ['+']

theorem blockHints_eq (text : List Char) :
    blockHints text = (if text.head?.any isSpaceOrBreak then ['2'] else []) ++ (chompingFor text).mark := by
  unfold blockHints chompingFor
  cases text.reverse with
  | nil => rfl
  | cons last before =>
    congr 1
    by_cases stays : endsALine last = true
    · by_cases behind : before.head?.all endsALine = true
      · simp [stays, behind, Chomping.mark]
      · simp [stays, behind, Chomping.mark]
    · simp [stays, Chomping.mark]

theorem header_read (s : Spot) (text rest : List Char) :
    BlockHeader.read (s.glyphs (blockHints text ++ '\n' :: rest)) =
      .ok (⟨chompingFor text, if text.head?.any isSpaceOrBreak then some 2 else none⟩,
        (s.past (blockHints text ++ ['\n'])).glyphs rest) := by
  rw [blockHints_eq]
  generalize text.head?.any isSpaceOrBreak = wide
  cases wide <;> cases chompingFor text <;> rfl

theorem chompingFor_breaks {breaks : List Char} (nonempty : breaks ≠ []) (all : ∀ c ∈ breaks, endsALine c = true) :
    chompingFor breaks = .keep := by
  obtain ⟨front, last, rfl⟩ : ∃ front last, breaks = front ++ [last] :=
    ⟨_, _, (List.dropLast_concat_getLast nonempty).symm⟩
  have broken : endsALine last = true := all last (by simp)
  have before : front.getLast?.all endsALine = true := by
    rcases List.eq_nil_or_concat front with rfl | ⟨front, other, rfl⟩
    · rfl
    · simpa using all other (by simp)
  simp [chompingFor, broken, before]

/-- The columns that the hints in front of a block say it is indented by. -/
def hinted (least : Nat) (text : List Char) : Option Nat :=
  if text.head?.any isSpaceOrBreak then some (least + 1) else none

theorem blockScalar_of_lines (s : Spot) {least : Nat} (positive : 0 < least) {text behind breaks body : List Char}
    {widest : Nat} {lines after : List Glyph} {tail : BlockTail}
    (skipped : blockBreaks (hinted least text) 0 ((s.past (blockHints text ++ ['\n'])).glyphs behind) =
      .ok (breaks, widest, lines))
    (read : blockLines false ((hinted least text).getD (max (max widest least) 1)) lines.length false ⟨none, breaks⟩
      lines = .ok (body, tail, after)) :
    blockScalar false least (s.glyphs (blockHints text ++ '\n' :: behind)) =
      .ok (body ++ tail.text (chompingFor text), after) := by
  have given : (if text.head?.any isSpaceOrBreak then some 2 else none).map (least - 1 + ·) = hinted least text := by
    unfold hinted
    split
    · have wide : least - 1 + 2 = least + 1 := by omega
      exact congrArg some wide
    · rfl
  rw [blockScalar, header_read, ok_bind]
  simp only [given, skipped, ok_bind, read]
  rfl

theorem hinted_cases (least : Nat) (breaks : List Char) {lines : List Char} (printable : ∀ c ∈ lines, isPrintable c = true)
    (all : ∀ c ∈ breaks, endsALine c = true) (stops : lines.head?.any endsALine = false) :
    hinted least (breaks ++ lines) = some (least + 1) ∨
      hinted least (breaks ++ lines) = none ∧ lines.head?.any isWhiteSpace = false := by
  unfold hinted
  split
  · exact .inl rfl
  · rename_i narrow
    refine .inr ⟨rfl, ?_⟩
    cases breaks with
    | cons c breaks =>
      have wide : isSpaceOrBreak c = true := by rw [isSpaceOrBreak, all c List.mem_cons_self, Bool.or_true]
      exact absurd wide narrow
    | nil =>
      cases lines with
      | nil => rfl
      | cons c lines =>
        rw [List.head?_cons, Option.any_some, isWhiteSpace_eq (printable c List.mem_cons_self)]
        exact Bool.eq_false_iff.mpr narrow

theorem Spot.past_header (s : Spot) (text more : List Char) :
    s.past (blockHints text ++ '\n' :: more) = (s.past (blockHints text ++ ['\n'])).past more := by
  rw [← Spot.past_append, List.append_assoc, List.singleton_append]

theorem Spot.column_past_header (s : Spot) (text : List Char) : (s.past (blockHints text ++ ['\n'])).column = 0 := by
  rw [Spot.past_append]
  rfl

section Whole

variable (s : Spot) {least : Nat} (positive : 0 < least) {breaks : List Char} (all : ∀ c ∈ breaks, endsALine c = true)
  (broken : ∀ c ∈ breaks, isLineBreak c = true) {n : Nat} (outside : n ≤ least)
  (dark : rest.head?.any isWhiteSpace = false)

include positive all broken outside dark

/-- A text of line breaks only. -/
theorem blockScalar_breaks (nonempty : breaks ≠ []) :
    blockScalar false least (s.glyphs (blockHints breaks ++ '\n' :: (breaks ++ (spaces n ++ rest)))) =
      .ok (breaks, (s.past (blockHints breaks ++ '\n' :: (breaks ++ spaces n))).glyphs rest) := by
  have start := s.column_past_header breaks
  have hints : hinted least breaks = some (least + 1) := by
    obtain ⟨c, breaks, rfl⟩ := List.exists_cons_of_ne_nil nonempty
    simp [hinted, isSpaceOrBreak, all c List.mem_cons_self]
  have inside : (hinted least breaks).all (n ≤ ·) = true := by
    rw [hints, Option.all_some, decide_eq_true_eq]
    omega
  have skipped := blockBreaks_line _ start 0 broken inside (.inl dark)
  have column : ((s.past (blockHints breaks ++ ['\n'])).past (breaks ++ spaces n)).column ≠
      (hinted least breaks).getD (max (max (max 0 n) least) 1) := by
    rw [Spot.column_past_margin _ start broken n, hints, Option.getD_some]
    omega
  rw [blockScalar_of_lines s positive skipped (blockLines_stop _ _ _ _ (.inl column)), chompingFor_breaks nonempty all,
    s.past_header breaks (breaks ++ spaces n)]
  rfl

/-- A text with lines, maybe behind some line breaks. -/
theorem blockScalar_lines {lines : List Char} (nonempty : lines ≠ []) (stops : lines.head?.any endsALine = false)
    (printable : ∀ c ∈ lines, isPrintable c = true) :
    blockScalar false least (s.glyphs (blockHints (breaks ++ lines) ++ '\n' :: (breaks ++
        (spaces (least + 1) ++ (blockText (least + 1) false lines ++ (lineEnd lines ++ (spaces n ++ rest))))))) =
      .ok (breaks ++ lines, (s.past (blockHints (breaks ++ lines) ++ '\n' :: (breaks ++
        (spaces (least + 1) ++ (blockText (least + 1) false lines ++ (lineEnd lines ++ spaces n)))))).glyphs rest) := by
  have start := s.column_past_header (breaks ++ lines)
  have hints := hinted_cases least breaks printable all stops
  have inside : (hinted least (breaks ++ lines)).all (least + 1 ≤ ·) = true := by
    rcases hints with given | ⟨none, -⟩
    · rw [given, Option.all_some, decide_eq_true_eq]
    · rw [none]
      rfl
  have begins : StartsLine (hinted least (breaks ++ lines)) (least + 1)
      (blockText (least + 1) false lines ++ (lineEnd lines ++ (spaces n ++ rest))) := by
    have front := head?_blockText nonempty stops (least + 1) (lineEnd lines ++ (spaces n ++ rest))
    rcases hints with given | ⟨-, dark⟩
    · obtain ⟨c, lines, rfl⟩ := List.exists_cons_of_ne_nil nonempty
      exact .inr ⟨given, front ▸ (endsALine_eq (printable c List.mem_cons_self)).symm.trans stops⟩
    · exact .inl (front ▸ dark)
  have indent : (hinted least (breaks ++ lines)).getD (max (max (max 0 (least + 1)) least) 1) = least + 1 := by
    rcases hints with given | ⟨none, -⟩
    · rw [given, Option.getD_some]
    · rw [none, Option.getD_none]
      omega
  have skipped := blockBreaks_line _ start 0 broken inside begins
  have column := Spot.column_past_margin _ start broken (least + 1)
  obtain ⟨body, tail, ends, read⟩ := blockLines_text _ column
    (blockText (least + 1) false lines ++ (lineEnd lines ++ (spaces n ++ rest))).length false ⟨none, breaks⟩ printable
    (words_of_starts nonempty stops) (by have := length_le_blockText (least + 1) false lines; simp; omega)
    (Nat.lt_succ_of_le outside) dark
  rw [blockScalar_of_lines s positive skipped (by rw [Spot.length_glyphs, indent]; exact read)]
  have whole := (ends.behind breaks).chomped
  simp only [Option.toList_none, List.nil_append, List.append_assoc, Spot.past_append, Spot.past_cons, Spot.past_nil]
    at whole ⊢
  rw [whole]

end Whole

/-- A text reads back from a block that is indented one column further than it has to be. -/
theorem blockScalar_text (s : Spot) {least : Nat} (positive : 0 < least) {text : List Char}
    (fits : fitsBlock text = true) {n : Nat} (outside : n ≤ least) (dark : rest.head?.any isWhiteSpace = false) :
    blockScalar false least
        (s.glyphs (blockHints text ++ '\n' :: (blockText (least + 1) true text ++ (lineEnd text ++ (spaces n ++ rest))))) =
      .ok (text, (s.past (blockHints text ++ '\n' :: (blockText (least + 1) true text ++
        (lineEnd text ++ spaces n)))).glyphs rest) := by
  simp only [fitsBlock, Bool.and_eq_true, Bool.not_eq_true', List.all_eq_true] at fits
  obtain ⟨⟨⟨nonempty, printable⟩, -⟩, -⟩ := fits
  obtain ⟨breaks, lines, rfl, all, stops⟩ := exists_leading endsALine text
  have broken : ∀ c ∈ breaks, isLineBreak c = true := fun c member =>
    (endsALine_eq (printable c (List.mem_append_left lines member))).symm.trans (all c member)
  by_cases empty : lines = []
  · subst empty
    rw [List.append_nil] at nonempty ⊢
    have several : breaks ≠ [] := by simpa using nonempty
    have written : blockText (least + 1) true breaks = breaks := by
      have whole := blockText_breaks all (least + 1) true []
      rwa [List.append_nil, blockText, List.append_nil] at whole
    rw [written, lineEnd_breaks several all]
    exact blockScalar_breaks s positive all broken outside dark several
  · have written : blockText (least + 1) true (breaks ++ lines) =
        breaks ++ (spaces (least + 1) ++ blockText (least + 1) false lines) := by
      rw [blockText_breaks all, Bool.true_or, blockText_start empty stops]
    rw [written, lineEnd_append empty, List.append_assoc, List.append_assoc, List.append_assoc, List.append_assoc]
    exact blockScalar_lines s positive all broken outside dark empty stops fun c member =>
      printable c (List.mem_append_right breaks member)

end Highlighter.Yaml
