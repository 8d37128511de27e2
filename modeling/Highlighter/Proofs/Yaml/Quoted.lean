import Mathlib.Tactic.Ring
import Highlighter.Proofs.Except
import Highlighter.Proofs.Yaml.Texts

namespace Highlighter.Yaml

/-- What stands behind an opening quote reads as a text, and so much is left behind the closing one. -/
def Quotes (double : Bool) (glyphs : List Glyph) (text : List Char) (rest : List Glyph) : Prop :=
  ∀ fuel, glyphs.length < fuel → quotedScalar double fuel glyphs = .ok (text, rest)

/-- The character that opens and closes. -/
def quoteMark (double : Bool) : Char := if double then '\"' else '\''

namespace Quotes

variable {double : Bool} {g : Glyph} {glyphs rest after : List Glyph} {text : List Char}

theorem close (mark : g.char = quoteMark double) (apart : double = false → nextIsIn ['\''] rest = false) :
    Quotes double (g :: rest) [] rest := by
  intro fuel enough
  obtain ⟨fuel, rfl⟩ : ∃ n, fuel = n + 1 := ⟨fuel - 1, by omega⟩
  have noMark : startsWithDocumentMark (g :: rest) = false :=
    not_startsWithDocumentMark rest (.inr (by cases double <;> simp [mark, quoteMark]))
  have dark : g.isWhite = false := by
    cases double <;> simp [Glyph.isWhite, Glyph.isBlank, Glyph.isBreak, mark, quoteMark, isLineBreak]
  simp only [quotedScalar, noMark, dark]
  cases double with
  | true =>
    simp [mark, quoteMark]
    rfl
  | false =>
    simp [mark, quoteMark, apart rfl]
    rfl

/-- A character that stands for itself. -/
theorem char (reads : Quotes double rest text after) (inside : g.column ≠ 0) (dark : g.isWhite = false)
    (other : g.char ≠ quoteMark double) (plain : double = true → g.char ≠ '\\') :
    Quotes double (g :: rest) (g.char :: text) after := by
  intro fuel enough
  obtain ⟨fuel, rfl⟩ : ∃ n, fuel = n + 1 := ⟨fuel - 1, by omega⟩
  have noMark : startsWithDocumentMark (g :: rest) = false := not_startsWithDocumentMark rest (.inl inside)
  have read := reads fuel (by simpa using enough)
  have escapes : (double && decide (g.char = '\\')) = false := by
    cases double <;> simp_all
  rw [quoteMark] at other
  simp only [quotedScalar, noMark, dark, if_neg other, escapes, read, Bool.false_eq_true, if_false]
  rfl

/-- A run of white space, which is folded. -/
theorem white {s : Spot} {run more folded : List Char} (reads : Quotes double ((s.past run).glyphs more) text after)
    (nonempty : run ≠ []) (all : ∀ c ∈ run, isWhiteSpace c = true) (stops : more.head?.any isWhiteSpace = false)
    (folds : foldWhite (s.glyphs run) = folded) : Quotes double (s.glyphs (run ++ more)) (folded ++ text) after := by
  intro fuel enough
  obtain ⟨fuel, rfl⟩ : ∃ n, fuel = n + 1 := ⟨fuel - 1, by omega⟩
  obtain ⟨c, run, rfl⟩ := List.exists_cons_of_ne_nil nonempty
  obtain ⟨here, later⟩ := List.forall_mem_cons.mp all
  obtain ⟨taken, -⟩ := s.divide_white all stops
  obtain ⟨-, left⟩ := (s.next c).divide_white later stops
  have noMark (rest : List Glyph) : startsWithDocumentMark (s.glyph c :: rest) = false := by
    refine not_startsWithDocumentMark _ (.inr ⟨?_, ?_⟩) <;> rintro (rfl : c = _) <;>
      exact absurd (all _ List.mem_cons_self) (by decide)
  have read := reads fuel (by simp at enough ⊢; omega)
  rw [List.cons_append, Spot.glyphs_cons] at taken
  rw [Spot.glyphs_cons] at folds
  simp only [List.cons_append, Spot.glyphs_cons, quotedScalar, noMark, Spot.isWhite_glyph, here, taken, left, folds,
    ← Spot.past_cons, read, Bool.false_eq_true, if_false, if_true]
  rfl

/-- A single quote that is written twice. -/
theorem apostrophe (reads : Quotes false rest text after) {h : Glyph} (first : g.char = '\'') (second : h.char = '\'') :
    Quotes false (g :: h :: rest) ('\'' :: text) after := by
  intro fuel enough
  obtain ⟨fuel, rfl⟩ : ∃ n, fuel = n + 1 := ⟨fuel - 1, by omega⟩
  have noMark : startsWithDocumentMark (g :: h :: rest) = false :=
    not_startsWithDocumentMark _ (.inr (by simp [first]))
  have dark : g.isWhite = false := by
    simp [Glyph.isWhite, Glyph.isBlank, Glyph.isBreak, first, isLineBreak]
  have read := reads fuel (by simp at enough; omega)
  simp only [quotedScalar, noMark, dark, first, nextIsIn, second, Bool.false_eq_true, if_false, if_true]
  simp [read]

/-- An escape. -/
theorem escape {letter : Glyph} {c : Char} {left : List Glyph} (reads : Quotes true left text after)
    (inside : g.column ≠ 0) (backslash : g.char = '\\') (unbroken : letter.isBreak = false)
    (meant : escape letter.char rest = .ok (c, left)) (shorter : left.length ≤ rest.length) :
    Quotes true (g :: letter :: rest) (c :: text) after := by
  intro fuel enough
  obtain ⟨fuel, rfl⟩ : ∃ n, fuel = n + 1 := ⟨fuel - 1, by omega⟩
  have noMark : startsWithDocumentMark (g :: letter :: rest) = false := not_startsWithDocumentMark _ (.inl inside)
  have dark : g.isWhite = false := by
    simp [Glyph.isWhite, Glyph.isBlank, Glyph.isBreak, backslash, isLineBreak]
  have read := reads fuel (by simp at enough; omega)
  simp only [quotedScalar, noMark, dark, backslash, unbroken, meant, Bool.false_eq_true, if_false, if_true]
  simp [ok_bind, read]

end Quotes

theorem hexNumber_add (value first second : Nat) (glyphs : List Glyph) :
    hexNumber value (first + second) glyphs =
      (hexNumber value first glyphs).bind fun (value, rest) => hexNumber value second rest := by
  induction first generalizing value glyphs with
  | zero => rw [Nat.zero_add, hexNumber, Option.bind_some]
  | succ first ih =>
    rw [Nat.succ_add]
    cases glyphs with
    | nil => rfl
    | cons g rest =>
      rw [hexNumber, hexNumber]
      cases hexDigit? g.char with
      | none => rfl
      | some digit => simp only [Option.bind_some, ih]

theorem hexDigit?_toUpper {digit : Nat} (small : digit < 16) :
    hexDigit? (Nat.digitChar digit).toUpper = some digit := by
  have all : ∀ digit < 16, hexDigit? (Nat.digitChar digit).toUpper = some digit := by decide
  exact all digit small

/-- Digits to base 16 read back as what remains of the number where only so many are written. -/
theorem hexNumber_hexDigits (s : Spot) (value count n : Nat) (rest : List Char) :
    hexNumber value count (s.glyphs (hexDigits count n ++ rest)) =
      some (value * 16 ^ count + n % 16 ^ count, (s.past (hexDigits count n)).glyphs rest) := by
  induction count generalizing n rest with
  | zero => simp [hexNumber, hexDigits, Nat.mod_one]
  | succ count ih =>
    have last : n % 16 < 16 := Nat.mod_lt n (by decide)
    have sum : 16 * (value * 16 ^ count + n / 16 % 16 ^ count) + n % 16 =
        value * 16 ^ (count + 1) + n % 16 ^ (count + 1) := by
      rw [Nat.pow_succ', Nat.mod_mul]
      ring
    rw [hexDigits, List.append_assoc, hexNumber_add, ih, Option.bind_some]
    simp only [List.singleton_append, Spot.glyphs_cons, hexNumber, Spot.char_glyph, hexDigit?_toUpper last,
      Option.bind_some, sum, Spot.past_append, Spot.past_cons, Spot.past_nil]

theorem onLine_hexDigits (count n : Nat) : OnLine (hexDigits count n) := by
  induction count generalizing n with
  | zero => exact nofun
  | succ count ih =>
    have all : ∀ digit < 16, isPrintable (Nat.digitChar digit).toUpper = true ∧
        endsALine (Nat.digitChar digit).toUpper = false := by decide
    exact onLine_append.mpr ⟨ih _, List.forall_mem_singleton.mpr (all _ (Nat.mod_lt n (by decide)))⟩

/-- An escape of a character, wherever it stands. -/
structure EscapeFor (c letter : Char) (digits : List Char) : Prop where
  onLine : OnLine ('\\' :: letter :: digits)
  reads : ∀ (s : Spot) rest, escape letter (s.glyphs (digits ++ rest)) = .ok (c, (s.past digits).glyphs rest)

theorem escapeFor_number {letter : Char} {count : Nat} (onLine : OnLine [letter])
    (unnamed : escapes.lookup letter = none) (long : hexLength? letter = some count) {c : Char}
    (fits : c.toNat < 16 ^ count) : EscapeFor c letter (hexDigits count c.toNat) where
  onLine := onLine_append.mpr ⟨onLine_cons.mpr ⟨by decide, onLine⟩, onLine_hexDigits count c.toNat⟩
  reads s rest := by
    have valid : c.toNat.isValidChar := c.valid
    simp only [escape, unnamed, long, Option.bind_some, hexNumber_hexDigits, Nat.zero_mul, Nat.zero_add,
      Nat.mod_eq_of_lt fits, if_pos valid, Char.ofNat_toNat]

theorem escapeFor_letter {c letter : Char} (named : (letter, c) ∈ escapes) (other : letter ≠ '\t') :
    EscapeFor c letter [] := by
  have all : ∀ escape ∈ escapes, escape.1 ≠ '\t' → escapes.lookup escape.1 = some escape.2 ∧
      isPrintable escape.1 = true ∧ endsALine escape.1 = false := by decide
  obtain ⟨meant, onLine⟩ := all (letter, c) named other
  refine ⟨onLine_cons.mpr ⟨by decide, List.forall_mem_singleton.mpr onLine⟩, fun s rest => ?_⟩
  simp only [escape, meant, List.nil_append, Spot.past_nil]

/-- Every character has an escape. -/
theorem escapeOf_cases (c : Char) : ∃ letter digits, escapeOf c = '\\' :: letter :: digits ∧ EscapeFor c letter digits := by
  unfold escapeOf
  split
  · rename_i letter meant found
    have named := List.mem_of_find?_eq_some found
    obtain ⟨same, other⟩ : meant = c ∧ letter ≠ '\t' := by simpa using List.find?_some found
    exact ⟨letter, [], rfl, escapeFor_letter (same ▸ named) other⟩
  · have bound : c.toNat < 16 ^ 8 := by
      have valid := c.valid
      simp only [UInt32.isValidChar, Nat.isValidChar] at valid
      have := c.toNat_val
      omega
    split
    · exact ⟨'x', hexDigits 2 c.toNat, rfl, escapeFor_number (by decide) (by decide) rfl (by omega)⟩
    · split
      · exact ⟨'u', hexDigits 4 c.toNat, rfl, escapeFor_number (by decide) (by decide) rfl (by omega)⟩
      · exact ⟨'U', hexDigits 8 c.toNat, rfl, escapeFor_number (by decide) (by decide) rfl bound⟩

theorem breaksOf_glyphs (s : Spot) (text : List Char) : breaksOf (s.glyphs text) = text.filter isLineBreak := by
  rw [breaksOf, ← s.map_char_glyphs text, List.filter_map, s.map_char_glyphs]
  rfl

theorem foldWhite_unbroken (s : Spot) {white : List Char} (unbroken : ∀ c ∈ white, isLineBreak c = false) :
    foldWhite (s.glyphs white) = white := by
  have none : white.filter isLineBreak = [] :=
    List.filter_eq_nil_iff.mpr fun c member => Bool.eq_false_iff.mp (unbroken c member)
  rw [foldWhite, breaksOf_glyphs, none, s.map_char_glyphs]

/-- Of line breaks other than line feeds nothing gets lost, and the indentation behind them does not count. -/
theorem foldWhite_breaks (s : Spot) {breaks : List Char} (nonempty : breaks ≠ []) (all : ∀ c ∈ breaks, isLineBreak c = true)
    (noFeed : '\n' ∉ breaks) (indent : Nat) : foldWhite (s.glyphs (breaks ++ spaces indent)) = breaks := by
  have blanks : (spaces indent).filter isLineBreak = [] := by
    rw [List.filter_eq_nil_iff]
    intro c member
    rw [List.eq_of_mem_replicate member]
    decide
  have same : breaksOf (s.glyphs (breaks ++ spaces indent)) = breaks := by
    rw [breaksOf_glyphs, List.filter_append, List.filter_eq_self.mpr all, blanks, List.append_nil]
  unfold foldWhite
  split
  · rename_i none
    exact absurd (same.symm.trans none) nonempty
  · rename_i one
    exact absurd (same ▸ one ▸ List.mem_cons_self) noFeed
  · rename_i breaks first
    exact absurd (same ▸ first ▸ List.mem_cons_self) noFeed
  · exact same

theorem doubleQuotedChar_cases (c : Char) :
    (doubleQuotedChar c = [c] ∧ OnLine [c] ∧ c ≠ '\"' ∧ c ≠ '\\') ∨ c ≠ ' ' ∧ doubleQuotedChar c = escapeOf c := by
  unfold doubleQuotedChar
  split
  · rename_i special
    refine .inr ⟨?_, rfl⟩
    rintro rfl
    cases special
  · rename_i simple
    simp only [Bool.or_eq_true, Bool.not_eq_true', decide_eq_true_eq, not_or, Bool.not_eq_false, Bool.not_eq_true] at simple
    exact .inl ⟨rfl, List.forall_mem_singleton.mpr simple.1.1, simple.1.2, simple.2⟩

theorem onLine_doubleQuoted (text : List Char) : OnLine (text.flatMap doubleQuotedChar) := by
  induction text with
  | nil => exact nofun
  | cons c text ih =>
    refine onLine_append.mpr ⟨?_, ih⟩
    obtain ⟨same, onLine, -⟩ | ⟨-, same⟩ := doubleQuotedChar_cases c
    · exact same ▸ onLine
    · obtain ⟨letter, digits, same', escape⟩ := escapeOf_cases c
      rw [same, same']
      exact escape.onLine

theorem OnLine.column_past {text : List Char} (onLine : OnLine text) (s : Spot) :
    (s.past text).column = s.column + text.length := by
  rw [s.past_of_oneLine onLine.any_isLineBreak]

theorem doubleQuoted_spaces {run : List Char} (all : ∀ c ∈ run, isSpace c = true) :
    run.flatMap doubleQuotedChar = run := by
  induction run with
  | nil => rfl
  | cons c run ih =>
    obtain ⟨here, later⟩ := List.forall_mem_cons.mp all
    obtain rfl : c = ' ' := of_decide_eq_true here
    rw [List.flatMap_cons, ih later]
    rfl

theorem doubleQuoted_starts {text : List Char} (starts : text.head?.any isSpace = false) (rest : List Char) :
    (text.flatMap doubleQuotedChar ++ '\"' :: rest).head?.any isWhiteSpace = false := by
  cases text with
  | nil => rfl
  | cons c text =>
    rw [List.head?_cons, Option.any_some] at starts
    rw [List.flatMap_cons]
    obtain ⟨same, single, -⟩ | ⟨-, same⟩ := doubleQuotedChar_cases c
    · obtain ⟨printable, stays⟩ := List.forall_mem_singleton.mp single
      rw [same, List.singleton_append, List.cons_append, List.head?_cons, Option.any_some, isWhiteSpace_eq printable,
        isSpaceOrBreak, starts, stays, Bool.or_self]
    · obtain ⟨letter, digits, written, -⟩ := escapeOf_cases c
      rw [same, written]
      rfl

/-- Every text is read back from double quotes. -/
theorem quotes_double (s : Spot) (inside : 0 < s.column) (text rest : List Char) :
    Quotes true (s.glyphs (text.flatMap doubleQuotedChar ++ '\"' :: rest)) text
      ((s.past (text.flatMap doubleQuotedChar ++ ['\"'])).glyphs rest) := by
  induction text using runs_induction isSpace generalizing s with
  | nil =>
    rw [List.flatMap_nil, List.nil_append, List.nil_append, Spot.glyphs_cons]
    exact .close rfl nofun
  | single c text dark ih =>
    have onLine : OnLine (doubleQuotedChar c) := List.flatMap_singleton doubleQuotedChar c ▸ onLine_doubleQuoted [c]
    have later := ih (s.past (doubleQuotedChar c)) (by rw [onLine.column_past]; omega)
    rw [List.flatMap_cons, List.append_assoc, List.append_assoc, Spot.past_append]
    obtain ⟨same, single, notMark, noEscape⟩ | ⟨-, same⟩ := doubleQuotedChar_cases c
    · obtain ⟨printable, stays⟩ := List.forall_mem_singleton.mp single
      rw [same] at later ⊢
      simp only [List.singleton_append, Spot.glyphs_cons, Spot.past_cons, Spot.past_nil] at later ⊢
      refine .char later (by simpa using Nat.ne_of_gt inside) ?_ notMark fun _ => noEscape
      rw [Spot.isWhite_glyph, isWhiteSpace_eq printable, isSpaceOrBreak, dark, stays, Bool.or_self]
    · obtain ⟨letter, digits, written, escape⟩ := escapeOf_cases c
      rw [same, written] at later ⊢
      have unbroken : isLineBreak letter = false := by
        obtain ⟨printable, stays⟩ := escape.onLine letter (List.mem_cons_of_mem _ List.mem_cons_self)
        rwa [← endsALine_eq printable]
      simp only [List.cons_append, Spot.glyphs_cons, Spot.past_cons] at later ⊢
      refine .escape later (by simpa using Nat.ne_of_gt inside) rfl unbroken (escape.reads _ _) ?_
      simp only [Spot.length_glyphs, List.length_append]
      omega
  | run front text nonempty all stops ih =>
    have unbroken : ∀ c ∈ front, isLineBreak c = false := fun c member => not_isLineBreak_of_isSpace (all c member)
    have oneLine : front.any isLineBreak = false := List.any_eq_false.mpr (by simpa using unbroken)
    have later := ih (s.past front) (s.past_of_oneLine oneLine ▸ Nat.add_pos_left inside _)
    rw [List.flatMap_append, doubleQuoted_spaces all, List.append_assoc, List.append_assoc, Spot.past_append]
    exact later.white nonempty (fun c member => isWhiteSpace_of_isSpace (all c member)) (doubleQuoted_starts stops rest)
      (foldWhite_unbroken s unbroken)

theorem singleQuoted_cons {c : Char} (stays : endsALine c = false) (indent : Nat) (text : List Char) :
    singleQuotedRest indent false (c :: text) =
      (if c = '\'' then ['\'', '\''] else [c]) ++ singleQuotedRest indent false text := by
  rw [singleQuotedRest, if_neg (Bool.eq_false_iff.mp stays), if_neg Bool.false_ne_true, List.nil_append]

theorem singleQuoted_spaces {run : List Char} (all : ∀ c ∈ run, isSpace c = true) (indent : Nat) (text : List Char) :
    singleQuotedRest indent false (run ++ text) = run ++ singleQuotedRest indent false text := by
  induction run with
  | nil => rfl
  | cons c run ih =>
    obtain ⟨here, later⟩ := List.forall_mem_cons.mp all
    obtain rfl : c = ' ' := of_decide_eq_true here
    rw [List.cons_append, singleQuoted_cons rfl, ih later]
    rfl

/-- Behind line breaks, what follows is indented. -/
theorem singleQuoted_breaks {breaks : List Char} (nonempty : breaks ≠ []) (all : ∀ c ∈ breaks, endsALine c = true)
    (indent : Nat) (afterBreak : Bool) {text : List Char} (stops : text.head?.any endsALine = false) :
    singleQuotedRest indent afterBreak (breaks ++ text) =
      breaks ++ spaces indent ++ singleQuotedRest indent false text := by
  induction breaks generalizing afterBreak with
  | nil => exact absurd rfl nonempty
  | cons c breaks ih =>
    obtain ⟨here, later⟩ := List.forall_mem_cons.mp all
    rw [List.cons_append, singleQuotedRest, if_pos here]
    cases breaks with
    | cons d breaks =>
      rw [ih nofun later, List.cons_append, List.cons_append]
      rfl
    | nil =>
      cases text with
      | nil => rfl
      | cons d text =>
        rw [List.head?_cons, Option.any_some] at stops
        simp [singleQuotedRest, stops]

theorem singleQuoted_starts {text : List Char} (printable : text.all isPrintable = true)
    (starts : text.head?.any isSpaceOrBreak = false) (indent : Nat) (rest : List Char) :
    (singleQuotedRest indent false text ++ rest).head?.any isWhiteSpace = false := by
  cases text with
  | nil => rfl
  | cons c text =>
    rw [List.head?_cons, Option.any_some] at starts
    rw [List.all_cons, Bool.and_eq_true] at printable
    have dark : isWhiteSpace c = false := (isWhiteSpace_eq printable.1).trans starts
    have stays : endsALine c = false := (Bool.or_eq_false_iff.mp starts).2
    rw [singleQuoted_cons stays]
    split
    · rfl
    · exact dark

/-- What single quotes can hold, without a line feed. -/
structure FitsSingle (text : List Char) : Prop where
  fits : fitsSingleQuotes text = true
  noFeed : '\n' ∉ text

namespace FitsSingle

variable {text rest : List Char}

theorem printable (fits : FitsSingle text) : text.all isPrintable = true := by
  have fits := fits.fits
  simp only [fitsSingleQuotes, Bool.and_eq_true] at fits
  exact fits.1.1

theorem of_append (fits : FitsSingle (text ++ rest)) : FitsSingle text ∧ FitsSingle rest := by
  obtain ⟨fits, noFeed⟩ := fits
  simp only [fitsSingleQuotes, Bool.and_eq_true, Bool.not_eq_true', List.all_append] at fits
  obtain ⟨⟨⟨printableText, printableRest⟩, breakSpace⟩, spaceBreak⟩ := fits
  obtain ⟨breakSpaceText, breakSpaceRest⟩ := hasAdjacent_of_append breakSpace
  obtain ⟨spaceBreakText, spaceBreakRest⟩ := hasAdjacent_of_append spaceBreak
  rw [List.mem_append, not_or] at noFeed
  refine ⟨⟨?_, noFeed.1⟩, ?_, noFeed.2⟩
  · simp only [fitsSingleQuotes, printableText, breakSpaceText, spaceBreakText, Bool.not_false, Bool.and_self]
  · simp only [fitsSingleQuotes, printableRest, breakSpaceRest, spaceBreakRest, Bool.not_false, Bool.and_self]

theorem spaces_or_breaks (fits : FitsSingle text) (all : ∀ c ∈ text, isSpaceOrBreak c = true) :
    (∀ c ∈ text, isSpace c = true) ∨ ∀ c ∈ text, endsALine c = true := by
  have fits := fits.fits
  simp only [fitsSingleQuotes, Bool.and_eq_true, Bool.not_eq_true'] at fits
  exact Yaml.spaces_or_breaks all fits.2 fits.1.2

end FitsSingle

/-- A text is read back from single quotes, if it fits between them. -/
theorem quotes_single {indent : Nat} (positive : 0 < indent) (s : Spot) (inside : 0 < s.column) {text : List Char}
    (fits : FitsSingle text) {rest : List Char} (apart : rest.head? ≠ some '\'') :
    Quotes false (s.glyphs (singleQuotedRest indent false text ++ rest)) text
      ((s.past (singleQuotedRest indent false text)).glyphs rest) := by
  induction text using runs_induction isSpaceOrBreak generalizing s with
  | nil =>
    rw [show singleQuotedRest indent false [] = ['\''] from rfl, List.singleton_append, Spot.glyphs_cons]
    refine .close rfl fun _ => ?_
    rw [Spot.nextIsIn_glyphs]
    cases rest with
    | nil => rfl
    | cons c rest => simpa using apart
  | single c text dark ih =>
    obtain ⟨fitsHere, fitsText⟩ := @FitsSingle.of_append [c] text fits
    have printable : isPrintable c = true := (Bool.and_true _).symm.trans fitsHere.printable
    have stays : endsALine c = false := (Bool.or_eq_false_iff.mp dark).2
    rw [singleQuoted_cons stays, List.append_assoc, Spot.past_append]
    split
    · rename_i quote
      have later := ih (s.past ['\'', '\'']) (by rw [OnLine.column_past (by decide)]; omega) fitsText
      simp only [List.cons_append, List.nil_append, Spot.glyphs_cons, Spot.past_cons, Spot.past_nil, quote] at later ⊢
      exact later.apostrophe rfl rfl
    · rename_i other
      have onLine : OnLine [c] := List.forall_mem_singleton.mpr ⟨printable, stays⟩
      have later := ih (s.past [c]) (by rw [onLine.column_past]; omega) fitsText
      simp only [List.singleton_append, Spot.glyphs_cons, Spot.past_cons, Spot.past_nil] at later ⊢
      exact later.char (by simpa using Nat.ne_of_gt inside) ((isWhiteSpace_eq printable).trans dark) other nofun
  | run front text nonempty all stops ih =>
    obtain ⟨fitsRun, fitsText⟩ := fits.of_append
    have follows := singleQuoted_starts fitsText.printable stops indent rest
    rcases fitsRun.spaces_or_breaks all with blanks | breaks
    · have unbroken : ∀ c ∈ front, isLineBreak c = false := fun c member => not_isLineBreak_of_isSpace (blanks c member)
      have oneLine : front.any isLineBreak = false := List.any_eq_false.mpr (by simpa using unbroken)
      have later := ih (s.past front) (s.past_of_oneLine oneLine ▸ Nat.add_pos_left inside _) fitsText
      rw [singleQuoted_spaces blanks, List.append_assoc, Spot.past_append]
      exact later.white nonempty (fun c member => isWhiteSpace_of_isSpace (blanks c member)) follows
        (foldWhite_unbroken s unbroken)
    · have printable : ∀ c ∈ front, isPrintable c = true := List.all_eq_true.mp fitsRun.printable
      have breaks' : ∀ c ∈ front, isLineBreak c = true := fun c member =>
        (endsALine_eq (printable c member)).symm.trans (breaks c member)
      have starts : text.head?.any endsALine = false := by
        cases text with
        | nil => rfl
        | cons c text => exact (Bool.or_eq_false_iff.mp stops).2
      have column := s.column_past_indent nonempty breaks' indent
      have later := ih (s.past (front ++ spaces indent)) (Nat.lt_of_lt_of_eq positive column.symm) fitsText
      rw [singleQuoted_breaks nonempty breaks indent false starts, List.append_assoc, Spot.past_append]
      refine later.white (by simp [nonempty]) (List.forall_mem_append.mpr ⟨fun c member => ?_, fun c member => ?_⟩)
        follows (foldWhite_breaks s nonempty breaks' fitsRun.noFeed indent)
      · simp [isWhiteSpace, breaks' c member]
      · rw [List.eq_of_mem_replicate member]
        rfl

end Highlighter.Yaml
