import Highlighter.Proofs.Yaml.Quoted

namespace Highlighter.Yaml

/-- Two neighbours at which a plain text does not break off. -/
def Joined (a b : Char) : Prop := ¬(a = ':' ∧ isWhiteChar b = true) ∧ ¬(isWhiteChar a = true ∧ b = '#')

theorem isBrokenOff_eq_false {text : List Char} :
    isBrokenOff text = false ↔ text.IsChain Joined ∧ text.getLast? ≠ some ':' := by
  fun_induction isBrokenOff text with
  | case1 => simp
  | case2 c => simp
  | case3 a b rest ih =>
    rw [Bool.or_eq_false_iff, Bool.or_eq_false_iff, ih, List.isChain_cons_cons, List.getLast?_cons_cons, Joined]
    simp only [Bool.and_eq_false_iff, decide_eq_false_iff_not, not_and_or, Bool.not_eq_true]
    tauto

/-- A text that may stand without quotes. -/
structure PlainText (text : List Char) : Prop where
  onLine : OnLine text
  joined : text.IsChain Joined
  open_ : text.getLast? ≠ some ':'
  nonempty : text ≠ []
  begins : text.head?.any isSpace = false
  noComment : text.head? ≠ some '#'
  ends : text.getLast?.any isSpace = false

/-- Where spaces stand in such a text, both what is in front of them and what is behind are such texts too. -/
theorem PlainText.divide {word blanks text : List Char} (plain : PlainText (word ++ (blanks ++ text)))
    (first : word ≠ []) (dark : ∀ c ∈ word, isSpace c = false) (nonempty : blanks ≠ [])
    (spaces : ∀ c ∈ blanks, isSpace c = true) (second : text ≠ []) (begins : text.head?.any isSpace = false) :
    PlainText word ∧ PlainText text := by
  obtain ⟨onLineWord, onLine⟩ := onLine_append.mp plain.onLine
  obtain ⟨-, onLineText⟩ := onLine_append.mp onLine
  obtain ⟨joinedWord, joined, colon⟩ := List.isChain_append.mp plain.joined
  obtain ⟨-, joinedText, comment⟩ := List.isChain_append.mp joined
  have white (c : Char) (member : c ∈ blanks) : isWhiteChar c = true := by
    rw [of_decide_eq_true (spaces c member)]
    rfl
  have wordEnd := dark _ (List.getLast_mem first)
  refine ⟨⟨onLineWord, joinedWord, fun last => ?_, first, ?_, ?_, ?_⟩,
    onLineText, joinedText, ?_, second, begins, fun number => ?_, ?_⟩
  · obtain ⟨b, blanks, rfl⟩ := List.exists_cons_of_ne_nil nonempty
    exact (colon ':' last b rfl).1 ⟨rfl, white b List.mem_cons_self⟩
  · have front := plain.begins
    rwa [List.head?_append_of_ne_nil _ first] at front
  · have front := plain.noComment
    rwa [List.head?_append_of_ne_nil _ first] at front
  · rw [List.getLast?_eq_some_getLast first, Option.any_some, wordEnd]
  · have last := plain.open_
    rwa [List.getLast?_append_of_ne_nil _ (by simp [second]), List.getLast?_append_of_ne_nil _ second] at last
  · have last := List.getLast_mem nonempty
    exact (comment _ (List.getLast?_eq_some_getLast nonempty) '#' number).2 ⟨white _ last, rfl⟩
  · have last := plain.ends
    rwa [List.getLast?_append_of_ne_nil _ (by simp [second]), List.getLast?_append_of_ne_nil _ second] at last

theorem plainText_of_fits {text : List Char} (nonempty : text ≠ []) (fits : fitsPlain text = true) : PlainText text := by
  simp only [fitsPlain, fitsSingleQuotes, Bool.and_eq_true, Bool.not_eq_true'] at fits
  obtain ⟨⟨⟨⟨⟨⟨⟨printable, -⟩, -⟩, noBreak⟩, begins⟩, ends⟩, starts⟩, unbroken⟩ := fits
  obtain ⟨joined, open_⟩ := isBrokenOff_eq_false.mp unbroken
  have narrow {c : Option Char} (white : c.any isSpaceOrBreak = false) : c.any isSpace = false := by
    cases c with
    | none => rfl
    | some c => exact (Bool.or_eq_false_iff.mp white).1
  have onLine : OnLine text := fun c member =>
    ⟨List.all_eq_true.mp printable c member, Bool.eq_false_iff.mpr (List.any_eq_false.mp noBreak c member)⟩
  refine ⟨onLine, joined, open_, nonempty, narrow begins, fun number => ?_, narrow ends⟩
  obtain ⟨rest, rfl⟩ := List.head?_eq_some_iff.mp number
  simp only [startsAsIndicator, Bool.or_eq_false_iff] at starts
  exact absurd starts.1.1.1 (by decide)

/-- Whether a plain scalar ends in front of a text. -/
def endsPlain : List Char → Bool
  | [] => true
  | c :: rest => isWhiteSpace c || (c = ':' && rest.head?.all isWhiteSpace)

theorem plainWord_end (s : Spot) {rest : List Char} (ends : endsPlain rest = true) :
    plainWord false (s.glyphs rest) = .ok ([], s.glyphs rest) := by
  cases rest with
  | nil => rfl
  | cons c rest =>
    rw [Spot.glyphs_cons, plainWord]
    simp only [endsPlain] at ends
    by_cases white : isWhiteSpace c = true
    · simp [white]
    · simp_all

theorem plainWord_word (s : Spot) {word rest : List Char} (dark : ∀ c ∈ word, isWhiteSpace c = false)
    (open_ : word.getLast? ≠ some ':') (ends : endsPlain rest = true) :
    plainWord false (s.glyphs (word ++ rest)) = .ok (word, (s.past word).glyphs rest) := by
  induction word generalizing s with
  | nil => exact plainWord_end s ends
  | cons c word ih =>
    obtain ⟨here, later⟩ := List.forall_mem_cons.mp dark
    have noColon : ((s.glyph c).char = ':' && endsWord ((s.next c).glyphs (word ++ rest))) = false := by
      rw [Spot.endsWord_glyphs, Spot.char_glyph, Bool.and_eq_false_iff, decide_eq_false_iff_not]
      cases word with
      | nil => exact .inl (by simpa using open_)
      | cons d word => exact .inr (later d List.mem_cons_self)
    have openLater : word.getLast? ≠ some ':' := by
      cases word with
      | nil => exact nofun
      | cons d word => rwa [List.getLast?_cons_cons] at open_
    rw [List.cons_append, Spot.glyphs_cons, plainWord, ih _ later openLater, Spot.isWhite_glyph, here, noColon]
    rfl

/-- Reads a word and what follows it, behind some white space. -/
theorem plainScalar_word (s : Spot) (indent fuel : Nat) (white : List Glyph) {word rest : List Char} (nonempty : word ≠ [])
    (dark : ∀ c ∈ word, isWhiteSpace c = false) (open_ : word.getLast? ≠ some ':') (ends : endsPlain rest = true)
    (noComment : word.head? ≠ some '#') (inside : s.column ≠ 0 ∨ word.head?.any ['-', '.'].contains = false)
    {blanks next : List Glyph} (taken : ((s.past word).glyphs rest).takeWhile Glyph.isWhite = blanks)
    (dropped : ((s.past word).glyphs rest).dropWhile Glyph.isWhite = next) :
    plainScalar false indent (fuel + 1) white (s.glyphs (word ++ rest)) =
      if blanks.isEmpty then .ok (foldWhite white ++ word, false, (s.past word).glyphs rest)
      else if tabBefore indent blanks then .error .tabInIndentation
      else if next.head?.any fun g => g.column < indent then
        .ok (foldWhite white ++ word, blanks.any Glyph.isBreak, next)
      else (plainScalar false indent fuel blanks next).map fun (more, broken, rest) =>
        (foldWhite white ++ word ++ more, broken, rest) := by
  subst taken dropped
  obtain ⟨c, word, rfl⟩ := List.exists_cons_of_ne_nil nonempty
  have noMark : startsWithDocumentMark (s.glyph c :: (s.next c).glyphs (word ++ rest)) = false := by
    refine not_startsWithDocumentMark _ (inside.imp_right fun other => ?_)
    simpa using other
  have noNumber : nextIsIn ['#'] (s.glyphs (c :: word ++ rest)) = false := by
    rw [Spot.nextIsIn_glyphs]
    simpa using noComment
  rw [plainScalar, plainWord_word s dark open_ ends, noNumber, List.cons_append, Spot.glyphs_cons, noMark]
  simp only [Bool.or_false, Bool.false_eq_true, if_false, ok_bind, List.isEmpty_cons, Bool.not_false, Bool.true_and]
  split
  · rfl
  · split
    · rfl
    · split
      · rfl
      · rcases plainScalar false indent fuel _ _ with _ | ⟨more, broken, rest⟩ <;> rfl

/-- How a plain scalar ends: in front of a colon, or with the line if what comes next starts further to the left. -/
inductive PlainEnd (indent : Nat) : List Char → Bool → List Char → List Char → Prop
  | colon {rest} : rest.head?.all isWhiteSpace = true → PlainEnd indent (':' :: rest) false [] (':' :: rest)
  | line {n rest} : n < indent → rest.head?.any isWhiteSpace = false →
      PlainEnd indent ('\n' :: (spaces n ++ rest)) true ('\n' :: spaces n) rest

theorem PlainEnd.endsPlain {indent : Nat} {behind : List Char} {broken : Bool} {skipped left : List Char}
    (ending : PlainEnd indent behind broken skipped left) : endsPlain behind = true := by
  cases ending with
  | colon white => simp [Yaml.endsPlain, white]
  | line _ _ => rfl

theorem PlainEnd.eq_append {indent : Nat} {behind : List Char} {broken : Bool} {skipped left : List Char}
    (ending : PlainEnd indent behind broken skipped left) : behind = skipped ++ left := by
  cases ending <;> rfl

theorem tabBefore_eq_false (s : Spot) (indent : Nat) {white : List Char} (noTab : '\t' ∉ white) :
    tabBefore indent (s.glyphs white) = false := by
  rw [tabBefore, List.any_eq_false]
  intro g member tab
  rw [Bool.and_eq_true, decide_eq_true_eq] at tab
  exact noTab (tab.1 ▸ Spot.mem_glyphs ((List.dropWhile_sublist _).mem member))

theorem OnLine.dark {word : List Char} (onLine : OnLine word) (letters : ∀ c ∈ word, isSpace c = false) :
    ∀ c ∈ word, isWhiteSpace c = false := fun c member => by
  obtain ⟨printable, stays⟩ := onLine c member
  rw [isWhiteSpace_eq printable, isSpaceOrBreak, letters c member, stays, Bool.or_self]

/-- A line break and the indentation of the line behind it. -/
theorem divide_line (s : Spot) (n : Nat) {rest : List Char} (dark : rest.head?.any isWhiteSpace = false) :
    (s.glyphs ('\n' :: (spaces n ++ rest))).takeWhile Glyph.isWhite = s.glyphs ('\n' :: spaces n) ∧
      (s.glyphs ('\n' :: (spaces n ++ rest))).dropWhile Glyph.isWhite = (s.past ('\n' :: spaces n)).glyphs rest := by
  have white : ∀ c ∈ '\n' :: spaces n, isWhiteSpace c = true := by
    refine List.forall_mem_cons.mpr ⟨rfl, fun c member => ?_⟩
    rw [List.eq_of_mem_replicate member]
    rfl
  rw [← List.cons_append]
  exact s.divide_white white dark

theorem plainScalar_last (s : Spot) {indent : Nat} (fuel : Nat) (white : List Glyph) {word behind skipped left : List Char}
    {broken : Bool} (plain : PlainText word) (letters : ∀ c ∈ word, isSpace c = false)
    (inside : s.column ≠ 0 ∨ word.head?.any ['-', '.'].contains = false)
    (ending : PlainEnd indent behind broken skipped left) :
    plainScalar false indent (fuel + 1) white (s.glyphs (word ++ behind)) =
      .ok (foldWhite white ++ word, broken, (s.past (word ++ skipped)).glyphs left) := by
  have reads := plainScalar_word s indent fuel white plain.nonempty (plain.onLine.dark letters) plain.open_
    ending.endsPlain plain.noComment inside rfl rfl
  cases ending with
  | @colon rest _ =>
    have dark : Glyph.isWhite ((s.past word).glyph ':') = false := rfl
    simpa [List.takeWhile_cons, dark] using reads
  | @line n _ lower dark =>
    obtain ⟨taken, dropped⟩ := divide_line (s.past word) n dark
    have noTab : '\t' ∉ '\n' :: spaces n := by simp [spaces]
    have column := (s.past word).column_past_line n
    rw [taken, dropped, tabBefore_eq_false (s.past word) indent noTab, Spot.glyphs_cons] at reads
    rw [reads, Spot.past_append]
    generalize (s.past word).past ('\n' :: spaces n) = behind at column
    have broken : ((s.past word).glyph '\n').isBreak = true := rfl
    cases left with
    | nil =>
      have stop : plainScalar false indent fuel ((s.past word).glyph '\n' :: ((s.past word).next '\n').glyphs (spaces n)) [] =
          .ok ([], true, []) := by
        cases fuel <;> rfl
      simp [stop, Except.map]
    | cons c left => simp [column, lower, broken]

/-- A plain text reads back, up to where it ends. -/
theorem plainScalar_text (s : Spot) {indent : Nat} (fuel : Nat) (white : List Glyph) {text behind skipped left : List Char}
    {broken : Bool} (plain : PlainText text) (room : indent ≤ s.column + 1) (enough : text.length ≤ fuel)
    (inside : s.column ≠ 0 ∨ text.head?.any ['-', '.'].contains = false)
    (ending : PlainEnd indent behind broken skipped left) :
    plainScalar false indent fuel white (s.glyphs (text ++ behind)) =
      .ok (foldWhite white ++ text, broken, (s.past (text ++ skipped)).glyphs left) := by
  have words := words_of_starts plain.nonempty plain.begins
  induction words generalizing s fuel white with
  | @last word gap first letters blank =>
    obtain rfl : gap = [] := by
      by_contra nonempty
      have last := plain.ends
      rw [List.getLast?_append_of_ne_nil _ nonempty, List.getLast?_eq_some_getLast nonempty, Option.any_some,
        blank _ (List.getLast_mem nonempty)] at last
      cases last
    rw [List.append_nil] at plain enough inside ⊢
    obtain ⟨fuel, rfl⟩ : ∃ n, fuel = n + 1 := ⟨fuel - 1, by have := List.length_pos_iff.mpr first; omega⟩
    exact plainScalar_last s fuel white plain letters inside ending
  | @more word blanks text first letters nonempty blank second begins words ih =>
    obtain ⟨plainWord, plainText⟩ := plain.divide first letters nonempty blank second begins
    have lengthWord := List.length_pos_iff.mpr first
    have lengthBlanks := List.length_pos_iff.mpr nonempty
    simp only [List.length_append] at enough
    obtain ⟨fuel, rfl⟩ : ∃ n, fuel = n + 1 := ⟨fuel - 1, by omega⟩
    have unbroken : ∀ c ∈ blanks, isLineBreak c = false := fun c member => not_isLineBreak_of_isSpace (blank c member)
    have column : ((s.past word).past blanks).column = s.column + word.length + blanks.length := by
      rw [s.past_of_oneLine plainWord.onLine.any_isLineBreak,
        Spot.past_of_oneLine _ (List.any_eq_false.mpr (by simpa using unbroken))]
    obtain ⟨c, text, rfl⟩ := List.exists_cons_of_ne_nil second
    have dark : isWhiteSpace c = false := by
      obtain ⟨printable, stays⟩ := plainText.onLine c List.mem_cons_self
      rw [isWhiteSpace_eq printable, isSpaceOrBreak, stays, Bool.or_false]
      exact begins
    obtain ⟨taken, dropped⟩ := @Spot.divide_white (s.past word) blanks (c :: (text ++ behind))
      (fun c member => isWhiteSpace_of_isSpace (blank c member)) dark
    have noTab : '\t' ∉ blanks := fun member => absurd (blank '\t' member) (by decide)
    have ends : endsPlain (blanks ++ (c :: text ++ behind)) = true := by
      obtain ⟨b, blanks, rfl⟩ := List.exists_cons_of_ne_nil nonempty
      rw [List.cons_append, endsPlain, isWhiteSpace_of_isSpace (blank b List.mem_cons_self), Bool.true_or]
    have start : s.column ≠ 0 ∨ word.head?.any ['-', '.'].contains = false := by
      rwa [List.head?_append_of_ne_nil _ first] at inside
    have reads := plainScalar_word s indent fuel white first (plainWord.onLine.dark letters) plainWord.open_ ends
      plainWord.noComment start taken dropped
    have later := ih ((s.past word).past blanks) fuel ((s.past word).glyphs blanks) plainText (by omega) (by omega)
      (.inl (by omega))
    have stays : ¬((s.past word).past blanks).column < indent := by omega
    rw [foldWhite_unbroken _ unbroken] at later
    rw [List.append_assoc, List.append_assoc, reads, tabBefore_eq_false _ _ noTab]
    rw [List.cons_append] at later
    rw [later]
    simp [nonempty, stays, Except.map]

end Highlighter.Yaml
