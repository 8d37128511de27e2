import Highlighter.Proofs.Boundary
import Highlighter.Proofs.Yaml.Steps

namespace Highlighter.Yaml

/-- A scalar without the break that ends its last line. -/
def scalarBody (indent : Nat) (text : List Char) : List Char :=
  match Style.ofText text with
  | .plain => text
  | .singleQuoted => '\'' :: singleQuotedRest indent false text
  | .doubleQuoted => '\"' :: text.flatMap doubleQuotedChar ++ ['\"']
  | .literal => '|' :: blockHints text ++ '\n' :: blockText indent true text

theorem writeScalar_eq (indent : Nat) (text : String) : writeScalar indent text =
    scalarBody indent text.toList ++ if Style.ofText text.toList = .literal then lineEnd text.toList else ['\n'] := by
  cases style : Style.ofText text.toList with
  | literal =>
    simp only [writeScalar, scalarBody, style, if_true, List.append_assoc]
    rfl
  | _ => simp [writeScalar, scalarBody, style]

section Styles

variable {text : List Char}

theorem plainText_of_style (style : Style.ofText text = .plain) : PlainText text ∧ startsAsIndicator text = false := by
  unfold Style.ofText at style
  split at style
  · split at style <;> cases style
  · split at style
    · rename_i plain
      simp only [Bool.and_eq_true, Bool.not_eq_true'] at plain
      obtain ⟨tagged, fits⟩ := plain
      have nonempty : text ≠ [] := by
        rintro rfl
        cases tagged
      refine ⟨plainText_of_fits nonempty fits, ?_⟩
      simp only [fitsPlain, Bool.and_eq_true, Bool.not_eq_true'] at fits
      exact fits.1.2
    · split at style <;> cases style

theorem PlainText.startsToken {c : Char} (plain : PlainText (c :: text)) : startsToken c = true := by
  obtain ⟨printable, stays⟩ := plain.onLine c List.mem_cons_self
  have dark : isWhiteSpace c = false := by
    rw [isWhiteSpace_eq printable, isSpaceOrBreak, stays, Bool.or_false]
    exact plain.begins
  have noComment : c ≠ '#' := fun same => plain.noComment (congrArg some same)
  have noMark : c ≠ '\ufeff' := ne_of_isPrintable printable rfl
  simp [Yaml.startsToken, dark, noComment, noMark]

theorem fitsSingle_of_style (style : Style.ofText text = .singleQuoted) : FitsSingle text := by
  unfold Style.ofText at style
  split at style
  · split at style <;> cases style
  · rename_i noFeed
    split at style
    · cases style
    · split at style
      · rename_i fits
        exact ⟨fits, by simpa using noFeed⟩
      · cases style

theorem fitsBlock_of_style (style : Style.ofText text = .literal) : fitsBlock text = true := by
  unfold Style.ofText at style
  split at style
  · split at style
    · assumption
    · cases style
  · split at style
    · cases style
    · split at style <;> cases style

end Styles

theorem length_flatMap_le {f : Char → List Char} (short : ∀ c, (f c).length ≤ 4 * c.utf8Size) (text : List Char) :
    (text.flatMap f).length ≤ 4 * Text.byteLength text := by
  induction text with
  | nil => exact Nat.le_refl 0
  | cons c text ih =>
    have here := short c
    rw [List.flatMap_cons, List.length_append, Text.byteLength]
    omega

theorem length_hexDigits (count n : Nat) : (hexDigits count n).length = count := by
  induction count generalizing n with
  | zero => rfl
  | succ count ih => rw [hexDigits, List.length_append, ih, List.length_singleton]

/-- A character has more bytes, the larger its number. -/
theorem utf8Size_bounds (c : Char) : (0xff < c.toNat → 2 ≤ c.utf8Size) ∧ (0xffff < c.toNat → 3 ≤ c.utf8Size) := by
  have positive := c.utf8Size_pos
  have one : c.utf8Size = 1 → c.toNat ≤ 127 := fun one => UInt32.le_iff_toNat_le.mp (Char.utf8Size_eq_one_iff.mp one)
  have two : c.utf8Size = 2 → c.toNat ≤ 2047 := fun two => UInt32.le_iff_toNat_le.mp (Char.utf8Size_eq_two_iff.mp two).2
  omega

theorem length_doubleQuotedChar (c : Char) : (doubleQuotedChar c).length ≤ 4 * c.utf8Size := by
  have positive := c.utf8Size_pos
  obtain ⟨wide, wider⟩ := utf8Size_bounds c
  unfold doubleQuotedChar
  split
  · unfold escapeOf
    split
    · simp
      omega
    · split
      · simp [length_hexDigits]
        omega
      · split
        · simp [length_hexDigits]
          omega
        · simp [length_hexDigits]
          omega
  · simp
    omega

section OneLine

variable {text : List Char} (unbroken : text.any endsALine = false)

include unbroken

theorem style_ne_literal : Style.ofText text ≠ .literal := by
  have noFeed : '\n' ∉ text := fun member => by
    rw [List.any_eq_false] at unbroken
    exact unbroken '\n' member rfl
  unfold Style.ofText
  rw [if_neg (by simpa using noFeed)]
  split
  · exact nofun
  · split <;> exact nofun

theorem singleQuoted_flatMap (indent : Nat) : singleQuotedRest indent false text =
    text.flatMap (fun c => if c = '\'' then ['\'', '\''] else [c]) ++ ['\''] := by
  induction text with
  | nil => rfl
  | cons c text ih =>
    rw [List.any_cons, Bool.or_eq_false_iff] at unbroken
    rw [singleQuoted_cons unbroken.1, ih unbroken.2, List.flatMap_cons, List.append_assoc]

/-- A text without line breaks is written on one line. -/
theorem onLine_scalarBody (indent : Nat) : OnLine (scalarBody indent text) := by
  cases style : Style.ofText text with
  | literal => exact absurd style (style_ne_literal unbroken)
  | plain =>
    rw [scalarBody, style]
    exact (plainText_of_style style).1.onLine
  | singleQuoted =>
    rw [scalarBody, style]
    have printable := List.all_eq_true.mp (fitsSingle_of_style style).printable
    have written : OnLine (text.flatMap fun c => if c = '\'' then ['\'', '\''] else [c]) := by
      intro d member
      obtain ⟨c, here, written⟩ := List.mem_flatMap.mp member
      split at written
      · rcases List.mem_pair.mp written with rfl | rfl <;> decide
      · obtain rfl := List.mem_singleton.mp written
        exact ⟨printable d here, Bool.eq_false_iff.mpr (List.any_eq_false.mp unbroken d here)⟩
    exact onLine_cons.mpr ⟨by decide, singleQuoted_flatMap unbroken indent ▸ onLine_append.mpr ⟨written, by decide⟩⟩
  | doubleQuoted =>
    rw [scalarBody, style]
    exact onLine_cons.mpr ⟨by decide, onLine_append.mpr ⟨onLine_doubleQuoted text, by decide⟩⟩

/-- No character is written in more than four characters for each of its bytes. -/
theorem length_scalarBody (indent : Nat) : (scalarBody indent text).length ≤ 4 * Text.byteLength text + 2 := by
  cases style : Style.ofText text with
  | literal => exact absurd style (style_ne_literal unbroken)
  | plain =>
    have bound := length_flatMap_le (f := fun c => [c]) (fun c => by have := c.utf8Size_pos; simp; omega) text
    rw [scalarBody, style]
    simp at bound ⊢
    omega
  | singleQuoted =>
    have bound := length_flatMap_le (f := fun c => if c = '\'' then ['\'', '\''] else [c])
      (fun c => by have := c.utf8Size_pos; split <;> simp <;> omega) text
    rw [scalarBody, style, List.length_cons, singleQuoted_flatMap unbroken, List.length_append, List.length_singleton]
    omega
  | doubleQuoted =>
    have bound := length_flatMap_le length_doubleQuotedChar text
    rw [scalarBody, style, List.length_append, List.length_cons, List.length_singleton]
    omega

end OneLine

namespace Lexer

variable {l : Lexer}

/-- The key that may have started at a place, if one may start at all. -/
def begun (l : Lexer) (s : Spot) : Option KeyStart :=
  if l.keyAllowed then some ⟨s.line, s.column, s.index, l.tokens.length, l.indents.head? = some s.column⟩ else none

theorem dropKey_eq (free : l.keyStart = none) : l.dropKey = .ok { l with keyStart := none } := by
  rw [dropKey, free]
  rfl

theorem markKey_eq (outside : l.outer = []) (free : l.keyStart = none) (s : Spot) (c : Char) :
    l.markKey (s.glyph c) = .ok { l with keyStart := l.begun s } := by
  unfold markKey begun
  split
  · rw [dropKey_eq free, ok_bind]
    simp [inFlow, outside]
    rfl
  · rw [← free]

/-- Where a scalar ends: a plain one tells by what follows it, one in quotes by its last quote. -/
inductive ScalarEnd (indent : Nat) : Style → List Char → Bool → List Char → List Char → Prop
  | plain {behind broken skipped left} : PlainEnd indent behind broken skipped left →
      ScalarEnd indent .plain behind broken skipped left
  | singleQuoted {behind} : behind.head? ≠ some '\'' → ScalarEnd indent .singleQuoted behind false [] behind
  | doubleQuoted {behind} : ScalarEnd indent .doubleQuoted behind false [] behind

/-- What stands behind a scalar is the end of its line, be it read with the scalar or not. -/
theorem scalarEnd_line {style : Style} (inline : style ≠ .literal) {indent n : Nat} (lower : n < indent)
    {rest : List Char} (dark : rest.head?.any isWhiteSpace = false) : ∃ broken skipped white,
      ScalarEnd indent style ('\n' :: (spaces n ++ rest)) broken skipped (white ++ rest) ∧
      skipped ++ white = '\n' :: spaces n ∧ IsGap white ∧ (broken || white.any isLineBreak) = true := by
  cases style with
  | literal => exact absurd rfl inline
  | plain => exact ⟨true, '\n' :: spaces n, [], .plain (.line lower dark), List.append_nil _, isGap_nil, rfl⟩
  | singleQuoted => exact ⟨false, [], '\n' :: spaces n, .singleQuoted (by simp), rfl, isGap_line n, rfl⟩
  | doubleQuoted => exact ⟨false, [], '\n' :: spaces n, .doubleQuoted, rfl, isGap_line n, rfl⟩

theorem scalarEnd_colon {style : Style} (inline : style ≠ .literal) {indent : Nat} {behind : List Char}
    (white : behind.head?.all isWhiteSpace = true) :
    ScalarEnd indent style (':' :: behind) false [] (':' :: behind) := by
  cases style with
  | literal => exact absurd rfl inline
  | plain => exact .plain (.colon white)
  | singleQuoted => exact .singleQuoted (by simp)
  | doubleQuoted => exact .doubleQuoted

theorem token_quote (l : Lexer) (s : Spot) (double : Bool) (rest : List Glyph) :
    l.token (s.glyph (quoteMark double)) rest = l.quoted (s.glyph (quoteMark double)) double rest := by
  have noMark {mark quote : Char} (other : quote ≠ mark) : startsWithThree mark (s.glyph quote :: rest) = false :=
    not_startsWithThree rest (.inr other)
  cases double <;> simp [token, quoteMark, noMark]

/-- A character at which a plain scalar begins. -/
theorem token_plain (l : Lexer) (outside : l.outer = []) (s : Spot) {c : Char} {text behind : List Char}
    (style : Style.ofText (c :: text) = .plain) (inside : s.column ≠ 0 ∨ c ≠ '-' ∧ c ≠ '.') :
    l.token (s.glyph c) ((s.next c).glyphs (text ++ behind)) = l.plain (s.glyph c) := by
  obtain ⟨plain, starts⟩ := plainText_of_style style
  simp only [startsAsIndicator, Bool.or_eq_false_iff] at starts
  obtain ⟨⟨⟨other, word⟩, -⟩, -⟩ := starts
  have flow : l.inFlow = false := by
    rw [inFlow, outside]
    rfl
  have goesOn (mark : c = '?' ∨ c = ':' ∨ c = '-') : endsWord ((s.next c).glyphs (text ++ behind)) = false ∧
      ((s.next c).glyphs (text ++ behind)).head?.any Glyph.isBlank = false := by
    have joined : text.head?.all isWhiteChar = false := by
      rcases mark with rfl | rfl | rfl <;> exact word
    cases text with
    | nil => cases joined
    | cons d more =>
      have printable := (plain.onLine d (by simp)).1
      have dark : isWhiteSpace d = false := by
        rw [isWhiteSpace_eq printable, ← isWhiteChar_eq printable]
        exact joined
      rw [List.cons_append, Spot.glyphs_cons]
      exact ⟨dark, (Bool.or_eq_false_iff.mp dark).1⟩
  have dark := not_isWhiteSpace_of_startsToken plain.startsToken
  have noDashes := not_startsWithThree ((s.next c).glyphs (text ++ behind)) (g := s.glyph c) (inside.imp_right And.left)
  have noDots := not_startsWithThree ((s.next c).glyphs (text ++ behind)) (g := s.glyph c) (inside.imp_right And.right)
  generalize (s.next c).glyphs (text ++ behind) = rest at goesOn noDashes noDots
  simp only [String.reduceToList, List.contains_eq_mem, List.mem_cons, List.not_mem_nil, or_false, Bool.decide_or,
    Bool.or_eq_false_iff, decide_eq_false_iff_not] at other
  by_cases mark : c = '?' ∨ c = ':' ∨ c = '-'
  · obtain ⟨longer, unblank⟩ := goesOn mark
    rcases mark with rfl | rfl | rfl <;> simp [token, noDashes, noDots, flow, longer, unblank, startsPlain]
  · rw [not_or, not_or] at mark
    simp [token, noDashes, noDots, flow, other, mark, dark, startsPlain]

theorem quoted_eq (outside : l.outer = []) (free : l.keyStart = none) {double : Bool} {glyphs left : List Glyph}
    {text : List Char} (reads : Quotes double glyphs text left) (s : Spot) (c : Char) :
    l.quoted (s.glyph c) double glyphs = .ok { l with
      rest := left
      tokens := .scalar false (String.ofList text) :: l.tokens
      keyAllowed := false
      keyStart := l.begun s } := by
  rw [quoted, content, markKey_eq outside free, reads _ (Nat.lt_succ_self _)]
  rfl

/-- Reads a scalar that is no block, in whichever style. -/
theorem token_scalar {s : Spot} {indent : Nat} {text behind skipped left : List Char} {broken : Bool}
    (outside : l.outer = []) (free : l.keyStart = none) (positive : 0 < indent) (room : l.least ≤ s.column + 1)
    (inside : s.column ≠ 0 ∨ text.head?.any ['-', '.'].contains = false)
    (ending : ScalarEnd l.least (Style.ofText text) behind broken skipped left)
    (front : l.rest = s.glyphs (scalarBody indent text ++ behind)) :
    ∃ c more, scalarBody indent text ++ behind = c :: more ∧ startsToken c = true ∧ left <:+ more ∧
      l.token (s.glyph c) ((s.next c).glyphs more) = .ok { l with
        rest := (s.past (scalarBody indent text ++ skipped)).glyphs left
        tokens := .scalar (Style.ofText text = .plain) (String.ofList text) :: l.tokens
        keyAllowed := broken
        keyStart := l.begun s } := by
  cases style : Style.ofText text with
  | literal => rw [style] at ending; cases ending
  | plain =>
    have body : scalarBody indent text = text := by rw [scalarBody, style]
    rw [style] at ending
    rw [body] at front ⊢
    cases ending with
    | plain ending =>
      obtain ⟨plain, -⟩ := plainText_of_style style
      obtain ⟨c, text, rfl⟩ := List.exists_cons_of_ne_nil plain.nonempty
      have flow : l.inFlow = false := by
        rw [inFlow, outside]
        rfl
      have reads := plainScalar_text s l.rest.length [] plain room (by simp [front]) inside ending
      refine ⟨c, text ++ behind, rfl, plain.startsToken, ⟨text ++ skipped, by simp [ending.eq_append]⟩, ?_⟩
      rw [token_plain l outside s style (inside.imp_right fun other => by simpa using other), Lexer.plain,
        markKey_eq outside free]
      rw [← front, ← flow] at reads
      rw [ok_bind]
      exact congrArg (· >>= _) reads
  | singleQuoted =>
    have body : scalarBody indent text = '\'' :: singleQuotedRest indent false text := by rw [scalarBody, style]
    rw [style] at ending
    rw [body]
    cases ending with
    | singleQuoted apart =>
      have reads := quotes_single positive (s.next '\'') (Nat.succ_pos _) (fitsSingle_of_style style) apart
      refine ⟨'\'', singleQuotedRest indent false text ++ behind, rfl, rfl, List.suffix_append .., ?_⟩
      refine (token_quote l s false _).trans ?_
      rw [List.append_nil, Spot.past_cons]
      exact quoted_eq outside free reads s _
  | doubleQuoted =>
    have body : scalarBody indent text = '\"' :: (text.flatMap doubleQuotedChar ++ ['\"']) := by rw [scalarBody, style]; rfl
    rw [style] at ending
    rw [body]
    cases ending
    have reads := quotes_double (s.next '\"') (Nat.succ_pos _) text behind
    refine ⟨'\"', text.flatMap doubleQuotedChar ++ '\"' :: behind, by simp, rfl, ?_, ?_⟩
    · exact ⟨text.flatMap doubleQuotedChar ++ ['\"'], by simp⟩
    refine (token_quote l s true _).trans ?_
    rw [List.append_nil, Spot.past_cons]
    exact quoted_eq outside free reads s _

/-- Reads a block. -/
theorem token_block (s : Spot) {text rest : List Char} (outside : l.outer = []) (free : l.keyStart = none)
    (positive : 0 < l.least) (fits : fitsBlock text = true) {n : Nat} (lower : n ≤ l.least)
    (dark : rest.head?.any isWhiteSpace = false) :
    l.token (s.glyph '|') ((s.next '|').glyphs (blockHints text ++ '\n' :: (blockText (l.least + 1) true text ++
        (lineEnd text ++ (spaces n ++ rest))))) = .ok { l with
      rest := ((s.next '|').past (blockHints text ++ '\n' :: (blockText (l.least + 1) true text ++
        (lineEnd text ++ spaces n)))).glyphs rest
      tokens := .scalar false (String.ofList text) :: l.tokens
      keyAllowed := true
      keyStart := none } := by
  have flow : l.inFlow = false := by
    rw [inFlow, outside]
    rfl
  have reads := blockScalar_text (s.next '|') positive fits lower dark
  generalize (s.next '|').glyphs (blockHints text ++ '\n' :: (blockText (l.least + 1) true text ++
    (lineEnd text ++ (spaces n ++ rest)))) = glyphs at reads ⊢
  have noMark {mark : Char} (other : '|' ≠ mark) : startsWithThree mark (s.glyph '|' :: glyphs) = false :=
    not_startsWithThree glyphs (.inr other)
  have token : l.token (s.glyph '|') glyphs = l.block false glyphs := by simp [token, noMark, flow]
  rw [token, block, dropKey_eq free, ok_bind]
  exact congrArg (· >>= _) reads

end Lexer

end Highlighter.Yaml
