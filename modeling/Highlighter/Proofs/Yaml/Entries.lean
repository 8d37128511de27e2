import Highlighter.Proofs.Boundary
import Highlighter.Proofs.Yaml.Scalars

namespace Highlighter.Yaml

/-- The token of a text. -/
def scalarToken (text : String) : Token := .scalar (Style.ofText text.toList = .plain) text

theorem scalarToken_eq (text : String) :
    scalarToken text = .scalar (Style.ofText text.toList = .plain) (String.ofList text.toList) := by
  rw [scalarToken, String.ofList_toList]

def entryTokens (entry : String × String) : List Token := [.key, scalarToken entry.1, .value, scalarToken entry.2]

def itemTokens (item : String) : List Token := [.blockEntry, scalarToken item]

theorem countP_le_of_suffix {left more : List Char} (suffix : left <:+ more) (p : Char → Bool) :
    left.countP p ≤ more.countP p := suffix.sublist.countP_le

theorem not_isWhiteSpace_of_begins {rest : List Char} (begins : rest.head?.all startsToken = true) :
    rest.head?.any isWhiteSpace = false := by
  cases rest with
  | nil => rfl
  | cons c rest => exact not_isWhiteSpace_of_startsToken begins

/-- An entry of a mapping at a column, from where its first line is indented. -/
def entryText (column : Nat) (entry : String × String) : List Char :=
  if isSimpleKey entry.1 then
    scalarBody (column + 2) entry.1.toList ++ ':' :: ' ' :: writeScalar (column + 2) entry.2
  else
    '?' :: ' ' :: (writeScalar (column + 2) entry.1 ++
      (spaces column ++ ':' :: ' ' :: writeScalar (column + 2) entry.2))

theorem writeEntry_eq (column : Nat) (entry : String × String) :
    writeEntry column entry.1 entry.2 = spaces column ++ entryText column entry := by
  unfold writeEntry entryText
  by_cases simple : isSimpleKey entry.1 = true
  · have unbroken := simple
    simp only [isSimpleKey, Bool.and_eq_true, Bool.not_eq_true'] at unbroken
    have style := style_ne_literal unbroken.2
    simp [simple, writeScalar_eq, style]
  · simp [simple]

theorem begins_scalarBody (indent : Nat) (text : List Char) {rest : List Char} (begins : rest.head?.all startsToken = true) :
    (scalarBody indent text ++ rest).head?.all startsToken = true := by
  cases style : Style.ofText text with
  | plain =>
    rw [scalarBody, style]
    rcases text with _ | ⟨c, text⟩
    · exact begins
    · exact (plainText_of_style style).1.startsToken
  | _ => rw [scalarBody, style]; rfl

theorem begins_entryText (column : Nat) (entry : String × String) (rest : List Char) :
    (entryText column entry ++ rest).head?.all startsToken = true := by
  unfold entryText
  split
  · rw [List.append_assoc]
    exact begins_scalarBody _ _ rfl
  · rfl

theorem blockText_concat {break_ : Char} (broken : endsALine break_ = true) (indent : Nat) (afterBreak : Bool)
    (text : List Char) : blockText indent afterBreak (text ++ [break_]) = blockText indent afterBreak text ++ [break_] := by
  induction text generalizing afterBreak with
  | nil => simp [blockText, broken]
  | cons c text ih => simp only [List.cons_append, blockText, ih, apply_ite (· ++ [break_]), List.append_assoc]

/-- The last line of a scalar is ended. -/
theorem writeScalar_ends (indent : Nat) (text : String) :
    ∃ front break_, writeScalar indent text = front ++ [break_] ∧ isLineBreak break_ = true := by
  rw [writeScalar_eq]
  split
  · rename_i style
    rw [lineEnd]
    split
    · rename_i ended
      rcases text.toList.eq_nil_or_concat' with none | ⟨front, last, concat⟩
      · rw [none] at ended
        cases ended
      have printable : isPrintable last = true := by
        have fits := fitsBlock_of_style style
        simp only [fitsBlock, concat, Bool.and_eq_true, List.all_eq_true] at fits
        exact fits.1.1.2 last (by simp)
      have broken : endsALine last = true := by simpa [concat] using ended
      refine ⟨'|' :: blockHints text.toList ++ '\n' :: blockText indent true front, last, ?_, ?_⟩
      · rw [scalarBody, style]
        simp [concat, blockText_concat broken]
      · rwa [← endsALine_eq printable]
    · exact ⟨_, '\n', rfl, rfl⟩
  · exact ⟨_, '\n', rfl, rfl⟩

theorem Spot.column_past_scalar (s : Spot) (indent : Nat) (text : String) (n : Nat) :
    (s.past (' ' :: (writeScalar indent text ++ spaces n))).column = n := by
  obtain ⟨front, break_, written, broken⟩ := writeScalar_ends indent text
  rw [written, List.append_assoc, past_cons, past_append]
  exact column_past_indent _ (List.cons_ne_nil break_ []) (List.forall_mem_singleton.mpr broken) n

namespace Lexer

variable {s : Spot} {column : Nat} {indents : List Nat} {allowed : Bool} {earlier tokens : List Token} {text : String}
  {n : Nat} {rest : List Char}

/-- To the right of the innermost block a key may start, but none has to. -/
theorem begun_right {t : Spot} {front : List Char} (right : column < t.column) {start : KeyStart}
    (begun : start ∈ (before s front (column :: indents) allowed earlier).begun t) :
    start.required = false ∧ start.line = t.line := by
  cases allowed with
  | false => cases begun
  | true =>
    cases begun
    have other : (column :: indents).head? ≠ some t.column := fun same => Nat.ne_of_lt right (Option.some.inj same)
    exact ⟨decide_eq_false other, rfl⟩

section Value

variable (room : column < s.column) (lower : n ≤ column) (begins : rest.head?.all startsToken = true)

include room lower begins

theorem ends_block (style : Style.ofText text.toList = .literal)
    (ends : (before (s.past (' ' :: (writeScalar (column + 2) text ++ spaces n))) rest (column :: indents) true
      (scalarToken text :: earlier)).Ends tokens) :
    (before s (' ' :: (writeScalar (column + 2) text ++ (spaces n ++ rest))) (column :: indents) allowed earlier).Ends
      tokens := by
  have written (more : List Char) : writeScalar (column + 2) text ++ more = '|' :: (blockHints text.toList ++
      '\n' :: (blockText (column + 1 + 1) true text.toList ++ (lineEnd text.toList ++ more))) := by
    rw [writeScalar_eq, style, if_pos rfl, scalarBody, style]
    simp
  have stays : ∀ indent ∈ (column :: indents).head?, indent ≤ s.column + 1 := by
    rintro _ ⟨⟩
    omega
  have dark := not_isWhiteSpace_of_begins begins
  rw [written] at ends ⊢
  have read := token_block (l := before (s.next ' ') ('|' :: (blockHints text.toList ++ '\n' ::
    (blockText (column + 1 + 1) true text.toList ++ (lineEnd text.toList ++ (spaces n ++ rest))))) (column :: indents)
    allowed earlier) (s.next ' ') rfl rfl (Nat.succ_pos column) (fitsBlock_of_style style) (Nat.le_succ_of_le lower) dark
  refine Ends.behindSpace rfl stays read ?_ ?_
  · have suffix : rest <:+ blockHints text.toList ++ '\n' :: (blockText (column + 1 + 1) true text.toList ++
        (lineEnd text.toList ++ (spaces n ++ rest))) :=
      ⟨blockHints text.toList ++ '\n' :: (blockText (column + 1 + 1) true text.toList ++
        (lineEnd text.toList ++ spaces n)), by simp⟩
    exact (marks_glyphs ..).trans_le (countP_le_of_suffix suffix _)
  · rw [scalarToken_eq, style] at ends
    exact @Ends.resume tokens _ _ [] rest rfl rfl isGap_nil begins rfl (by rintro _ ⟨⟩) ends

theorem ends_inline (style : Style.ofText text.toList ≠ .literal)
    (ends : (before (s.past (' ' :: (writeScalar (column + 2) text ++ spaces n))) rest (column :: indents) true
      (scalarToken text :: earlier)).Ends tokens) :
    (before s (' ' :: (writeScalar (column + 2) text ++ (spaces n ++ rest))) (column :: indents) allowed earlier).Ends
      tokens := by
  have written (more : List Char) : writeScalar (column + 2) text ++ more =
      scalarBody (column + 2) text.toList ++ '\n' :: more := by
    rw [writeScalar_eq, if_neg style, List.append_assoc, List.singleton_append]
  have stays : ∀ indent ∈ (column :: indents).head?, indent ≤ s.column + 1 := by
    rintro _ ⟨⟩
    omega
  have dark := not_isWhiteSpace_of_begins begins
  rw [written] at ends ⊢
  obtain ⟨broken, skipped, white, ending, line, gap, resumes⟩ := scalarEnd_line style (Nat.lt_succ_of_le lower) dark
  have wide : column + 1 ≤ (s.next ' ').column + 1 := by
    show column + 1 ≤ s.column + 1 + 1
    omega
  obtain ⟨c, more, body, starts, suffix, read⟩ := token_scalar (l := before (s.next ' ')
    (scalarBody (column + 2) text.toList ++ '\n' :: (spaces n ++ rest)) (column :: indents) allowed earlier)
    rfl rfl (Nat.succ_pos (column + 1)) wide (.inl (Nat.succ_ne_zero s.column)) ending rfl
  rw [body] at read ⊢
  refine Ends.behindSpace starts stays read ?_ ?_
  · exact (marks_glyphs ..).trans_le (countP_le_of_suffix suffix _)
  · have spot : ((s.next ' ').past (scalarBody (column + 2) text.toList ++ skipped)).past white =
        s.past (' ' :: (scalarBody (column + 2) text.toList ++ '\n' :: spaces n)) := by
      rw [← Spot.past_append, List.append_assoc, line]
      rfl
    refine @Ends.resume tokens _ _ white rest rfl rfl gap begins resumes ?_ ?_
    · intro start begun
      obtain ⟨free, line⟩ := begun_right (Nat.lt_succ_of_lt room) begun
      have broken : s.line < (s.past (' ' :: (scalarBody (column + 2) text.toList ++ '\n' :: spaces n))).line :=
        s.line_lt_past (by simp [isLineBreak])
      exact ⟨free, spot ▸ line ▸ broken⟩
    · rw [scalarToken_eq] at ends
      rw [spot]
      exact ends

/-- A text behind an indicator and a space, up to where the next line starts. -/
theorem ends_scalar (ends : ∀ t : Spot, t.column = n →
      (before t rest (column :: indents) true (scalarToken text :: earlier)).Ends tokens) :
    (before s (' ' :: (writeScalar (column + 2) text ++ (spaces n ++ rest))) (column :: indents) allowed earlier).Ends
      tokens := by
  have later := ends _ (s.column_past_scalar (column + 2) text n)
  by_cases style : Style.ofText text.toList = .literal
  · exact ends_block room lower begins style later
  · exact ends_inline room lower begins style later

end Value

/-- Whether a block is opened at a column. -/
def opens (indents : List Nat) (column : Nat) : Bool := indents.head?.elim 0 (· + 1) ≤ column

/-- The open blocks behind what stands in a block at a column. -/
def opened (indents : List Nat) (column : Nat) : List Nat := if opens indents column then column :: indents else indents

/-- What stands in front of the first key or item of a block. -/
def opening (block : Token) (indents : List Nat) (column : Nat) : List Token := if opens indents column then [block] else []

theorem addAfter_eq {l : Lexer} {last tokens : List Token} (list : l.tokens = last ++ tokens) (token : Token) :
    l.addAfter tokens.length token = { l with tokens := last ++ token :: tokens } := by
  have inserted : (last ++ tokens).insertIdx last.length token = last ++ token :: tokens := by
    generalize last = front
    induction front with
    | nil => rfl
    | cons first front ih => exact congrArg (first :: ·) ih
  rw [addAfter, list, List.length_append, Nat.add_sub_cancel, inserted]

theorem openBlock_eq {l : Lexer} (outside : l.outer = []) {last tokens : List Token} (list : l.tokens = last ++ tokens)
    (column : Nat) (block : Token) : l.openBlock column tokens.length block =
      { l with tokens := last ++ (opening block l.indents column ++ tokens), indents := opened l.indents column } := by
  have flow : l.inFlow = false := by
    rw [inFlow, outside]
    rfl
  have same : opens l.indents column = decide (l.least ≤ column) := rfl
  rw [openBlock, flow, addAfter_eq list, opening, opened, same]
  by_cases deep : l.least ≤ column
  · simp [deep]
  · simp [deep, ← list]

/-- The colon behind a key puts the key in front of it, and the mapping in front of that. -/
theorem value_key {l : Lexer} (outside : l.outer = []) {start : KeyStart} (begun : l.keyStart = some start)
    {scalar : Token} {tokens : List Token} (list : l.tokens = scalar :: tokens) (count : start.tokens = tokens.length)
    (g : Glyph) (rest : List Glyph) : l.value g rest = .ok { l with
      rest
      tokens := .value :: scalar :: .key :: (opening .blockMapping l.indents start.column ++ tokens)
      indents := opened l.indents start.column
      keyAllowed := false
      keyStart := none } := by
  have opened := openBlock_eq (l := { l with tokens := [scalar, .key] ++ tokens }) outside rfl start.column .blockMapping
  rw [value, begun]
  simp only [count, @addAfter_eq l [scalar] tokens list]
  exact congrArg (fun m : Lexer => Except.ok { m.add .value with keyStart := none, keyAllowed := false, rest }) opened

theorem least_le (stays : ∀ indent ∈ indents.head?, indent ≤ column) {l : Lexer} (same : l.indents = indents) :
    l.least ≤ column + 1 := by
  rw [least, same]
  cases indents with
  | nil => exact Nat.zero_le _
  | cons indent indents => exact Nat.succ_le_succ (stays indent rfl)

theorem token_colon (l : Lexer) (s : Spot) {rest : List Glyph} (alone : endsWord rest = true) :
    l.token (s.glyph ':') rest = l.value (s.glyph ':') rest := by
  have noMark {mark : Char} (other : ':' ≠ mark) : startsWithThree mark (s.glyph ':' :: rest) = false :=
    not_startsWithThree rest (.inr other)
  simp [token, noMark, alone]

/-- A colon on the line of a key that is not too long. -/
theorem ends_colon {l : Lexer} (outside : l.outer = []) {start : KeyStart} (begun : l.keyStart = some start)
    {scalar : Token} (list : l.tokens = scalar :: earlier) (count : start.tokens = earlier.length) {behind : List Char}
    (front : l.rest = s.glyphs (':' :: behind)) (line : s.line ≤ start.line) (near : s.index ≤ start.index + 1024)
    (stays : ∀ indent ∈ l.indents.head?, indent ≤ s.column) (white : behind.head?.all isWhiteSpace = true)
    (ends : (before (s.next ':') behind (opened l.indents start.column) false
      (.value :: scalar :: .key :: (opening .blockMapping l.indents start.column ++ earlier))).Ends tokens) : l.Ends tokens := by
  have alone : endsWord ((s.next ':').glyphs behind) = true := by rw [Spot.endsWord_glyphs, white]
  have fresh : forgetStale (s.glyph ':') l.keyStart = .ok (some start) := by
    have sameLine : ¬start.line < s.line := Nat.not_lt.mpr line
    have notFar : ¬start.index + 1024 < s.index := Nat.not_lt.mpr near
    simp [begun, forgetStale, sameLine, notFar]
  have read := value_key (l := { l with
    rest := s.glyphs (':' :: behind)
    keyAllowed := l.keyAllowed || [].any isLineBreak
    keyStart := some start }) outside rfl list count (s.glyph ':') ((s.next ':').glyphs behind)
  refine @Ends.token tokens l _ s [] behind ':' _ outside front isGap_nil rfl fresh stays
    ((token_colon _ s alone).trans read) ?_ ?_
  · exact (marks_glyphs ..).le
  · simpa only [before, outside] using ends

/-- A key on one line and the colon behind it. -/
theorem ends_key {key : String} (simple : isSimpleKey key = true) {indent : Nat} (positive : 0 < indent)
    (stays : ∀ indent ∈ indents.head?, indent ≤ s.column)
    (inside : s.column ≠ 0 ∨ key.toList.head?.any ['-', '.'].contains = false) {behind : List Char}
    (white : behind.head?.all isWhiteSpace = true)
    (ends : ∀ t : Spot, s.column < t.column → (before t behind (opened indents s.column) false
      (.value :: scalarToken key :: .key :: (opening .blockMapping indents s.column ++ earlier))).Ends tokens) :
    (before s (scalarBody indent key.toList ++ ':' :: behind) indents true earlier).Ends tokens := by
  simp only [isSimpleKey, Bool.and_eq_true, Bool.not_eq_true', decide_eq_true_eq] at simple
  obtain ⟨short, unbroken⟩ := simple
  have onLine := onLine_scalarBody unbroken indent
  have length := length_scalarBody unbroken indent
  rw [Text.byteLength_toList] at length
  obtain ⟨c, more, body, starts, suffix, read⟩ := token_scalar
    (l := before s (scalarBody indent key.toList ++ ':' :: behind) indents true earlier) rfl rfl positive
    (least_le stays rfl) inside (scalarEnd_colon (style_ne_literal unbroken) white) rfl
  rw [body] at read ⊢
  refine Ends.here starts stays read ?_ ?_
  · exact (marks_glyphs ..).trans_le (countP_le_of_suffix suffix _)
  rw [List.append_nil, ← scalarToken_eq]
  have spot := s.past_of_oneLine onLine.any_isLineBreak
  refine ends_colon rfl rfl rfl rfl rfl ?_ ?_ ?_ white ?_
  · exact (congrArg Spot.line spot).le
  · rw [spot]
    show s.index + _ ≤ s.index + 1024
    omega
  · rw [spot]
    exact fun indent first => Nat.le_add_right_of_le (stays indent first)
  · refine ends _ ?_
    rw [spot]
    exact Nat.lt_succ_of_le (Nat.le_add_right ..)

theorem opened_eq (stays : ∀ indent ∈ indents.head?, indent ≤ column) : ∃ above, opened indents column = column :: above := by
  unfold opened
  split
  · exact ⟨indents, rfl⟩
  · rename_i closed
    rcases indents with _ | ⟨indent, above⟩
    · exact absurd (decide_eq_true (Nat.zero_le column)) closed
    · have left : ¬indent + 1 ≤ column := fun le => closed (decide_eq_true le)
      have right : indent ≤ column := stays indent rfl
      exact ⟨above, congrArg (· :: above) (by omega)⟩

theorem indicator_eq {l : Lexer} (outside : l.outer = []) (allowed : l.keyAllowed = true) (free : l.keyStart = none)
    (g : Glyph) (block mark : Token) (problem : Problem) (rest : List Glyph) :
    l.indicator g block mark problem rest = .ok { l with
      rest
      tokens := mark :: (opening block l.indents g.column ++ l.tokens)
      indents := opened l.indents g.column
      keyStart := none } := by
  have marked := @openBlock_eq l outside [] l.tokens rfl g.column block
  have dropped := dropKey_eq (l := { l with
    tokens := [] ++ (opening block l.indents g.column ++ l.tokens)
    indents := opened l.indents g.column }) free
  rw [indicator, if_neg (by simp [allowed]), marked, dropped]
  rfl

/-- The marks of items, keys and values, and the blocks in which they stand. -/
inductive IsMark : Char → (block mark : Token) → Prop
  | item : IsMark '-' .blockSequence .blockEntry
  | key : IsMark '?' .blockMapping .key
  | value : IsMark ':' .blockMapping .value

/-- A mark that stands alone goes on with a block, or opens one. -/
theorem token_mark {c : Char} {block mark : Token} (kind : IsMark c block mark) {behind : List Char}
    (white : behind.head?.all isWhiteSpace = true) :
    (before s (c :: behind) indents true earlier).token (s.glyph c) ((s.next c).glyphs behind) =
      .ok (before (s.next c) behind (opened indents s.column) true
        (mark :: (opening block indents s.column ++ earlier))) := by
  have alone : endsWord ((s.next c).glyphs behind) = true := by rw [Spot.endsWord_glyphs, white]
  have read (problem : Problem) := @indicator_eq (before s (c :: behind) indents true earlier) rfl rfl rfl (s.glyph c)
    block mark problem ((s.next c).glyphs behind)
  have none : (before s (c :: behind) indents true earlier).keyStart = none := rfl
  have noDashes : startsWithThree '-' (s.glyph c :: (s.next c).glyphs behind) = false :=
    not_startsWithThree_of_alone rfl _ alone
  have noDots : startsWithThree '.' (s.glyph c :: (s.next c).glyphs behind) = false :=
    not_startsWithThree_of_alone rfl _ alone
  cases kind <;> simp [token, noDashes, noDots, white, read, value, none, Except.map] <;> rfl

theorem ends_mark {c : Char} {block mark : Token} (kind : IsMark c block mark)
    (stays : ∀ indent ∈ indents.head?, indent ≤ s.column) {behind : List Char}
    (white : behind.head?.all isWhiteSpace = true)
    (ends : (before (s.next c) behind (opened indents s.column) true
      (mark :: (opening block indents s.column ++ earlier))).Ends tokens) :
    (before s (c :: behind) indents true earlier).Ends tokens := by
  have starts : startsToken c = true := by cases kind <;> rfl
  exact Ends.here starts stays (token_mark kind white) (marks_glyphs ..).le ends

section Entry

variable (inside : s.column ≠ 0) (stays : ∀ indent ∈ indents.head?, indent ≤ s.column) (lower : n ≤ s.column)
  (begins : rest.head?.all startsToken = true)

include inside stays lower begins

/-- An entry whose key stands in front of its colon. -/
theorem ends_simple {entry : String × String} (simple : isSimpleKey entry.1 = true)
    (ends : ∀ t : Spot, t.column = n → (before t rest (opened indents s.column) true
      ((entryTokens entry).reverse ++ (opening .blockMapping indents s.column ++ earlier))).Ends tokens) :
    (before s (entryText s.column entry ++ (spaces n ++ rest)) indents true earlier).Ends tokens := by
  obtain ⟨above, blocks⟩ := opened_eq stays
  rw [entryText, if_pos simple]
  simp only [List.append_assoc, List.cons_append]
  refine ends_key simple (Nat.succ_pos _) stays (.inl inside) rfl fun t right => ?_
  rw [blocks] at ends ⊢
  exact ends_scalar right lower begins ends

omit inside in
/-- An entry whose key stands on lines of its own. -/
theorem ends_complex {entry : String × String} (complex : isSimpleKey entry.1 = false)
    (ends : ∀ t : Spot, t.column = n → (before t rest (opened indents s.column) true
      ((entryTokens entry).reverse ++ (opening .blockMapping indents s.column ++ earlier))).Ends tokens) :
    (before s (entryText s.column entry ++ (spaces n ++ rest)) indents true earlier).Ends tokens := by
  obtain ⟨above, blocks⟩ := opened_eq stays
  rw [entryText, if_neg (Bool.eq_false_iff.mp complex)]
  simp only [List.append_assoc, List.cons_append]
  refine ends_mark .key stays rfl ?_
  rw [blocks] at ends ⊢
  refine ends_scalar (Nat.lt_succ_self s.column) (Nat.le_refl s.column) rfl fun t place => ?_
  rw [← place] at lower ends ⊢
  refine ends_mark .value (by rintro _ ⟨⟩; rfl) rfl ?_
  have goesOn : opens (t.column :: above) t.column = false := decide_eq_false (Nat.not_succ_le_self _)
  rw [opened, opening, goesOn]
  exact ends_scalar (Nat.lt_succ_self t.column) lower begins ends

theorem ends_entry {entry : String × String} (ends : ∀ t : Spot, t.column = n → (before t rest
      (opened indents s.column) true
      ((entryTokens entry).reverse ++ (opening .blockMapping indents s.column ++ earlier))).Ends tokens) :
    (before s (entryText s.column entry ++ (spaces n ++ rest)) indents true earlier).Ends tokens := by
  rcases simple : isSimpleKey entry.1 with _ | _
  · exact ends_complex stays lower begins simple ends
  · exact ends_simple inside stays lower begins simple ends

end Entry

theorem stays_opened (stays : ∀ indent ∈ indents.head?, indent ≤ column) :
    (∀ indent ∈ (opened indents column).head?, indent ≤ column) ∧ opened (opened indents column) column =
      opened indents column ∧ ∀ block, opening block (opened indents column) column = [] := by
  obtain ⟨above, blocks⟩ := opened_eq stays
  have goesOn : opens (column :: above) column = false := decide_eq_false (Nat.not_succ_le_self _)
  rw [blocks]
  refine ⟨?_, by rw [opened, goesOn]; rfl, fun block => by rw [opening, goesOn]; rfl⟩
  rintro _ ⟨⟩
  exact Nat.le_refl column

/-- The entries of a mapping, from the first on. -/
theorem ends_entries (inside : column ≠ 0) (begins : rest.head?.all startsToken = true)
    (entries : List (String × String)) : ∀ {s : Spot} {indents : List Nat} {earlier : List Token}
    (entry : String × String), s.column = column → (∀ indent ∈ indents.head?, indent ≤ column) →
    (∀ t : Spot, t.column = 0 → (before t rest (opened indents column) true
      (((entry :: entries).flatMap entryTokens).reverse ++ (opening .blockMapping indents column ++ earlier))).Ends
        tokens) →
    (before s (entryText column entry ++ (entries.flatMap (fun entry => writeEntry column entry.1 entry.2) ++ rest))
      indents true earlier).Ends tokens := by
  induction entries with
  | nil =>
    rintro s indents earlier entry rfl stays ends
    refine ends_entry (n := 0) inside stays (Nat.zero_le _) begins fun t place => ?_
    simpa using ends t place
  | cons next entries ih =>
    rintro s indents earlier entry rfl stays ends
    obtain ⟨staysOpen, same, none⟩ := stays_opened stays
    rw [List.flatMap_cons, writeEntry_eq, List.append_assoc, List.append_assoc]
    refine ends_entry inside stays (Nat.le_refl _) (begins_entryText ..) fun t place => ?_
    refine ih next place staysOpen fun t place => ?_
    rw [same, none]
    simpa using ends t place

/-- The items of a list that stands no deeper than its block. -/
theorem ends_items (begins : rest.head?.all startsToken = true) (above : List Nat) (items : List String) :
    ∀ {s : Spot} {earlier : List Token}, s.column = 0 →
    (∀ t : Spot, t.column = 0 → (before t rest (0 :: above) true
      ((items.flatMap itemTokens).reverse ++ earlier)).Ends tokens) →
    (before s (items.flatMap (fun item => '-' :: ' ' :: writeScalar 2 item) ++ rest) (0 :: above) true earlier).Ends
      tokens := by
  induction items with
  | nil => exact fun place ends => ends _ place
  | cons item items ih =>
    intro s earlier place ends
    have beginsNext : (items.flatMap (fun item => '-' :: ' ' :: writeScalar 2 item) ++ rest).head?.all startsToken =
        true := by
      cases items with
      | nil => exact begins
      | cons _ _ => rfl
    have stays : ∀ indent ∈ (0 :: above).head?, indent ≤ s.column := by
      rintro _ ⟨⟩
      exact Nat.zero_le _
    simp only [List.flatMap_cons, List.cons_append, List.append_assoc]
    refine ends_mark .item stays rfl ?_
    rw [place]
    refine ends_scalar (n := 0) (Nat.succ_pos _) (Nat.le_refl 0) beginsNext fun t place => ih place fun t place => ?_
    simpa [itemTokens, opening, opens] using ends t place

end Lexer

end Highlighter.Yaml
