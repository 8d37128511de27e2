import Highlighter.Proofs.Yaml.Entries

namespace Highlighter.Yaml

/-- A name that is written as it is, in front of its colon. -/
structure IsFieldName (name : String) : Prop where
  plain : Style.ofText name.toList = .plain
  simple : isSimpleKey name = true
  noMark : name.toList.head?.any ['-', '.'].contains = false

/-- The tokens of a mapping between texts, as the value of a field. -/
def entriesTokens (entries : List (String × String)) : List Token :=
  if entries.isEmpty then [.flowMapping, .flowMappingEnd]
  else .blockMapping :: (entries.flatMap entryTokens ++ [.blockEnd])

/-- The tokens of a list of texts, as the value of a field. -/
def itemsTokens (items : List String) : List Token :=
  if items.isEmpty then [.flowSequence, .flowSequenceEnd] else items.flatMap itemTokens

def fieldTokens (name : String) (value : List Token) : List Token := .key :: scalarToken name :: .value :: value

namespace Lexer

variable {s : Spot} {indents : List Nat} {earlier tokens : List Token} {rest : List Char}

/-- On to the next line, where a key may start again. -/
theorem ends_newLine {n : Nat} (begins : rest.head?.all startsToken = true)
    (ends : ∀ t : Spot, t.column = n → (before t rest indents true earlier).Ends tokens) :
    (before s ('\n' :: (spaces n ++ rest)) indents false earlier).Ends tokens :=
  @Ends.resume tokens (before s ('\n' :: (spaces n ++ rest)) indents false earlier) s ('\n' :: spaces n) rest rfl rfl
    (isGap_line n) begins rfl nofun (ends _ (s.column_past_line n))

/-- Brackets, and the tokens that they are. -/
inductive IsBrackets : (open_ close : Char) → (first last : Token) → Prop
  | sequence : IsBrackets '[' ']' .flowSequence .flowSequenceEnd
  | mapping : IsBrackets '\x7b' '\x7d' .flowMapping .flowMappingEnd

/-- Between brackets that have just been opened. -/
def inside (s : Spot) (text : List Char) (indents : List Nat) (tokens : List Token) : Lexer :=
  { before s text indents true tokens with outer := [none] }

section Brackets

variable {open_ close : Char} {first last : Token} (brackets : IsBrackets open_ close first last)

include brackets

theorem token_open : (before s (open_ :: rest) indents false earlier).token (s.glyph open_)
    ((s.next open_).glyphs rest) = .ok (inside (s.next open_) rest indents (first :: earlier)) := by
  have noDash : open_ ≠ '-' := by cases brackets <;> decide
  have noDot : open_ ≠ '.' := by cases brackets <;> decide
  have noDashes := not_startsWithThree (g := s.glyph open_) ((s.next open_).glyphs rest) (.inr noDash)
  have noDots := not_startsWithThree (g := s.glyph open_) ((s.next open_).glyphs rest) (.inr noDot)
  cases brackets <;> simp [token, noDashes, noDots, openFlow, markKey] <;> rfl

theorem token_close : (inside s (close :: rest) indents earlier).token (s.glyph close)
    ((s.next close).glyphs rest) = .ok (before (s.next close) rest indents false (last :: earlier)) := by
  have noDash : close ≠ '-' := by cases brackets <;> decide
  have noDot : close ≠ '.' := by cases brackets <;> decide
  have noDashes := not_startsWithThree (g := s.glyph close) ((s.next close).glyphs rest) (.inr noDash)
  have noDots := not_startsWithThree (g := s.glyph close) ((s.next close).glyphs rest) (.inr noDot)
  have free : (inside s (close :: rest) indents earlier).keyStart = none := rfl
  cases brackets <;> simp [token, noDashes, noDots, closeFlow, dropKey_eq free] <;> rfl

/-- Empty brackets at the end of a line. -/
theorem ends_brackets (stays : ∀ indent ∈ indents.head?, indent ≤ s.column + 1)
    (begins : rest.head?.all startsToken = true)
    (ends : ∀ t : Spot, t.column = 0 → (before t rest indents true (last :: first :: earlier)).Ends tokens) :
    (before s (' ' :: open_ :: close :: '\n' :: rest) indents false earlier).Ends tokens := by
  have startsOpen : startsToken open_ = true := by cases brackets <;> rfl
  refine Ends.behindSpace startsOpen stays (token_open brackets) (marks_glyphs ..).le ?_
  generalize (s.next ' ').next open_ = t
  have skipped : skipWhite true true false (t.glyphs (close :: '\n' :: rest)) =
      (true, t.glyph close :: (t.next close).glyphs ('\n' :: rest)) := by
    rw [Spot.glyphs_cons]
    cases brackets <;> simp [skipWhite, isLineBreak]
  have less : marks ((t.next close).glyphs ('\n' :: rest)) < marks (t.glyphs (close :: '\n' :: rest)) := by
    rw [marks_glyphs, marks_glyphs]
    cases brackets <;> simp [isWhiteSpace, isLineBreak]
  have read := @token_close t indents (first :: earlier) ('\n' :: rest) open_ close first last brackets
  rw [inside, before, Spot.glyphs_cons] at read
  exact Ends.step (l := inside t (close :: '\n' :: rest) indents (first :: earlier)) skipped rfl rfl read less
    (@ends_newLine _ _ _ _ _ 0 begins ends)

end Brackets

section Field

variable {name : String} (fieldName : IsFieldName name) (start : s.column = 0)
  (stays : ∀ indent ∈ indents.head?, indent ≤ 0)

include fieldName start stays

theorem ends_name {behind : List Char} (white : behind.head?.all isWhiteSpace = true)
    (ends : ∀ t : Spot, (before t behind (opened indents 0) false
      (.value :: scalarToken name :: .key :: (opening .blockMapping indents 0 ++ earlier))).Ends tokens) :
    (before s (name.toList ++ ':' :: behind) indents true earlier).Ends tokens := by
  have body : scalarBody 1 name.toList = name.toList := by rw [scalarBody, fieldName.plain]
  rw [← start] at stays ends
  have read := ends_key fieldName.simple Nat.one_pos stays (.inr fieldName.noMark) white fun t _ => ends t
  rwa [body] at read

theorem ends_mapping (entries : List (String × String)) {c : Char} (starts : startsToken c = true)
    (ends : ∀ t : Spot, t.column = 0 → (before t (c :: rest) (opened indents 0) true
      ((fieldTokens name (entriesTokens entries)).reverse ++ (opening .blockMapping indents 0 ++ earlier))).Ends tokens) :
    (before s (writeMapping name entries ++ c :: rest) indents true earlier).Ends tokens := by
  obtain ⟨above, blocks⟩ := opened_eq stays
  cases entries with
  | nil =>
    have written : writeMapping name [] ++ c :: rest = name.toList ++ ':' :: ' ' :: '\x7b' :: '\x7d' :: '\n' :: c :: rest := by
      simp [writeMapping]
    rw [written]
    refine ends_name fieldName start stays rfl fun t => ?_
    exact ends_brackets .mapping (by rw [blocks]; rintro _ ⟨⟩; exact Nat.zero_le _) starts ends
  | cons entry entries =>
    have written : writeMapping name (entry :: entries) ++ c :: rest = name.toList ++ ':' :: ('\n' :: spaces 2 ++
        (entryText 2 entry ++ (entries.flatMap (fun entry => writeEntry 2 entry.1 entry.2) ++ c :: rest))) := by
      have first := writeEntry_eq 2 entry
      simp [writeMapping, first]
    rw [written]
    refine ends_name fieldName start stays rfl fun t => ?_
    rw [blocks] at ends ⊢
    have begins : (c :: rest).head?.all startsToken = true := starts
    have deeper : ∀ indent ∈ (0 :: above).head?, indent ≤ 2 := by
      rintro _ ⟨⟩
      decide
    refine ends_newLine (begins_entryText ..) fun t place => ends_entries (by decide) begins entries entry place deeper
      fun t place => ?_
    have right : ∀ indent ∈ [2], t.column < indent := by
      rw [place]
      decide
    have stays : ∀ indent ∈ (0 :: above).head?, indent ≤ t.column := by
      rintro _ ⟨⟩
      exact Nat.zero_le _
    refine Ends.close starts right stays ?_
    simpa [fieldTokens, entriesTokens, opening, opens] using ends t place

theorem ends_list (items : List String) (begins : rest.head?.all startsToken = true)
    (ends : ∀ t : Spot, t.column = 0 → (before t rest (opened indents 0) true
      ((fieldTokens name (itemsTokens items)).reverse ++ (opening .blockMapping indents 0 ++ earlier))).Ends tokens) :
    (before s (writeList name items ++ rest) indents true earlier).Ends tokens := by
  obtain ⟨above, blocks⟩ := opened_eq stays
  cases items with
  | nil =>
    have written : writeList name [] ++ rest = name.toList ++ ':' :: ' ' :: '[' :: ']' :: '\n' :: rest := by
      simp [writeList]
    rw [written]
    refine ends_name fieldName start stays rfl fun t => ?_
    exact ends_brackets .sequence (by rw [blocks]; rintro _ ⟨⟩; exact Nat.zero_le _) begins ends
  | cons item items =>
    have written : writeList name (item :: items) ++ rest = name.toList ++ ':' :: ('\n' :: spaces 0 ++
        ((item :: items).flatMap (fun item => '-' :: ' ' :: writeScalar 2 item) ++ rest)) := by
      simp [writeList, spaces]
    rw [written]
    refine ends_name fieldName start stays rfl fun t => ?_
    rw [blocks] at ends ⊢
    refine ends_newLine rfl fun t place => ends_items begins above (item :: items) place fun t place => ?_
    simpa [fieldTokens, itemsTokens] using ends t place

end Field

end Lexer

theorem eq_of_mem_spaces {n : Nat} {d : Char} (member : d ∈ spaces n) : d = ' ' := List.eq_of_mem_replicate member

theorem mem_singleQuoted {indent : Nat} {afterBreak : Bool} {text : List Char} {d : Char}
    (member : d ∈ singleQuotedRest indent afterBreak text) : d ∈ text ∨ d = ' ' ∨ d = '\'' := by
  fun_induction singleQuotedRest indent afterBreak text <;> grind [eq_of_mem_spaces]

theorem mem_blockText {indent : Nat} {afterBreak : Bool} {text : List Char} {d : Char}
    (member : d ∈ blockText indent afterBreak text) : d ∈ text ∨ d = ' ' := by
  fun_induction blockText indent afterBreak text <;> grind [eq_of_mem_spaces]

theorem isPrintable_of_mem_blockHints {text : List Char} {d : Char} (member : d ∈ blockHints text) :
    isPrintable d = true := by
  rw [blockHints_eq, List.mem_append] at member
  rcases member with indented | chomped
  · split at indented
    · rw [List.mem_singleton.mp indented]
      rfl
    · cases indented
  · cases chomping : chompingFor text <;> rw [chomping] at chomped
    · rw [List.mem_singleton.mp chomped]
      rfl
    · cases chomped
    · rw [List.mem_singleton.mp chomped]
      rfl

theorem isPrintable_of_mem_scalarBody {indent : Nat} {text : List Char} {d : Char} (member : d ∈ scalarBody indent text) :
    isPrintable d = true := by
  unfold scalarBody at member
  cases style : Style.ofText text with
  | plain =>
    rw [style] at member
    exact ((plainText_of_style style).1.onLine d member).1
  | singleQuoted =>
    rw [style] at member
    have printable := List.all_eq_true.mp (fitsSingle_of_style style).printable
    rcases List.mem_cons.mp member with rfl | member
    · rfl
    · rcases mem_singleQuoted member with here | rfl | rfl
      · exact printable d here
      · rfl
      · rfl
  | doubleQuoted =>
    rw [style] at member
    have onLine : OnLine ('\"' :: text.flatMap doubleQuotedChar ++ ['\"']) :=
      onLine_append.mpr ⟨onLine_cons.mpr ⟨by decide, onLine_doubleQuoted text⟩, by decide⟩
    exact (onLine d member).1
  | literal =>
    rw [style] at member
    have fits := fitsBlock_of_style style
    simp only [fitsBlock, Bool.and_eq_true, List.all_eq_true] at fits
    rcases List.mem_append.mp member with opens | member
    · rcases List.mem_cons.mp opens with rfl | member
      · rfl
      · exact isPrintable_of_mem_blockHints member
    · rcases List.mem_cons.mp member with rfl | member
      · rfl
      · rcases mem_blockText member with here | rfl
        · exact fits.1.1.2 d here
        · rfl

theorem all_isPrintable_scalarBody (indent : Nat) (text : List Char) :
    (scalarBody indent text).all isPrintable = true :=
  List.all_eq_true.mpr fun _ member => isPrintable_of_mem_scalarBody member

/-- Whatever a text is, what is written of it can be read. -/
theorem all_isPrintable_writeScalar (indent : Nat) (text : String) : (writeScalar indent text).all isPrintable = true := by
  have ending : (if Style.ofText text.toList = .literal then lineEnd text.toList else ['\n']).all isPrintable = true := by
    unfold lineEnd
    split
    · split <;> rfl
    · rfl
  rw [writeScalar_eq, List.all_append, all_isPrintable_scalarBody, ending]
  rfl

theorem all_isPrintable_spaces (n : Nat) : (spaces n).all isPrintable = true :=
  List.all_eq_true.mpr fun _ member => eq_of_mem_spaces member ▸ rfl

theorem all_isPrintable_writeEntry (column : Nat) (entry : String × String) :
    (writeEntry column entry.1 entry.2).all isPrintable = true := by
  have marks : isPrintable ':' = true ∧ isPrintable ' ' = true ∧ isPrintable '?' = true := by decide
  rw [writeEntry_eq, entryText]
  split <;> simp only [List.all_append, List.all_cons, all_isPrintable_spaces, all_isPrintable_scalarBody,
    all_isPrintable_writeScalar, marks, Bool.and_self]

theorem IsFieldName.all_isPrintable {name : String} (fieldName : IsFieldName name) :
    name.toList.all isPrintable = true := by
  have body : scalarBody 1 name.toList = name.toList := by rw [scalarBody, fieldName.plain]
  exact body ▸ all_isPrintable_scalarBody 1 name.toList

theorem all_isPrintable_writeMapping {name : String} (fieldName : IsFieldName name) (entries : List (String × String)) :
    (writeMapping name entries).all isPrintable = true := by
  have named := fieldName.all_isPrintable
  unfold writeMapping
  split
  · rw [List.all_append, named]
    decide
  · rw [List.all_append, List.all_append, named, List.all_flatMap]
    rw [List.all_eq_true.mpr fun entry _ => all_isPrintable_writeEntry 2 entry]
    decide

theorem all_isPrintable_writeList {name : String} (fieldName : IsFieldName name) (items : List String) :
    (writeList name items).all isPrintable = true := by
  have named := fieldName.all_isPrintable
  unfold writeList
  split
  · rw [List.all_append, named]
    decide
  · have item (text : String) : ('-' :: ' ' :: writeScalar 2 text).all isPrintable = true :=
      all_isPrintable_writeScalar 2 text
    rw [List.all_append, List.all_append, named, List.all_flatMap, List.all_eq_true.mpr fun text _ => item text]
    decide

theorem unifyBreaks_eq_self {text : List Char} (printable : text.all isPrintable = true) :
    Glyph.unifyBreaks text = text := by
  fun_induction Glyph.unifyBreaks text with
  | case1 => rfl
  | case2 rest ih => simp [isPrintable] at printable
  | case3 c rest other ih =>
    rw [List.all_cons, Bool.and_eq_true] at printable
    have return_ : c ≠ '\r' := ne_of_isPrintable printable.1 rfl
    have next : c ≠ '\u0085' := ne_of_isPrintable printable.1 rfl
    rw [ih printable.2, if_neg (by simp [return_, next])]

/-- A printable text is read as it stands. -/
theorem ofText_eq {text : List Char} (printable : text.all isPrintable = true) :
    Glyph.ofText (String.ofList text) = .ok ((⟨0, 0, 0⟩ : Spot).glyphs text) := by
  have allowed : text.all isAllowed = true := List.all_eq_true.mpr fun c member =>
    isAllowed_of_isPrintable (List.all_eq_true.mp printable c member)
  rw [Glyph.ofText, String.toList_ofList, if_pos allowed, unifyBreaks_eq_self printable]
  rfl

theorem writeList_starts {name : String} (fieldName : IsFieldName name) (items : List String) :
    ∃ c more, writeList name items = c :: more ∧ startsToken c = true := by
  obtain ⟨plain, -⟩ := plainText_of_style fieldName.plain
  obtain ⟨behind, written⟩ : ∃ behind, writeList name items = name.toList ++ behind := by
    unfold writeList
    split
    · exact ⟨_, rfl⟩
    · exact ⟨_, List.append_assoc ..⟩
  obtain ⟨c, more, starts⟩ := List.exists_cons_of_ne_nil plain.nonempty
  rw [starts] at plain
  exact ⟨c, more ++ behind, by rw [written, starts]; rfl, plain.startsToken⟩

/-- The tokens of a record are those of its fields, in one mapping. -/
theorem Token.read_record {mapping list : String} (mappingName : IsFieldName mapping) (listName : IsFieldName list)
    (entries : List (String × String)) (items : List String) :
    Token.read (String.ofList (writeMapping mapping entries ++ writeList list items)) =
      .ok (.blockMapping :: (fieldTokens mapping (entriesTokens entries) ++ (fieldTokens list (itemsTokens items) ++ [.blockEnd]))) := by
  generalize written : writeMapping mapping entries ++ writeList list items = text
  have printable : text.all isPrintable = true := by
    rw [← written, List.all_append, all_isPrintable_writeMapping mappingName, all_isPrintable_writeList listName]
    rfl
  obtain ⟨c, more, next, starts⟩ := writeList_starts listName items
  have ends : (Lexer.before ⟨0, 0, 0⟩ text [] true []).Ends
      (.blockEnd :: ((fieldTokens list (itemsTokens items)).reverse ++ ((fieldTokens mapping (entriesTokens entries)).reverse ++ [.blockMapping]))) := by
    rw [← written, next]
    refine Lexer.ends_mapping mappingName rfl (by rintro _ ⟨⟩) entries starts fun t place => ?_
    rw [← next, ← List.append_nil (writeList list items)]
    refine Lexer.ends_list listName place (by rintro _ ⟨⟩; rfl) items rfl fun t _ => ?_
    exact Lexer.ends_here t [0] _
  obtain ⟨last, run, tokens⟩ := ends (((⟨0, 0, 0⟩ : Spot).glyphs text).length + 1)
    (Nat.lt_succ_of_le (Lexer.marks_le_length _))
  have lexer : ({ rest := (⟨0, 0, 0⟩ : Spot).glyphs text } : Lexer) = Lexer.before ⟨0, 0, 0⟩ text [] true [] := rfl
  rw [Token.read, ofText_eq printable, ok_bind, lexer, run, ok_bind, tokens]
  exact congrArg Except.ok (by simp)

end Highlighter.Yaml
