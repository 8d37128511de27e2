import Highlighter.Proofs.JsonGrammar.Lexemes
import Highlighter.Proofs.JsonGrammar.Rules
import Highlighter.Proofs.Pattern.Leads

namespace Highlighter

namespace JsonGrammar

open Pattern Pattern.Regex JsonText

/-- To see whether the characters of a list have a property, only these are looked at, not all that there are. -/
instance decidableForallMem (p : Char → Prop) [DecidablePred p] (cs : List Char) : Decidable (∀ c ∈ cs, p c) :=
  List.decidableBAll p cs

/-- The characters that are blanks or punctuation. -/
def separators : List Char := [' ', '\t', '\n', '\x0d', '[', ']', '\x7b', '\x7d', ',', ':']

def blankChars : List Char := [' ', '\t', '\n', '\x0d']

theorem mem_blankChars (blanks : List Blank) : ∀ c ∈ blanks.map Blank.char, c ∈ blankChars := by
  intro c member
  obtain ⟨b, _, rfl⟩ := List.mem_map.mp member
  cases b <;> decide

/-- A place next to which scalars may stand. -/
def Clear (c : Option Char) : Prop := ∀ d ∈ c, d ∈ separators

theorem not_isWord_of_mem : ∀ c ∈ separators, Unicode.isWord c = false := by decide

theorem isWordAt_of_clear {c : Option Char} (clear : Clear c) : isWordAt false c = false := by
  cases c with
  | none => rfl
  | some c => exact not_isWord_of_mem c (clear c rfl)

theorem word_starts {before : Option Char} {c : Char} (outside : isWordAt false before = false)
    (isWord : Unicode.isWord c) : Look.holds (.word false) ⟨before, some c⟩ := by
  have after : isWordAt false (some c) = true := isWord
  simp only [Look.holds, outside, after]
  rfl

theorem word_ends {c : Char} {after : Option Char} (isWord : Unicode.isWord c) (clear : Clear after) :
    Look.holds (.word false) ⟨some c, after⟩ := by
  have before : isWordAt false (some c) = true := isWord
  simp only [Look.holds, isWordAt_of_clear clear, before]
  rfl

theorem isWord_digitChar : ∀ d : Fin 10, Unicode.isWord (Nat.digitChar d) := by decide

theorem contains_digitChar : ∀ d : Fin 10, Unicode.digitChars.contains (Nat.digitChar d) := by decide +kernel

variable {done rest : List Char}

theorem mem_digits {d : Digits} {c : Char} (member : c ∈ d.chars) : ∃ n : Fin 10, Nat.digitChar n = c := by
  obtain ⟨n, _, same⟩ := List.mem_map.mp member
  exact ⟨n, same⟩

theorem leads_digits (d : Digits) (ends : ∀ c ∈ rest.head?, Unicode.digitChars.contains c = false) :
    digits.Leads (.behind done (d.chars ++ rest)) (.behind (done ++ d.chars) rest) := by
  have members : ∀ c ∈ d.chars, Unicode.digitChars.contains c := fun c member => by
    obtain ⟨n, rfl⟩ := mem_digits member
    exact contains_digitChar n
  exact Leads.atLeastOne rfl done members ends

/-- What may follow the digits of a number. -/
theorem not_digit : ∀ c ∈ '.' :: 'e' :: 'E' :: separators, Unicode.digitChars.contains c = false := by decide +kernel

theorem head?_exponent (exponent : Option Exponent) (clear : Clear rest.head?) :
    ∀ c ∈ (Number.exponentChars exponent ++ rest).head?, c ∈ 'e' :: 'E' :: separators := by
  intro c head
  rcases exponent with _ | ⟨capital, sign, digits⟩
  · exact List.mem_cons_of_mem _ (List.mem_cons_of_mem _ (clear c head))
  · cases head
    cases capital <;> simp

theorem head?_fraction (fraction : Option Digits) (exponent : Option Exponent) (clear : Clear rest.head?) :
    ∀ c ∈ (Number.fractionChars fraction ++ (Number.exponentChars exponent ++ rest)).head?,
      c ∈ '.' :: 'e' :: 'E' :: separators := by
  intro c head
  rcases fraction with _ | digits
  · exact List.mem_cons_of_mem _ (head?_exponent exponent clear c head)
  · cases head
    exact List.mem_cons_self

/-- An optional part is left out before a character that it cannot begin with. -/
theorem leads_leftOut {r : Regex} (needs : r.needsText) {p : Cursor}
    (other : ∀ c ∈ p.rest.head?, r.starts c = false) : (optional r).Leads p p := by
  refine Leads.leftOut ?_
  cases head : p.rest.head? with
  | none => exact ways_end needs (List.head?_eq_none_iff.mp head)
  | some c => exact ways_eq_nil needs head (other c head)

theorem leads_sign (sign : Option Sign) (d : Digits) :
    (optional (.oneOf ⟨[(0x2B, 0x2B), (0x2D, 0x2D)]⟩)).Leads
      (.behind done ((sign.map Sign.char).toList ++ (d.chars ++ rest)))
      (.behind (done ++ (sign.map Sign.char).toList) (d.chars ++ rest)) := by
  have other : ∀ n : Fin 10, CharSet.contains ⟨[(0x2B, 0x2B), (0x2D, 0x2D)]⟩ (Nat.digitChar n) = false := by decide
  rcases sign with _ | sign
  · simp only [Option.map_none, Option.toList_none, List.nil_append, List.append_nil]
    refine leads_leftOut rfl fun c head => ?_
    obtain rfl : Nat.digitChar d.first = c := Option.some.inj head
    exact other d.first
  · refine Leads.taken (.oneOf done (d.chars ++ rest) ?_)
    cases sign <;> rfl

theorem leads_exponent (exponent : Option Exponent) (clear : Clear rest.head?) :
    (optional (.seq (.oneOf ⟨[(0x45, 0x45), (0x65, 0x65)]⟩)
      (.seq (optional (.oneOf ⟨[(0x2B, 0x2B), (0x2D, 0x2D)]⟩)) digits))).Leads
      (.behind done (Number.exponentChars exponent ++ rest))
      (.behind (done ++ Number.exponentChars exponent) rest) := by
  rcases exponent with _ | ⟨capital, sign, d⟩
  · have other : ∀ c ∈ separators, CharSet.contains ⟨[(0x45, 0x45), (0x65, 0x65)]⟩ c = false := by decide
    rw [Number.exponentChars, List.nil_append, List.append_nil]
    refine leads_leftOut rfl fun c head => ?_
    simp [starts, needsText, CharSet.isEmpty, other c (clear c head)]
  · have ends : ∀ c ∈ rest.head?, Unicode.digitChars.contains c = false := fun c head =>
      not_digit c (by simp [clear c head])
    have letter : CharSet.contains ⟨[(0x45, 0x45), (0x65, 0x65)]⟩ (if capital then 'E' else 'e') := by
      cases capital <;> rfl
    have leads := (Leads.oneOf done ((sign.map Sign.char).toList ++ (d.chars ++ rest)) letter).seq
      ((leads_sign sign d).seq (leads_digits d ends))
    refine Leads.taken ?_
    simpa [Number.exponentChars, Exponent.chars] using leads

theorem leads_fraction (fraction : Option Digits) (exponent : Option Exponent) (clear : Clear rest.head?) :
    (optional (.seq (.literal ['.']) digits)).Leads
      (.behind done (Number.fractionChars fraction ++ (Number.exponentChars exponent ++ rest)))
      (.behind (done ++ Number.fractionChars fraction) (Number.exponentChars exponent ++ rest)) := by
  have next := head?_exponent exponent clear
  rcases fraction with _ | d
  · have other : ∀ c ∈ 'e' :: 'E' :: separators, ¬c = '.' := by decide
    rw [Number.fractionChars, List.nil_append, List.append_nil]
    refine leads_leftOut rfl fun c head => ?_
    simp [starts, needsText, other c (next c head)]
  · have ends : ∀ c ∈ (Number.exponentChars exponent ++ rest).head?, Unicode.digitChars.contains c = false :=
      fun c head => not_digit c (List.mem_cons_of_mem _ (next c head))
    have leads := (Leads.literal done (d.chars ++ (Number.exponentChars exponent ++ rest)) ['.']).seq
      (leads_digits d ends)
    refine Leads.taken ?_
    simpa [Number.fractionChars] using leads

theorem leads_minus (negative : Bool) (d : Digits) :
    (optional (.literal ['-'])).Leads (.behind done (Number.signChars negative ++ (d.chars ++ rest)))
      (.behind (done ++ Number.signChars negative) (d.chars ++ rest)) := by
  cases negative with
  | false =>
    have other : ∀ n : Fin 10, ¬Nat.digitChar n = '-' := by decide
    simp only [Number.signChars, Bool.false_eq_true, if_false, List.nil_append, List.append_nil]
    refine leads_leftOut rfl fun c head => ?_
    obtain rfl : Nat.digitChar d.first = c := Option.some.inj head
    simp [starts, other d.first]
  | true => exact Leads.taken (.literal done (d.chars ++ rest) ['-'])

theorem last_digits (d : Digits) : ∃ before, ∃ n : Fin 10, d.chars = before ++ [Nat.digitChar n] := by
  have nonempty : d.chars ≠ [] := nofun
  obtain ⟨n, last⟩ := mem_digits (List.getLast_mem nonempty)
  exact ⟨d.chars.dropLast, n, by rw [last, List.dropLast_append_getLast]⟩

/-- The last character of a number is a digit. -/
theorem last_number (number : Number) : ∃ before, ∃ n : Fin 10, number.chars = before ++ [Nat.digitChar n] := by
  obtain ⟨negative, whole, _, fraction, exponent⟩ := number
  rcases exponent with _ | ⟨capital, sign, digits⟩
  · rcases fraction with _ | digits
    · obtain ⟨before, n, last⟩ := last_digits whole
      exact ⟨Number.signChars negative ++ before, n, by
        simp [Number.chars, Number.fractionChars, Number.exponentChars, last]⟩
    · obtain ⟨before, n, last⟩ := last_digits digits
      exact ⟨Number.signChars negative ++ (whole.chars ++ '.' :: before), n, by
        simp [Number.chars, Number.fractionChars, Number.exponentChars, last]⟩
  · obtain ⟨before, n, last⟩ := last_digits digits
    exact ⟨Number.signChars negative ++ (whole.chars ++ (Number.fractionChars fraction ++
        (if capital then 'E' else 'e') :: ((sign.map Sign.char).toList ++ before))), n, by
      simp [Number.chars, Number.exponentChars, Exponent.chars, last]⟩

theorem leads_number (number : Number) (before : Clear done.getLast?) (after : Clear rest.head?) :
    JsonGrammar.number.Leads (.behind done (number.chars ++ rest)) (.behind (done ++ number.chars) rest) := by
  obtain ⟨start, n, last⟩ := last_number number
  have ends : Look.holds (.word false) (Cursor.behind (done ++ number.chars) rest).place := by
    have place : (Cursor.behind (done ++ number.chars) rest).place = ⟨some (Nat.digitChar n), rest.head?⟩ := by
      simp [Cursor.place, Cursor.behind, last]
    rw [place]
    exact word_ends (isWord_digitChar n) after
  obtain ⟨negative, whole, proper, fraction, exponent⟩ := number
  have outside : isWordAt false (done ++ Number.signChars negative).getLast? = false := by
    cases negative with
    | false => simpa [Number.signChars] using isWordAt_of_clear before
    | true =>
      rw [Number.signChars, if_pos rfl, List.getLast?_concat]
      rfl
  have begins : Look.holds (.word false) (Cursor.behind (done ++ Number.signChars negative)
      (whole.chars ++ (Number.fractionChars fraction ++ (Number.exponentChars exponent ++ rest)))).place :=
    word_starts outside (isWord_digitChar whole.first)
  have next := head?_fraction fraction exponent after
  have parts : done ++ Number.signChars negative ++ whole.chars ++ Number.fractionChars fraction ++
      Number.exponentChars exponent = done ++ (Number.mk negative whole proper fraction exponent).chars := by
    simp [Number.chars]
  rw [← parts] at ends ⊢
  have leads := (leads_minus negative whole).seq <| (Leads.look begins).seq <|
    (leads_digits whole fun c head => not_digit c (next c head)).seq <|
    (leads_fraction fraction exponent after).seq <| (leads_exponent exponent after).seq <| Leads.look ends
  simpa only [JsonGrammar.number, Number.chars, List.append_assoc] using leads

theorem leads_word {r : Regex} {chars : List Char} {first last : Char} {inner : List Char}
    (spelled : chars = first :: inner ∧ chars.getLast? = some last)
    (isWord : Unicode.isWord first ∧ Unicode.isWord last)
    (before : Clear done.getLast?) (after : Clear rest.head?)
    (leads : r.Leads (.behind done (chars ++ rest)) (.behind (done ++ chars) rest)) :
    (word r).Leads (.behind done (chars ++ rest)) (.behind (done ++ chars) rest) := by
  obtain ⟨head, tail⟩ := spelled
  refine (Leads.look ?_).seq (leads.seq (Leads.look ?_))
  · subst head
    exact word_starts (isWordAt_of_clear before) isWord.1
  · have place : (Cursor.behind (done ++ chars) rest).place = ⟨some last, rest.head?⟩ := by
      simp [Cursor.place, Cursor.behind, tail]
    rw [place]
    exact word_ends isWord.2 after

theorem leads_boolean (value : Bool) (before : Clear done.getLast?) (after : Clear rest.head?) :
    boolean.Leads (.behind done ((Lexeme.bool value).chars ++ rest))
      (.behind (done ++ (Lexeme.bool value).chars) rest) := by
  cases value with
  | true => exact leads_word ⟨rfl, rfl⟩ (by decide) before after (Leads.alt_left (.literal done rest _))
  | false =>
    refine leads_word ⟨rfl, rfl⟩ (by decide) before after (Leads.alt_right ?_ (.literal done rest _))
    exact ways_eq_nil (c := 'f') rfl rfl rfl

theorem leads_null (before : Clear done.getLast?) (after : Clear rest.head?) :
    null.Leads (.behind done (Lexeme.null.chars ++ rest)) (.behind (done ++ Lexeme.null.chars) rest) :=
  leads_word ⟨rfl, rfl⟩ (by decide) before after (.literal done rest _)

theorem contains_plain {c : Char} (noQuote : c ≠ '\"') (noBackslash : c ≠ '\\') : plain.contains c := by
  have quote : c.toNat ≠ 0x22 := fun same => noQuote (Char.toNat_inj.mp same)
  have backslash : c.toNat ≠ 0x5C := fun same => noBackslash (Char.toNat_inj.mp same)
  have bound : c.toNat < 0xD800 ∨ 0xDFFF < c.toNat ∧ c.toNat < 0x110000 := c.valid
  simp only [plain, CharSet.contains, CharSet.inRanges, Bool.and_eq_true, Bool.or_eq_true, decide_eq_true_eq]
  omega

theorem contains_inLine {c : Char} (noLineFeed : c ≠ '\n') : inLine.contains c := by
  have lineFeed : c.toNat ≠ 0xA := fun same => noLineFeed (Char.toNat_inj.mp same)
  have bound : c.toNat < 0xD800 ∨ 0xDFFF < c.toNat ∧ c.toNat < 0x110000 := c.valid
  simp only [inLine, CharSet.contains, CharSet.inRanges, Bool.and_eq_true, Bool.or_eq_true, decide_eq_true_eq]
  omega

/-- What may stand between quotes, as far as the grammar can tell. -/
inductive Body : List Char → Prop
  | nil : Body []
  | plain {c chars} : c ≠ '\"' → c ≠ '\\' → Body chars → Body (c :: chars)
  | escaped {c chars} : c ≠ '\n' → Body chars → Body ('\\' :: c :: chars)

theorem Body.digits {digits chars : List Char} (hex : ∀ c ∈ digits, c ∈ hexDigits) (body : Body chars) :
    Body (digits ++ chars) := by
  have ordinary : ∀ c ∈ hexDigits, c ≠ '\"' ∧ c ≠ '\\' := by decide
  induction digits with
  | nil => exact body
  | cons c digits ih =>
    obtain ⟨head, tail⟩ := List.forall_mem_cons.mp hex
    exact .plain (ordinary c head).1 (ordinary c head).2 (ih tail)

theorem body_symbols (symbols : List Symbol) : Body (symbols.flatMap Symbol.chars) := by
  have letters : ∀ c ∈ escapeLetters, c ≠ '\n' := by decide
  induction symbols with
  | nil => exact .nil
  | cons symbol symbols ih =>
    rw [List.flatMap_cons]
    cases symbol with
    | plain c _ noQuote noBackslash => exact .plain noQuote noBackslash ih
    | escape letter known => exact .escaped (letters letter known) ih
    | code digits _ hex => exact .escaped (by decide) (ih.digits hex)

/-- A place that a quote does not come next. -/
def InText (p : Cursor) : Prop := ∃ c, p.rest.head? = some c ∧ c ≠ '\"'

theorem ways_body_step {p q last : Cursor} {others : List Cursor} (one : symbol.ways p = [q]) (inText : InText p)
    (ways : textBody.ways q = last :: others) (before : ∀ t ∈ others, InText t) :
    ∃ others, textBody.ways p = last :: others ∧ ∀ t ∈ others, InText t := by
  refine ⟨others ++ [p], ?_, List.forall_mem_append.mpr ⟨before, List.forall_mem_singleton.mpr inText⟩⟩
  rw [textBody, ways_repeated rfl, one, List.flatMap_singleton, ← textBody, ways, List.cons_append]

/-- Between quotes the preferred way ends at the closing quote, and no other does. -/
theorem ways_body {chars : List Char} (body : Body chars) (done rest : List Char) :
    ∃ others, textBody.ways (.behind done (chars ++ '\"' :: rest)) =
      .behind (done ++ chars) ('\"' :: rest) :: others ∧ ∀ q ∈ others, InText q := by
  induction body generalizing done with
  | nil =>
    have nothing : symbol.ways (.behind done ('\"' :: rest)) = [] := ways_eq_nil (c := '\"') rfl rfl rfl
    exact ⟨[], by rw [List.nil_append, List.append_nil, textBody, ways_repeated rfl, nothing]; rfl, nofun⟩
  | @plain c chars noQuote noBackslash _ ih =>
    obtain ⟨others, ways, before⟩ := ih (done ++ [c])
    have escape : (Regex.seq (.literal ['\\']) (.oneOf inLine)).ways
        (.behind done (c :: (chars ++ '\"' :: rest))) = [] :=
      ways_eq_nil (c := c) rfl rfl (by simp [starts, needsText, noBackslash])
    have one : symbol.ways (.behind done (c :: (chars ++ '\"' :: rest))) =
        [.behind (done ++ [c]) (chars ++ '\"' :: rest)] := by
      rw [symbol, Regex.ways, escape, Regex.ways, Cursor.take_behind, if_pos (contains_plain noQuote noBackslash)]
      rfl
    rw [List.append_assoc] at ways
    exact ways_body_step one ⟨c, rfl, noQuote⟩ ways before
  | @escaped c chars noLineFeed _ ih =>
    obtain ⟨others, ways, before⟩ := ih (done ++ ['\\', c])
    have one : symbol.ways (.behind done ('\\' :: c :: (chars ++ '\"' :: rest))) =
        [.behind (done ++ ['\\', c]) (chars ++ '\"' :: rest)] := by
      have itself : (Regex.oneOf plain).ways (.behind done ('\\' :: c :: (chars ++ '\"' :: rest))) = [] :=
        ways_eq_nil (c := '\\') rfl rfl rfl
      have first := Cursor.spell_behind done (c :: (chars ++ '\"' :: rest)) ['\\']
      rw [List.singleton_append] at first
      rw [symbol, Regex.ways, itself, List.nil_append, Regex.ways, Regex.ways, first, Option.toList_some,
        List.flatMap_singleton, Regex.ways, Cursor.take_behind, if_pos (contains_inLine noLineFeed)]
      simp
    rw [List.append_assoc] at ways
    exact ways_body_step one ⟨'\\', rfl, by decide⟩ ways before

theorem textChars_append (symbols : List Symbol) (rest : List Char) : (Lexeme.text symbols).chars ++ rest =
    ['\"'] ++ (symbols.flatMap Symbol.chars ++ '\"' :: rest) := by
  simp [Lexeme.chars]

theorem leads_text (symbols : List Symbol) : JsonGrammar.text.Leads
    (.behind done ((Lexeme.text symbols).chars ++ rest)) (.behind (done ++ (Lexeme.text symbols).chars) rest) := by
  obtain ⟨others, ways, _⟩ := ways_body (body_symbols symbols) (done ++ ['\"']) rest
  have leads := (Leads.literal done _ ['\"']).seq <| Leads.seq ⟨others, ways⟩ <|
    Leads.literal (done ++ ['\"'] ++ symbols.flatMap Symbol.chars) rest ['\"']
  rw [textChars_append]
  simpa [JsonGrammar.text, Lexeme.chars] using leads

variable (symbols : List Symbol) (blanks : List Blank)

theorem contains_blanks : ∀ c ∈ blanks.map Blank.char, Unicode.spaceChars.contains c := by
  have all : ∀ c ∈ blankChars, Unicode.spaceChars.contains c := by decide +kernel
  exact fun c member => all c (mem_blankChars blanks c member)

/-- A text with a colon behind it is a name, to the colon. -/
theorem leads_key (done rest : List Char) : key.Leads
    (.behind done ((Lexeme.text symbols).chars ++ (blanks.map Blank.char ++ ':' :: rest)))
    (.behind (done ++ ((Lexeme.text symbols).chars ++ (blanks.map Blank.char ++ [':']))) rest) := by
  have colon : ∀ c ∈ (':' :: rest).head?, Unicode.spaceChars.contains c = false := fun c head => by
    cases head
    decide +kernel
  obtain ⟨others, ways, _⟩ := ways_body (body_symbols symbols) (done ++ ['\"'])
    (blanks.map Blank.char ++ ':' :: rest)
  have leads := (Leads.literal done _ ['\"']).seq <| Leads.seq ⟨others, ways⟩ <|
    (Leads.literal (done ++ ['\"'] ++ symbols.flatMap Symbol.chars)
      (blanks.map Blank.char ++ ':' :: rest) ['\"']).seq <|
    (Leads.many rfl (done ++ ['\"'] ++ symbols.flatMap Symbol.chars ++ ['\"']) (contains_blanks blanks) colon).seq <|
    Leads.literal (done ++ ['\"'] ++ symbols.flatMap Symbol.chars ++ ['\"'] ++ blanks.map Blank.char) rest [':']
  rw [textChars_append]
  simpa [key, Lexeme.chars] using leads

/-- Behind the closing quote there is no colon to end a name. -/
theorem ways_spaces (other : ∀ c ∈ rest.head?, c ≠ ':' ∧ Unicode.spaceChars.contains c = false) :
    (Regex.seq (.rep 0 none true (.oneOf Unicode.spaceChars)) (.literal [':'])).ways
      (.behind done (blanks.map Blank.char ++ rest)) = [] := by
  obtain ⟨others, ways, before⟩ := ways_many rfl done (contains_blanks blanks) fun c head => (other c head).2
  have noColon (q : Cursor) (head : ∀ c ∈ q.rest.head?, c ≠ ':') : (Regex.literal [':']).ways q = [] := by
    cases next : q.rest.head? with
    | none => exact ways_end rfl (List.head?_eq_none_iff.mp next)
    | some c => exact ways_eq_nil rfl next (by simpa [starts] using head c next)
  rw [Regex.ways, ways, List.flatMap_eq_nil_iff]
  refine List.forall_mem_cons.mpr ⟨noColon _ fun c head => (other c head).1, fun q member => noColon q ?_⟩
  obtain ⟨c, head, space⟩ := before q member
  rintro d same rfl
  cases head.symm.trans same
  revert space
  decide +kernel

/-- A text without a colon behind it is no name. -/
theorem ways_key (done : List Char)
    (other : ∀ c ∈ rest.head?, c ≠ ':' ∧ Unicode.spaceChars.contains c = false) :
    key.ways (.behind done ((Lexeme.text symbols).chars ++ (blanks.map Blank.char ++ rest))) = [] := by
  obtain ⟨others, ways, inText⟩ := ways_body (body_symbols symbols) (done ++ ['\"']) (blanks.map Blank.char ++ rest)
  have opening := Cursor.spell_behind done
    (symbols.flatMap Symbol.chars ++ '\"' :: (blanks.map Blank.char ++ rest)) ['\"']
  have closing := Cursor.spell_behind (done ++ ['\"'] ++ symbols.flatMap Symbol.chars)
    (blanks.map Blank.char ++ rest) ['\"']
  rw [List.singleton_append] at closing
  rw [textChars_append, key, Regex.ways, Regex.ways, opening, Option.toList_some, List.flatMap_singleton, Regex.ways,
    ways, List.flatMap_eq_nil_iff]
  refine List.forall_mem_cons.mpr ⟨?_, fun q member => ?_⟩
  · rw [Regex.ways, Regex.ways, closing, Option.toList_some, List.flatMap_singleton]
    exact ways_spaces blanks other
  · obtain ⟨c, head, noQuote⟩ := inText q member
    exact ways_eq_nil rfl head (by simp [starts, needsText, noQuote])

theorem leads_section {mark : Punctuation} (bracket : mark ≠ .comma ∧ mark ≠ .colon) :
    section_.Leads (.behind done (mark.char :: rest)) (.behind (done ++ [mark.char]) rest) := by
  refine .oneOf done rest ?_
  cases mark <;> first | rfl | simp at bracket

theorem leads_separator {mark : Punctuation} (separates : mark = .comma ∨ mark = .colon) :
    separator.Leads (.behind done (mark.char :: rest)) (.behind (done ++ [mark.char]) rest) := by
  refine .oneOf done rest ?_
  rcases separates with rfl | rfl <;> rfl

end JsonGrammar

end Highlighter
