import Highlighter.Proofs.JsonGrammar.Matches
import Highlighter.Proofs.Rounds

namespace Highlighter

open Text Pattern

/-- The matches of a rule begin as those of an expression do, and none of them is empty. -/
structure Rule.OpensWith (rule : Rule) (r : Regex) : Prop where
  automaton : rule.opener.automaton = r.automaton
  steady : r.steady
  needs : r.needsText

section

variable {done chars rest : List Char} {rules : List Rule} {expressions : List Regex}

/-- Characters that no rule can begin with are passed over. -/
theorem earliest_skip (opens : List.Forall₂ Rule.OpensWith rules expressions)
    (other : ∀ r ∈ expressions, ∀ c ∈ chars, r.starts c = false) (done rest : List Char) (first : Nat) :
    earliest (done ++ (chars ++ rest)) (byteLength done) first rules =
      earliest ((done ++ chars) ++ rest) (byteLength (done ++ chars)) first rules := by
  induction opens generalizing first with
  | nil => rfl
  | @cons rule r rules expressions opens _ ih =>
    obtain ⟨head, tail⟩ := List.forall_mem_cons.mp other
    rw [earliest, earliest, ih tail, findAt_behind, findAt_behind, opens.automaton,
      search_skip opens.steady opens.needs head]

/-- No rule has a match where there are only such characters. -/
theorem earliest_nothing (opens : List.Forall₂ Rule.OpensWith rules expressions)
    (other : ∀ r ∈ expressions, ∀ c ∈ chars, r.starts c = false) (done : List Char) (first : Nat) :
    earliest (done ++ chars) (byteLength done) first rules = none := by
  induction opens generalizing first with
  | nil => rfl
  | @cons rule r rules expressions opens _ ih =>
    obtain ⟨head, tail⟩ := List.forall_mem_cons.mp other
    rw [earliest, ih tail, findAt_behind, opens.automaton, search_nothing opens.steady opens.needs head]

/-- A rule that matches at once comes first, if none of the rules before it does so too. -/
theorem earliest_here (opens : List.Forall₂ Rule.OpensWith rules expressions)
    (nothing : ∀ r ∈ expressions, r.ways (.behind done (chars ++ rest)) = []) {rule : Rule} {r : Regex}
    (own : rule.OpensWith r) (leads : r.Leads (.behind done (chars ++ rest)) (.behind (done ++ chars) rest))
    (first : Nat) (after : List Rule) :
    earliest (done ++ (chars ++ rest)) (byteLength done) first (rules ++ rule :: after) =
      some (first + rules.length, rule, ⟨byteLength done, byteLength (done ++ chars)⟩) := by
  induction opens generalizing first with
  | nil =>
    have found := search_leads own.steady leads
    rw [List.nil_append, earliest, findAt_behind, own.automaton, found]
    cases later : earliest (done ++ (chars ++ rest)) (byteLength done) (first + 1) after with
    | none => rfl
    | some best =>
      have bounds := earliest_bounds later
      simp only
      rw [if_pos bounds.1]
      rfl
  | @cons other s rules expressions opens _ ih =>
    obtain ⟨head, tail⟩ := List.forall_mem_cons.mp nothing
    rw [List.cons_append, earliest, ih tail, findAt_behind, opens.automaton, List.length_cons, Nat.add_right_comm,
      Nat.add_assoc]
    cases found : search s.automaton done.getLast? (byteLength done) (chars ++ rest) with
    | none => rfl
    | some m =>
      have later := search_later opens.steady head found
      simp only
      rw [if_neg (Nat.not_le.mpr later)]

end

namespace JsonGrammar

open JsonText

def expressions : List Regex :=
  [lineComment, commentOpening, key, JsonGrammar.text, JsonGrammar.number, boolean, null, section_, separator]

theorem opensWith : List.Forall₂ Rule.OpensWith rules expressions :=
  .cons ⟨rfl, rfl, rfl⟩ <| .cons ⟨rfl, rfl, rfl⟩ <| .cons ⟨rfl, rfl, rfl⟩ <| .cons ⟨rfl, rfl, rfl⟩ <|
    .cons ⟨rfl, rfl, rfl⟩ <| .cons ⟨rfl, rfl, rfl⟩ <| .cons ⟨rfl, rfl, rfl⟩ <| .cons ⟨rfl, rfl, rfl⟩ <|
    .cons ⟨rfl, rfl, rfl⟩ .nil

/-- No rule can begin with a blank. -/
theorem starts_blanks (blanks : List Blank) : ∀ r ∈ expressions, ∀ c ∈ blanks.map Blank.char, r.starts c = false := by
  have all : ∀ r ∈ expressions, ∀ c ∈ blankChars, r.starts c = false := by decide +kernel
  exact fun r member c blank => all r member c (mem_blankChars blanks c blank)

def isScalar : Part → Bool
  | .blank _ => false
  | .lexeme l => l.isScalar

/-- Scalars do not stand side by side. -/
def Divided (parts : List Part) : Prop := parts.IsChain fun a b => ¬(isScalar a ∧ isScalar b)

theorem divided_of_apart {parts : List Part} (apart : Apart (parts.filterMap Part.lexeme?)) : Divided parts := by
  induction parts with
  | nil => exact .nil
  | cons part parts ih =>
    cases part with
    | blank b => exact List.isChain_cons.mpr ⟨fun _ _ both => absurd both.1 Bool.false_ne_true, ih apart⟩
    | lexeme l =>
      obtain ⟨beside, rest⟩ := List.isChain_cons.mp apart
      refine List.isChain_cons.mpr ⟨fun next head both => ?_, ih rest⟩
      cases parts with
      | nil => cases head
      | cons other parts =>
        obtain rfl : other = next := Option.some.inj head
        cases other with
        | blank b => exact absurd both.2 Bool.false_ne_true
        | lexeme other => exact beside other rfl both

/-- A line up to some parts, next to which a scalar may stand if it is the first of them. -/
def Ready (done : List Char) (parts : List Part) : Prop :=
  ∀ part ∈ parts.head?, isScalar part → Clear done.getLast?

theorem chars_cons (part : Part) (parts : List Part) : chars (part :: parts) = part.chars ++ chars parts :=
  List.flatMap_cons

theorem chars_blanks (blanks : List Blank) (parts : List Part) :
    chars (blanks.map .blank ++ parts) = blanks.map Blank.char ++ chars parts := by
  induction blanks with
  | nil => rfl
  | cons b blanks ih => rw [List.map_cons, List.cons_append, chars_cons, ih]; rfl

theorem blank_mem (b : Blank) : b.char ∈ separators := by
  cases b <;> decide

theorem punctuation_mem (mark : Punctuation) : mark.char ∈ separators := by
  cases mark <;> decide

theorem ready_concat {c : Char} (member : c ∈ separators) (done : List Char) (parts : List Part) :
    Ready (done ++ [c]) parts := fun _ _ _ d last => by
  rw [List.getLast?_concat] at last
  cases last
  exact member

theorem ready_blanks {done : List Char} {blanks : List Blank} {parts : List Part}
    (ready : Ready done (blanks.map .blank ++ parts)) : Ready (done ++ blanks.map Blank.char) parts := by
  rcases List.eq_nil_or_concat blanks with rfl | ⟨before, b, rfl⟩
  · simpa using ready
  · rw [List.concat_eq_append, List.map_append, ← List.append_assoc]
    exact ready_concat (blank_mem b) _ parts

/-- Behind a scalar no other one follows at once. -/
theorem clear_head {l : Lexeme} (scalar : l.isScalar) {parts : List Part} (divided : Divided (.lexeme l :: parts)) :
    Clear (chars parts).head? := by
  intro c head
  cases parts with
  | nil => cases head
  | cons part parts =>
    have beside := (List.isChain_cons.mp divided).1 part rfl
    cases part with
    | blank b =>
      cases head
      exact blank_mem b
    | lexeme next =>
      cases next with
      | punctuation mark =>
        cases head
        exact punctuation_mem mark
      | _ => exact absurd ⟨scalar, rfl⟩ beside

/-- Behind a lexeme that is no scalar any other one may follow. -/
theorem ready_lexeme {l : Lexeme} {done : List Char} {parts : List Part} (divided : Divided (.lexeme l :: parts)) :
    Ready (done ++ l.chars) parts := by
  cases l with
  | punctuation mark => exact ready_concat (punctuation_mem mark) done parts
  | _ =>
    intro part head scalar
    exact absurd ⟨rfl, scalar⟩ ((List.isChain_cons.mp divided).1 part head)

/-- Blanks come first, and behind them a lexeme, if there is one. -/
theorem exists_blanks (parts : List Part) : ∃ (blanks : List Blank) (rest : List Part),
    parts = blanks.map .blank ++ rest ∧ ∀ part ∈ rest.head?, ∃ l, part = .lexeme l := by
  induction parts with
  | nil => exact ⟨[], [], rfl, nofun⟩
  | cons part parts ih =>
    cases part with
    | blank b =>
      obtain ⟨blanks, rest, split, lexeme⟩ := ih
      exact ⟨b :: blanks, rest, by rw [split]; rfl, lexeme⟩
    | lexeme l => exact ⟨[], .lexeme l :: parts, rfl, fun part head => ⟨l, (Option.some.inj head).symm⟩⟩

theorem colonWithin?_blanks (blanks : List Blank) (parts : List Part) :
    colonWithin? (blanks.map .blank ++ parts) = (colonWithin? parts).map (· + blanks.length) := by
  induction blanks with
  | nil => simp
  | cons b blanks ih =>
    rw [List.map_cons, List.cons_append, colonWithin?, ih, Option.map_map]
    rfl

theorem spans_blanks (blanks : List Blank) (parts : List Part) (column : Nat) :
    spans column (blanks.map .blank ++ parts) = spans (column + blanks.length) parts := by
  induction blanks generalizing column with
  | nil => rfl
  | cons b blanks ih =>
    rw [List.map_cons, List.cons_append, spans, ih, List.length_cons, Nat.add_assoc, Nat.add_comm 1]

/-- A rule has the earliest match, which covers the characters that come next. -/
def Wins (rule : Rule) (done taken rest : List Char) : Prop :=
  ∃ index, earliest (done ++ (taken ++ rest)) (byteLength done) 0 rules =
    some (index, rule, ⟨byteLength done, byteLength (done ++ taken)⟩)

section

variable {done taken rest : List Char} {rule : Rule} {r : Regex}

theorem wins (index : Nat) (split : rules = rules.take index ++ rule :: rules.drop (index + 1)) (own : rule.OpensWith r)
    (nothing : ∀ s ∈ expressions.take index, s.ways (.behind done (taken ++ rest)) = [])
    (leads : r.Leads (.behind done (taken ++ rest)) (.behind (done ++ taken) rest)) : Wins rule done taken rest := by
  have here := earliest_here (List.forall₂_take index opensWith) nothing own leads 0 (rules.drop (index + 1))
  rw [← split] at here
  exact ⟨_, here⟩

/-- The rules before another one do not match where a character comes next that none of them can begin with. -/
theorem nothing_before (index : Nat) {c : Char} (other : ∀ s ∈ expressions.take index, s.starts c = false)
    (begins : ∃ cs, taken = c :: cs) : ∀ s ∈ expressions.take index, s.ways (.behind done (taken ++ rest)) = [] := by
  have needs : ∀ s ∈ expressions, s.needsText := by decide
  obtain ⟨cs, rfl⟩ := begins
  exact fun s member => Regex.ways_eq_nil (needs s (List.mem_of_mem_take member)) rfl (other s member)

end

section

variable {done rest : List Char}

/-- The characters that a number can begin with. -/
def numberOpenings : List Char := ['-', '0', '1', '2', '3', '4', '5', '6', '7', '8', '9']

theorem number_begins (number : Number) : ∃ c cs, number.chars = c :: cs ∧ c ∈ numberOpenings := by
  obtain ⟨negative, whole, _, fraction, exponent⟩ := number
  have digit : ∀ n : Fin 10, Nat.digitChar n ∈ numberOpenings := by decide
  cases negative with
  | false => exact ⟨_, _, rfl, digit whole.first⟩
  | true => exact ⟨_, _, rfl, List.mem_cons_self⟩

theorem wins_punctuation (mark : Punctuation) : ∃ rule, rule.isBlock = false ∧
    rule.scope = (Lexeme.punctuation mark).scope ∧ Wins rule done [mark.char] rest := by
  by_cases separates : mark = .comma ∨ mark = .colon
  · refine ⟨_, rfl, ?_, wins 8 rfl ⟨rfl, rfl, rfl⟩ (nothing_before 8 (c := mark.char) ?_ ⟨_, rfl⟩)
      (leads_separator separates)⟩
    · rcases separates with rfl | rfl <;> rfl
    · rcases separates with rfl | rfl <;> decide +kernel
  · have bracket : mark ≠ .comma ∧ mark ≠ .colon := not_or.mp separates
    refine ⟨_, rfl, ?_, wins 7 rfl ⟨rfl, rfl, rfl⟩ (nothing_before 7 (c := mark.char) ?_ ⟨_, rfl⟩)
      (leads_section bracket)⟩
    · cases mark <;> first | rfl | simp at bracket
    · cases mark <;> decide +kernel

/-- At a lexeme that is no text in quotes the rule for it has the first match. -/
theorem wins_lexeme {l : Lexeme} (noText : ∀ symbols, l ≠ .text symbols)
    (before : l.isScalar → Clear done.getLast?) (after : l.isScalar → Clear rest.head?) :
    ∃ rule, rule.isBlock = false ∧ rule.scope = l.scope ∧ Wins rule done l.chars rest := by
  cases l with
  | punctuation mark => exact wins_punctuation mark
  | null =>
    exact ⟨_, rfl, rfl, wins 6 rfl ⟨rfl, rfl, rfl⟩ (nothing_before 6 (c := 'n') (by decide +kernel) ⟨_, rfl⟩)
      (leads_null (before rfl) (after rfl))⟩
  | bool value =>
    have leads := leads_boolean value (before rfl) (after rfl)
    refine ⟨_, rfl, rfl, wins 5 rfl ⟨rfl, rfl, rfl⟩ ?_ leads⟩
    cases value with
    | true => exact nothing_before 5 (c := 't') (by decide +kernel) ⟨_, rfl⟩
    | false => exact nothing_before 5 (c := 'f') (by decide +kernel) ⟨_, rfl⟩
  | number n =>
    have other : ∀ c ∈ numberOpenings, ∀ s ∈ expressions.take 4, s.starts c = false := by decide +kernel
    obtain ⟨c, cs, begins, member⟩ := number_begins n
    exact ⟨_, rfl, rfl, wins 4 rfl ⟨rfl, rfl, rfl⟩ (nothing_before 4 (other c member) ⟨cs, begins⟩)
      (leads_number n (before rfl) (after rfl))⟩
  | text symbols => exact absurd rfl (noText symbols)

/-- At a text in quotes it is the rule for texts, unless a colon follows. -/
theorem wins_text (symbols : List Symbol) (blanks : List Blank)
    (other : ∀ c ∈ rest.head?, c ≠ ':' ∧ Unicode.spaceChars.contains c = false) :
    ∃ rule, rule.isBlock = false ∧ rule.scope = (Lexeme.text symbols).scope ∧
      Wins rule done (Lexeme.text symbols).chars (blanks.map Blank.char ++ rest) := by
  refine ⟨_, rfl, rfl, wins 3 rfl ⟨rfl, rfl, rfl⟩ ?_ (leads_text symbols)⟩
  have comments : ∀ s ∈ expressions.take 2,
      s.ways (.behind done ((Lexeme.text symbols).chars ++ (blanks.map Blank.char ++ rest))) = [] :=
    nothing_before 2 (c := '\"') (by decide +kernel) ⟨_, rfl⟩
  have noName := ways_key symbols blanks done other
  rw [show expressions.take 3 = expressions.take 2 ++ [key] from rfl]
  exact List.forall_mem_append.mpr ⟨comments, List.forall_mem_singleton.mpr noName⟩

/-- At a name it is the rule for names, to the colon. -/
theorem wins_name (symbols : List Symbol) (blanks : List Blank) : ∃ rule, rule.isBlock = false ∧
    rule.scope = "support.type.property-name.json" ∧
      Wins rule done ((Lexeme.text symbols).chars ++ (blanks.map Blank.char ++ [':'])) rest := by
  refine ⟨_, rfl, rfl, wins 2 rfl ⟨rfl, rfl, rfl⟩ (nothing_before 2 (c := '\"') (by decide +kernel) ⟨_, rfl⟩) ?_⟩
  have leads := leads_key symbols blanks done rest
  simpa using leads

end

/-- The characters at the beginning of some parts that one match covers, and the parts behind them. -/
structure Taken (done : List Char) (parts : List Part) (taken : List Char) (left : List Part) : Prop where
  nonempty : taken ≠ []
  text : chars parts = taken ++ chars left
  behind : left <:+ parts
  ready : Ready (done ++ taken) left
  wins : ∃ rule, rule.isBlock = false ∧ Wins rule done taken (chars left) ∧ ∀ column, spans column parts =
    ⟨column, column + taken.length, ["source.json", rule.scope]⟩ :: spans (column + taken.length) left

theorem lexeme_begins (l : Lexeme) : ∃ c cs, l.chars = c :: cs ∧
    Unicode.spaceChars.contains c = false ∧ (l ≠ .punctuation .colon → c ≠ ':') := by
  cases l with
  | punctuation mark =>
    exact ⟨mark.char, [], rfl, by cases mark <;> decide +kernel, by cases mark <;> simp [Punctuation.char]⟩
  | null => exact ⟨_, _, rfl, by decide +kernel, fun _ => by decide⟩
  | bool value => cases value <;> exact ⟨_, _, rfl, by decide +kernel, fun _ => by decide⟩
  | number n =>
    have other : ∀ c ∈ numberOpenings, Unicode.spaceChars.contains c = false ∧ c ≠ ':' := by decide +kernel
    obtain ⟨c, cs, begins, member⟩ := number_begins n
    exact ⟨c, cs, begins, (other c member).1, fun _ => (other c member).2⟩
  | text symbols => exact ⟨_, _, rfl, by decide +kernel, fun _ => by decide⟩

/-- Blanks come first, and then no colon. -/
theorem split_of_no_colon {parts : List Part} (nothing : colonWithin? parts = none) :
    ∃ (blanks : List Blank) (rest : List Part), parts = blanks.map .blank ++ rest ∧
      ∀ c ∈ (chars rest).head?, c ≠ ':' ∧ Unicode.spaceChars.contains c = false := by
  obtain ⟨blanks, rest, rfl, lexeme⟩ := exists_blanks parts
  refine ⟨blanks, rest, rfl, fun c head => ?_⟩
  cases rest with
  | nil => cases head
  | cons part rest =>
    obtain ⟨l, rfl⟩ := lexeme part rfl
    have noColon : l ≠ .punctuation .colon := by
      rintro rfl
      rw [colonWithin?_blanks] at nothing
      cases nothing
    obtain ⟨first, cs, begins, noSpace, other⟩ := lexeme_begins l
    rw [chars_cons, Part.chars, begins] at head
    cases head
    exact ⟨other noColon, noSpace⟩

/-- Blanks come first, and then a colon. -/
theorem split_of_colon {parts : List Part} {width : Nat} (found : colonWithin? parts = some width) :
    ∃ blanks : List Blank, parts = blanks.map .blank ++ .lexeme (.punctuation .colon) :: parts.drop width ∧
      width = blanks.length + 1 := by
  obtain ⟨blanks, rest, rfl, lexeme⟩ := exists_blanks parts
  rw [colonWithin?_blanks, Option.map_eq_some_iff] at found
  obtain ⟨n, found, rfl⟩ := found
  refine ⟨blanks, ?_⟩
  cases rest with
  | nil => cases found
  | cons part rest =>
    obtain ⟨l, rfl⟩ := lexeme part rfl
    unfold colonWithin? at found
    split at found
    · rename_i same
      cases same
    · rename_i same
      cases same
      cases found
      have dropped :
          (blanks.map Part.blank ++ .lexeme (.punctuation .colon) :: rest).drop (1 + blanks.length) = rest := by
        rw [Nat.add_comm, ← List.drop_drop, List.drop_left' (List.length_map _)]
        rfl
      exact ⟨by rw [dropped], Nat.add_comm ..⟩
    · cases found

theorem spans_lexeme {l : Lexeme} {parts : List Part}
    (noName : ∀ symbols, l = .text symbols → colonWithin? parts = none)
    (column : Nat) : spans column (.lexeme l :: parts) =
      ⟨column, column + l.chars.length, ["source.json", l.scope]⟩ :: spans (column + l.chars.length) parts := by
  rw [spans]
  intro symbols width same colon
  cases (noName symbols same).symm.trans colon

theorem spans_name {symbols : List Symbol} {parts : List Part} {width : Nat} (colon : colonWithin? parts = some width)
    (column : Nat) : spans column (.lexeme (.text symbols) :: parts) =
      ⟨column, column + (Lexeme.text symbols).chars.length + width,
          ["source.json", "support.type.property-name.json"]⟩ ::
        spans (column + (Lexeme.text symbols).chars.length + width) (parts.drop width) := by
  rw [spans.eq_def]
  simp only [colon]

example : spans 0 [.lexeme (.text []), .blank .tab, .lexeme (.punctuation .colon), .lexeme .null] =
    [⟨0, 4, ["source.json", "support.type.property-name.json"]⟩,
      ⟨4, 8, ["source.json", "constant.language.null.json"]⟩] := by cbv

theorem taken_lexeme (done : List Char) (l : Lexeme) (parts : List Part) (divided : Divided (.lexeme l :: parts))
    (ready : Ready done (.lexeme l :: parts)) : ∃ taken left, Taken done (.lexeme l :: parts) taken left := by
  obtain ⟨c, cs, begins, _⟩ := lexeme_begins l
  have nonempty : l.chars ≠ [] := by simp [begins]
  -- a match that covers the lexeme alone
  have alone (noName : ∀ symbols, l = .text symbols → colonWithin? parts = none)
      (first : ∃ rule, rule.isBlock = false ∧ rule.scope = l.scope ∧ Wins rule done l.chars (chars parts)) :
      ∃ taken left, Taken done (.lexeme l :: parts) taken left := by
    obtain ⟨rule, single, scope, wins⟩ := first
    exact ⟨l.chars, parts, nonempty, chars_cons _ _, List.suffix_cons _ _, ready_lexeme divided, rule, single, wins,
      fun column => by rw [scope, spans_lexeme noName]⟩
  by_cases isText : ∃ symbols, l = .text symbols
  · obtain ⟨symbols, rfl⟩ := isText
    cases colon : colonWithin? parts with
    | none =>
      obtain ⟨blanks, rest, rfl, other⟩ := split_of_no_colon colon
      rw [chars_blanks] at alone
      exact alone (fun _ _ => colon) (wins_text symbols blanks other)
    | some width =>
      obtain ⟨blanks, split, rfl⟩ := split_of_colon colon
      obtain ⟨rule, single, scope, wins⟩ := wins_name symbols blanks
      refine ⟨_, parts.drop (blanks.length + 1), by simp [begins], ?_,
        (List.drop_suffix ..).trans (List.suffix_cons ..), ?_, rule, single, wins, fun column => ?_⟩
      · rw [chars_cons, split, chars_blanks, ← split]
        simp [chars_cons, Part.chars, Lexeme.chars, Punctuation.char]
      · rw [← List.append_assoc, ← List.append_assoc]
        exact ready_concat (c := ':') (by decide) _ _
      · rw [spans_name colon, scope]
        simp [Nat.add_assoc]
  · have noText : ∀ symbols, l ≠ .text symbols := fun symbols same => isText ⟨symbols, same⟩
    refine alone (fun symbols same => absurd same (noText symbols)) (wins_lexeme noText ?_ ?_)
    · exact fun scalar => ready _ rfl scalar
    · exact fun scalar => clear_head scalar divided

end JsonGrammar

end Highlighter
