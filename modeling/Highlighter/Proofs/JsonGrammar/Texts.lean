import Highlighter.Proofs.Documents
import Highlighter.Proofs.JsonGrammar.Lines

namespace Highlighter

open Text

/-- The spans that have a second scope. -/
def highlighted (spans : List Span) : List Span := spans.filter fun span => span.scopes.length = 2

theorem highlighted_append (first second : List Span) :
    highlighted (first ++ second) = highlighted first ++ highlighted second :=
  List.filter_append ..

theorem highlighted_plain (root : String) (line : List Char) (start stop : Nat) :
    highlighted ((Piece.between start stop none).map (Piece.span root line)) = [] := by
  unfold Piece.between
  split <;> rfl

theorem highlighted_between (root scope : String) (line : List Char) {start stop : Nat} (nonempty : start < stop) :
    highlighted ((Piece.between start stop scope).map (Piece.span root line)) =
      [⟨charsWithin line start, charsWithin line stop, [root, scope]⟩] := by
  rw [Piece.between, if_pos nonempty]
  rfl

namespace JsonGrammar

open JsonText

/-- From a place of a line on, the spans of a second scope are those of the parts that stand there. -/
def Shows (done : List Char) (parts : List Part) : Prop :=
  ∃ pieces, grammar.lexFrom (done ++ chars parts) (byteLength done) none = .ok (pieces, none) ∧
    highlighted (pieces.map (Piece.span "source.json" (done ++ chars parts))) = spans done.length parts

theorem shows_blanks (done : List Char) (blanks : List Blank) : Shows done (blanks.map .blank) := by
  have text : chars (blanks.map .blank) = blanks.map Blank.char := by
    have split := chars_blanks blanks []
    rwa [List.append_nil, show chars [] = [] from rfl, List.append_nil] at split
  have none_ : spans done.length (blanks.map .blank) = [] := by
    have split := spans_blanks blanks [] done.length
    rwa [List.append_nil, spans] at split
  rw [Shows, text, none_]
  by_cases inside : byteLength done < byteLength (done ++ blanks.map Blank.char)
  · have nothing := earliest_nothing opensWith (starts_blanks blanks) done 0
    have round : grammar.Round _ ⟨byteLength done, none⟩ _ _ := .plain inside nothing
    have run := round.lexFrom_eq
    rw [RuleGrammar.lexFrom_outside (Nat.le_refl _)] at run
    exact ⟨_, run, by rw [List.append_nil, highlighted_plain]⟩
  · exact ⟨[], RuleGrammar.lexFrom_outside (Nat.not_lt.mp inside) none, rfl⟩

theorem byteLength_lt (done : List Char) {taken : List Char} (nonempty : taken ≠ []) :
    byteLength done < byteLength (done ++ taken) := by
  obtain ⟨c, cs, rfl⟩ := List.exists_cons_of_ne_nil nonempty
  have positive := c.utf8Size_pos
  rw [byteLength_append, byteLength]
  omega

/-- A match behind blanks is what the next round finds. -/
theorem Wins.round {rule : Rule} {done taken rest : List Char} {blanks : List Blank}
    (wins : Wins rule (done ++ blanks.map Blank.char) taken rest) (single : rule.isBlock = false)
    (nonempty : taken ≠ []) {line : List Char} (text : line = done ++ (blanks.map Blank.char ++ (taken ++ rest))) :
    grammar.Round line ⟨byteLength done, none⟩
      (Piece.between (byteLength done) (byteLength (done ++ blanks.map Blank.char)) none ++
        Piece.between (byteLength (done ++ blanks.map Blank.char)) (byteLength (done ++ blanks.map Blank.char ++ taken))
          rule.scope)
      ⟨byteLength (done ++ blanks.map Blank.char ++ taken), none⟩ := by
  obtain ⟨index, found⟩ := wins
  rw [← earliest_skip opensWith (starts_blanks blanks), ← text] at found
  have longer := byteLength_lt (done ++ blanks.map Blank.char) nonempty
  have inside : byteLength done < byteLength line := by
    rw [text]
    simp only [byteLength_append] at longer ⊢
    omega
  have round : grammar.Round line _ _ _ := .matched inside found longer
  rwa [single] at round

/-- One match, after blanks that no rule begins with. -/
theorem Taken.shows {done taken : List Char} {blanks : List Blank} {parts left : List Part}
    (first : Taken (done ++ blanks.map Blank.char) parts taken left)
    (rest : Shows (done ++ blanks.map Blank.char ++ taken) left) : Shows done (blanks.map .blank ++ parts) := by
  obtain ⟨rule, single, wins, shape⟩ := first.wins
  obtain ⟨pieces, run, shown⟩ := rest
  have text : done ++ chars (blanks.map .blank ++ parts) =
      done ++ (blanks.map Blank.char ++ (taken ++ chars left)) := by
    rw [chars_blanks, first.text]
  have whole : done ++ blanks.map Blank.char ++ taken ++ chars left = done ++ chars (blanks.map .blank ++ parts) := by
    rw [text]
    simp only [List.append_assoc]
  have begins : charsWithin (done ++ blanks.map Blank.char ++ taken ++ chars left)
      (byteLength (done ++ blanks.map Blank.char)) = done.length + blanks.length := by
    rw [List.append_assoc, charsWithin_append, List.length_append, List.length_map]
  have ends : charsWithin (done ++ blanks.map Blank.char ++ taken ++ chars left)
      (byteLength (done ++ blanks.map Blank.char ++ taken)) = done.length + blanks.length + taken.length := by
    rw [charsWithin_append, List.length_append, List.length_append, List.length_map]
  rw [whole] at run shown begins ends
  have now := (wins.round single first.nonempty text).lexFrom_eq
  rw [run] at now
  refine ⟨_, now, ?_⟩
  rw [List.map_append, List.map_append, highlighted_append, highlighted_append, highlighted_plain,
    highlighted_between _ _ _ (byteLength_lt _ first.nonempty), begins, ends, shown, spans_blanks, shape,
    List.length_append, List.length_append, List.length_map]
  rfl

/-- A match takes at least one part. -/
theorem Taken.shorter {done taken : List Char} {parts left : List Part} (first : Taken done parts taken left) :
    left.length < parts.length := by
  refine Nat.lt_of_le_of_ne first.behind.length_le fun same => first.nonempty ?_
  have text := first.text
  rw [first.behind.eq_of_length same] at text
  exact List.self_eq_append_left.mp text

/-- The run over a line: blanks up to its end, or up to a lexeme. There one match takes parts, and what is left is
shorter. -/
theorem shows {done : List Char} {parts : List Part} (divided : Divided parts) (ready : Ready done parts) :
    Shows done parts := by
  induction length : parts.length using Nat.strongRecOn generalizing done parts with
  | ind n ih =>
    subst length
    obtain ⟨blanks, rest, rfl, lexeme⟩ := exists_blanks parts
    cases rest with
    | nil =>
      rw [List.append_nil]
      exact shows_blanks done blanks
    | cons part rest =>
      obtain ⟨l, rfl⟩ := lexeme part rfl
      have behind : Divided (.lexeme l :: rest) := divided.right_of_append
      obtain ⟨taken, left, first⟩ := taken_lexeme _ l rest behind (ready_blanks ready)
      have shorter : left.length < (blanks.map Part.blank ++ .lexeme l :: rest).length := by
        rw [List.length_append]
        exact Nat.lt_add_left _ first.shorter
      exact first.shows (ih left.length shorter (behind.suffix first.behind) first.ready rfl)

theorem visible_digits (digits : Digits) : ∀ c ∈ digits.chars, 0x20 ≤ c.toNat := by
  have all : ∀ n : Fin 10, 0x20 ≤ (Nat.digitChar n).toNat := by decide
  intro c member
  obtain ⟨n, rfl⟩ := mem_digits member
  exact all n

theorem visible_number (number : Number) : ∀ c ∈ number.chars, 0x20 ≤ c.toNat := by
  have minus : ∀ negative, ∀ c ∈ Number.signChars negative, 0x20 ≤ c.toNat := by decide
  have letters : ∀ capital : Bool, 0x20 ≤ (if capital then 'E' else 'e').toNat := by decide
  have signs : ∀ sign : Sign, 0x20 ≤ sign.char.toNat := by rintro (_ | _) <;> decide
  obtain ⟨negative, whole, _, fraction, exponent⟩ := number
  refine List.forall_mem_append.mpr ⟨minus negative, List.forall_mem_append.mpr ⟨visible_digits whole,
    List.forall_mem_append.mpr ⟨?_, ?_⟩⟩⟩
  · rcases fraction with _ | digits
    · exact nofun
    · exact List.forall_mem_cons.mpr ⟨by decide, visible_digits digits⟩
  · rcases exponent with _ | ⟨capital, sign, digits⟩
    · exact nofun
    · refine List.forall_mem_cons.mpr ⟨letters capital, List.forall_mem_append.mpr ⟨?_, visible_digits digits⟩⟩
      rcases sign with _ | sign
      · exact nofun
      · exact List.forall_mem_singleton.mpr (signs sign)

theorem visible_symbol (symbol : Symbol) : ∀ c ∈ symbol.chars, 0x20 ≤ c.toNat := by
  cases symbol with
  | plain c visible _ _ => exact List.forall_mem_singleton.mpr visible
  | escape letter known =>
    have all : ∀ c ∈ escapeLetters, 0x20 ≤ c.toNat := by decide
    exact List.forall_mem_cons.mpr ⟨by decide, List.forall_mem_singleton.mpr (all letter known)⟩
  | code digits _ hex =>
    have all : ∀ c ∈ hexDigits, 0x20 ≤ c.toNat := by decide
    have visible : ∀ c ∈ digits, 0x20 ≤ c.toNat := fun c member => all c (hex c member)
    exact List.forall_mem_cons.mpr ⟨by decide, List.forall_mem_cons.mpr ⟨by decide, visible⟩⟩

/-- No control character is in a lexeme, so that a lexeme is on one line. -/
theorem visible_lexeme (l : Lexeme) : ∀ c ∈ l.chars, 0x20 ≤ c.toNat := by
  cases l with
  | punctuation mark => cases mark <;> decide
  | null => decide
  | bool value => cases value <;> decide
  | number n => exact visible_number n
  | text symbols =>
    refine List.forall_mem_cons.mpr ⟨by decide, List.forall_mem_append.mpr ⟨fun c member => ?_, by decide⟩⟩
    obtain ⟨symbol, _, inner⟩ := List.mem_flatMap.mp member
    exact visible_symbol symbol c inner

theorem ne_lineFeed {part : Part} (other : part.isLineFeed = false) : ∀ c ∈ part.chars, c ≠ '\n' := by
  cases part with
  | blank b =>
    cases b with
    | lineFeed => cases other
    | _ => decide
  | lexeme l =>
    rintro c member rfl
    exact absurd (visible_lexeme l _ member) (by decide)

theorem splitOn_append {c : Char} {before rest line : List Char} {lines : List (List Char)}
    (other : ∀ d ∈ before, d ≠ c) (split : rest.splitOn c = line :: lines) :
    (before ++ rest).splitOn c = (before ++ line) :: lines := by
  induction before with
  | nil => exact split
  | cons d before ih =>
    obtain ⟨head, tail⟩ := List.forall_mem_cons.mp other
    rw [List.cons_append, List.splitOn_cons_eq_if_modifyHead, ih tail, if_neg (by simpa using head)]
    rfl

/-- The lines of a text are those of its parts, which stand in it in one piece. -/
theorem splitOn_chars (parts : List Part) : ∃ line lines, parts.splitOnP Part.isLineFeed = line :: lines ∧
    (chars parts).splitOn '\n' = chars line :: lines.map chars ∧ line <+: parts ∧
    ∀ other ∈ lines, other <:+: parts := by
  induction parts with
  | nil => exact ⟨[], [], rfl, rfl, List.prefix_rfl, nofun⟩
  | cons part parts ih =>
    obtain ⟨line, lines, split, same, first, others⟩ := ih
    have behind : parts <:+: part :: parts := (List.suffix_cons ..).isInfix
    have further : ∀ other ∈ lines, other <:+: part :: parts := fun other member => (others other member).trans behind
    rw [List.splitOnP_cons_eq_if_modifyHead, split, chars_cons]
    cases ends : part.isLineFeed with
    | true =>
      have feed : part.chars = ['\n'] := by
        cases part with
        | blank b => rw [of_decide_eq_true ends]; rfl
        | lexeme l => cases ends
      refine ⟨[], line :: lines, rfl, ?_, List.nil_prefix,
        List.forall_mem_cons.mpr ⟨first.isInfix.trans behind, further⟩⟩
      rw [feed, List.singleton_append, List.splitOn_cons_eq_if_modifyHead, same]
      rfl
    | false =>
      exact ⟨part :: line, lines, rfl, by rw [splitOn_append (ne_lineFeed ends) same, chars_cons],
        List.cons_prefix_cons.mpr ⟨rfl, first⟩, further⟩

variable {α : Type}

/-- A line before which no block was open has the spans of its lexemes, and leaves no block open. -/
theorem tokenizeLine_chars {parts : List Part} (divided : Divided parts) {prior : Option (LineState α)}
    (closed : prior.bind LineState.openBlock? = none) : ∃ result : LineTokens α,
      grammar.tokenizeLine (String.ofList (chars parts)) prior = .ok result ∧
      highlighted result.spans = spans 0 parts ∧ result.state = .rules none := by
  have ready : Ready [] parts := fun _ _ _ _ last => absurd last nofun
  obtain ⟨pieces, run, shown⟩ := shows divided ready
  have line : (String.ofList (chars parts)).toList = chars parts := String.toList_ofList
  have whole : grammar.lexFrom (String.ofList (chars parts)).toList 0 (prior.bind LineState.openBlock?) =
      .ok (pieces, none) := by rw [line, closed]; exact run
  refine ⟨_, (grammar.tokenizeLine_of_lexFrom whole).1, ?_, rfl⟩
  rw [line]
  exact shown

/-- One line after the other: the block that is open is what a line gets from the one above it. -/
theorem tokenizeLines_chars {lines : List (List Part)} (divided : ∀ line ∈ lines, Divided line)
    {prior : Option (LineState α)} (closed : prior.bind LineState.openBlock? = none) : ∃ results : List (LineTokens α),
      grammar.toGrammar.tokenizeLines prior (lines.map fun line => String.ofList (chars line)) = .ok results ∧
      results.map (fun result => highlighted result.spans) = lines.map (spans 0) ∧
      ∀ result ∈ results, result.state = .rules none := by
  induction lines generalizing prior with
  | nil => exact ⟨[], rfl, rfl, nofun⟩
  | cons line lines ih =>
    obtain ⟨own, others⟩ := List.forall_mem_cons.mp divided
    obtain ⟨result, head, shown, left⟩ := tokenizeLine_chars own closed
    have after : (some result.state).bind LineState.openBlock? = none := by rw [left]; rfl
    obtain ⟨results, tail, rest, states⟩ := ih others after
    exact ⟨result :: results, Grammar.tokenizeLines_cons head tail, by rw [List.map_cons, List.map_cons, shown, rest],
      List.forall_mem_cons.mpr ⟨left, states⟩⟩

/-- The JSON grammar that comes with the program finds the lexemes of every JSON text, line by line: the spans of a
second scope are those of the lexemes on the line, and of the names before colons. No line leaves a block open. -/
theorem tokenizeLines_jsonText (text : JsonText) : ∃ g, RuleGrammar.ofYaml Builtin.jsonGrammar = .ok g ∧
    ∃ results : List (LineTokens α), g.toGrammar.tokenizeLines none text.lines = .ok results ∧
      results.map (fun result => highlighted result.spans) = (text.parts.splitOnP Part.isLineFeed).map (spans 0) ∧
      ∀ result ∈ results, result.state = .rules none := by
  have divided : Divided text.parts := divided_of_apart (text.lexemes ▸ text.value.apart)
  obtain ⟨first, others, split, same, front, inner⟩ := splitOn_chars text.parts
  have lines : text.lines = (first :: others).map fun line => String.ofList (chars line) := by
    rw [JsonText.lines, same, List.map_cons, List.map_cons, List.map_map]
    rfl
  have within {line : List Part} (inText : line <:+: text.parts) : Divided line := List.IsChain.infix divided inText
  have each : ∀ line ∈ first :: others, Divided line :=
    List.forall_mem_cons.mpr ⟨within front.isInfix, fun line member => within (inner line member)⟩
  rw [lines, split]
  exact ⟨grammar, ofYaml_jsonGrammar, tokenizeLines_chars each rfl⟩

end JsonGrammar

end Highlighter
