import Highlighter.CommandLine.Run
import Highlighter.Proofs.Languages
import Highlighter.Proofs.Pieces
import Highlighter.Proofs.Requests
import Highlighter.Proofs.Sources

namespace Highlighter.CommandLine

/-- The lines of a text. Each ends in a line feed, with or without a carriage return before it, and the last one may end
with the text, if there is anything in it. -/
inductive Lines : List Char → List String → Prop
  | none : Lines [] []
  | last {line} : line ≠ [] → '\n' ∉ line → Lines line [String.ofList line]
  | feed {line rest lines} : '\n' ∉ line → line.getLast? ≠ some '\r' → Lines rest lines →
      Lines (line ++ '\n' :: rest) (String.ofList line :: lines)
  | returnFeed {line rest lines} : '\n' ∉ line → Lines rest lines →
      Lines (line ++ '\r' :: '\n' :: rest) (String.ofList line :: lines)

theorem linesFrom_append {line : List Char} (within : '\n' ∉ line) (back rest : List Char) :
    linesFrom back (line ++ rest) = linesFrom (line.reverse ++ back) rest := by
  induction line generalizing back with
  | nil => rfl
  | cons c line ih =>
    have other : c ≠ '\n' := fun same => within (same ▸ List.mem_cons_self)
    rw [List.cons_append, linesFrom, ih fun later => within (List.mem_cons_of_mem _ later)]
    · simp
    · exact other

theorem lines_linesFrom {back : List Char} (within : '\n' ∉ back) (text : List Char) :
    Lines (back.reverse ++ text) (linesFrom back text) := by
  induction text generalizing back with
  | nil =>
    rcases back with _ | ⟨final, back⟩
    · exact .none
    · rw [List.append_nil]
      exact .last (by simp) (mt List.mem_reverse.mp within)
  | cons c text ih =>
    by_cases feed : c = '\n'
    · subst feed
      have rest : Lines text (linesFrom [] text) := ih List.not_mem_nil
      rcases back with _ | ⟨final, back⟩
      · exact .feed within (by simp) rest
      · have before : '\n' ∉ back.reverse := by simp_all
        by_cases returned : final = '\r'
        · subst returned
          simpa [linesFrom] using Lines.returnFeed before rest
        · have line : '\n' ∉ back.reverse ++ [final] := by simp_all
          simpa [linesFrom, returned] using Lines.feed line (by simpa using returned) rest
    · have line : '\n' ∉ c :: back := by simp_all [eq_comm]
      rw [linesFrom]
      · simpa using ih line
      · exact feed

theorem linesFrom_of_lines {text : List Char} {lines : List String} (split : Lines text lines) :
    linesFrom [] text = lines := by
  induction split with
  | none => rfl
  | @last line some_ within =>
    have whole := linesFrom_append within [] []
    rw [List.append_nil, List.append_nil] at whole
    rw [whole, linesFrom]
    simp [some_]
  | @feed line rest lines within noReturn _ ih =>
    rw [linesFrom_append within, List.append_nil, linesFrom, ih]
    · simp
    · intro more reversed
      refine noReturn ?_
      rw [← List.head?_reverse, reversed]
      rfl
  | @returnFeed line rest lines within _ ih =>
    rw [linesFrom_append within, List.append_nil]
    simp [linesFrom, ih]

/-- A file is read as its lines. -/
theorem lines_iff {text : String} {lines : List String} : Lines text.toList lines ↔ linesOf text = lines :=
  ⟨linesFrom_of_lines, fun same => same ▸ lines_linesFrom List.not_mem_nil text.toList⟩

example : linesOf "a\x0d\n\nb\x0d" = ["a", "", "b\x0d"] := by decide

/-- The scope that the arguments name, or else the one that is registered for the extension of the file. -/
def Arguments.scopeAmong (arguments : Arguments) (definitions : List GrammarDefinition) : Option String :=
  arguments.scope.or (Languages.scopeForPath definitions arguments.path)

theorem toOption_chooseScope {α : Type} (arguments : Arguments) (c : Catalogue α) (listing : Listing) :
    (arguments.chooseScope c listing).toOption = arguments.scopeAmong (listing.arrange c.definitions.values) := by
  unfold Arguments.chooseScope Arguments.scopeAmong
  rcases arguments.scope with _ | given
  · rw [Languages.ofCatalogue, Languages.toOption_scopeOfPath]
    rfl
  · rfl

theorem scopeAmong_perm {definitions others : List GrammarDefinition} (unshared : Languages.Unshared definitions)
    (order : others.Perm definitions) (arguments : Arguments) :
    arguments.scopeAmong others = arguments.scopeAmong definitions := by
  rw [Arguments.scopeAmong, unshared.scopeForPath_perm order, Arguments.scopeAmong]

/-- A file is a text if its bytes are. -/
def IsText (files : FileView) (path text : String) : Prop :=
  ∃ bytes, files.read path = .ok bytes ∧ String.fromUTF8? bytes = some text

section Outcomes

variable (arguments : Arguments) (files : FileView) (supplied definitions : List GrammarDefinition)

/-- A run fails without a scope, without a text, and without a grammar if there are lines that need one. -/
inductive Fails : Prop
  | noScope : arguments.scopeAmong definitions = none → Fails
  | noText : (∀ text, ¬IsText files arguments.path text) → Fails
  | noGrammar {scope text lines} : arguments.scopeAmong definitions = some scope →
      IsText files arguments.path text → Lines text.toList lines → lines ≠ [] →
      (∀ definition rules, lastWith scope supplied = some definition → definition.compile ≠ .ok rules) → Fails

/-- The tokens of the file: those of its lines from scratch, with the last definition of the scope. -/
inductive Finds : List Token → Prop
  | nothing {scope text} : arguments.scopeAmong definitions = some scope → IsText files arguments.path text →
      Lines text.toList [] → Finds []
  | tokens {scope text lines definition rules results} : arguments.scopeAmong definitions = some scope →
      IsText files arguments.path text → Lines text.toList lines → lastWith scope supplied = some definition →
      definition.compile = .ok rules → (rules.toGrammar : Grammar Empty).scratch 0 none lines = .ok results →
      Finds (results.flatMap Prod.fst)

end Outcomes

variable {arguments : Arguments} {files : FileView} {supplied definitions : List GrammarDefinition}

theorem isText_iff {path text : String} : IsText files path text ↔ files.readText path = .ok text :=
  FileView.readText_eq_ok.symm

theorem isText_of_read {path text : String} (read : files.read path = .ok text.toUTF8) : IsText files path text :=
  ⟨_, read, fromUTF8?_toUTF8 text⟩

theorem IsText.unique {path text other : String} (first : IsText files path text) (second : IsText files path other) :
    text = other :=
  Except.ok.inj ((isText_iff.mp first).symm.trans (isText_iff.mp second))

theorem Lines.unique {text : String} {lines others : List String} (first : Lines text.toList lines)
    (second : Lines text.toList others) : lines = others :=
  (lines_iff.mp first).symm.trans (lines_iff.mp second)

/-- A file comes to the same tokens whenever it comes to any. -/
theorem Finds.unique {tokens others : List Token} (first : Finds arguments files supplied definitions tokens)
    (second : Finds arguments files supplied definitions others) : tokens = others := by
  cases first with
  | nothing _ isText empty =>
    cases second with
    | nothing _ _ _ => rfl
    | tokens _ again lines _ _ made =>
      obtain rfl := isText.unique again
      obtain rfl := empty.unique lines
      cases made
      rfl
  | tokens chosen isText lines last compiled made =>
    cases second with
    | nothing _ again empty =>
      obtain rfl := isText.unique again
      obtain rfl := lines.unique empty
      cases made
      rfl
    | tokens other again sameLines sameLast sameRules remade =>
      cases other.symm.trans chosen
      obtain rfl := isText.unique again
      obtain rfl := lines.unique sameLines
      cases sameLast.symm.trans last
      cases sameRules.symm.trans compiled
      cases remade.symm.trans made
      rfl

/-- No run both fails and finds tokens. -/
theorem Finds.not_fails {tokens : List Token} (finds : Finds arguments files supplied definitions tokens) :
    ¬Fails arguments files supplied definitions := by
  intro fails
  cases finds with
  | nothing chosen isText empty =>
    cases fails with
    | noScope none_ => cases none_.symm.trans chosen
    | noText never => exact never _ isText
    | noGrammar _ again lines some_ _ =>
      obtain rfl := isText.unique again
      exact some_ (lines.unique empty)
  | tokens chosen isText _ last compiled _ =>
    cases fails with
    | noScope none_ => cases none_.symm.trans chosen
    | noText never => exact never _ isText
    | noGrammar other _ _ _ never =>
      cases other.symm.trans chosen
      exact never _ _ last compiled

/-- A run either finds the tokens of its file or fails, and nothing goes wrong in it. -/
theorem tokens_cases (files : FileView) {c : Catalogue Empty} {listing : Listing}
    (coherent : c.Coherent (supplied.map .written))
    (chosen : (arguments.chooseScope c listing).toOption = arguments.scopeAmong definitions) :
    (∃ tokens, arguments.tokens c files listing = .ok tokens ∧ Finds arguments files supplied definitions tokens) ∨
      ∃ problem, arguments.tokens c files listing = .error problem ∧ Fails arguments files supplied definitions ∧
        ∀ fault, problem ≠ .fault fault := by
  unfold Arguments.tokens
  -- a scope is chosen first, then the file is read, and a grammar is loaded only where there are lines
  rcases choice : arguments.chooseScope c listing with problem | scope
  · rw [choice] at chosen
    exact .inr ⟨.language problem, rfl, .noScope chosen.symm, fun _ => nofun⟩
  rcases read : files.readText arguments.path with problem | text
  · refine .inr ⟨.unreadable arguments.path problem, rfl, .noText fun text isText => ?_, fun _ => nofun⟩
    cases read.symm.trans (isText_iff.mp isText)
  rw [choice] at chosen
  have isText := isText_iff.mpr read
  have lines : Lines text.toList (linesOf text) := lines_iff.mpr rfl
  simp only [Except.mapError, ok_bind]
  generalize linesOf text = all at lines ⊢
  rcases all with _ | ⟨line, rest⟩
  · exact .inl ⟨[], rfl, .nothing chosen.symm isText lines⟩
  rcases load : Catalogue.loader.load c scope with ⟨problem | grammar, after⟩
  · have failed : ∀ definition rules, lastWith scope supplied = some definition → definition.compile ≠ .ok rules := by
      intro definition rules last compiled
      have loaded := coherent.load_eq_ok.mpr ⟨definition, rules, last, compiled, rfl⟩
      cases (congrArg Prod.fst load).symm.trans loaded
    refine .inr ⟨.grammar problem, ?_, .noGrammar chosen.symm isText lines nofun failed, fun _ => nofun⟩
    rw [Tokenizer.parse_failed rfl load]
    rfl
  · obtain ⟨definition, rules, last, compiled, rfl⟩ := coherent.load_eq_ok.mp (congrArg Prod.fst load)
    obtain ⟨results, made⟩ := rules.inLine_toGrammar.scratch_total 0 none (line :: rest)
    refine .inl ⟨_, ?_, .tokens chosen.symm isText lines last compiled made⟩
    rw [Tokenizer.parse_ok_iff.mpr (.tokenized rfl load made)]
    rfl

end Highlighter.CommandLine
