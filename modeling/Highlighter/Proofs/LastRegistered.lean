import Highlighter.Proofs.Detection

namespace Highlighter

/-- The last element of a list that has a property. -/
def IsLast {β : Type} (p : β → Prop) (xs : List β) (x : β) : Prop :=
  ∃ before after, xs = before ++ x :: after ∧ p x ∧ ∀ y ∈ after, ¬p y

namespace IsLast

variable {β : Type} {p : β → Prop} {xs : List β} {x y : β}

theorem find?_reverse_eq_some_iff {q : β → Bool} : xs.reverse.find? q = some x ↔ IsLast (fun y => q y = true) xs x := by
  rw [List.find?_eq_some_iff_append]
  constructor
  · rintro ⟨meets, after, before, split, others⟩
    refine ⟨before.reverse, after.reverse, ?_, meets, fun y member => ?_⟩
    · simpa using congrArg List.reverse split
    · simpa using others y (List.mem_reverse.mp member)
  · rintro ⟨before, after, rfl, meets, others⟩
    exact ⟨meets, after.reverse, before.reverse, by simp, fun y member => by
      simpa using others y (List.mem_reverse.mp member)⟩

theorem unique (first : IsLast p xs x) (second : IsLast p xs y) : x = y := by
  classical
  have found {z : β} (last : IsLast p xs z) : xs.reverse.find? (fun z => decide (p z)) = some z := by
    rw [find?_reverse_eq_some_iff]
    simpa only [decide_eq_true_eq] using last
  exact Option.some.inj ((found first).symm.trans (found second))

theorem not_forall (last : IsLast p xs x) : ¬∀ y ∈ xs, ¬p y := by
  obtain ⟨before, after, rfl, meets, _⟩ := last
  exact fun none_ => none_ x (by simp) meets

end IsLast

/-- A language as it is registered. -/
structure Language where
  name : String
  scope : String
  fileTypes : List String

namespace Language

/-- Whether the language is for files with an extension, in whatever letter case. -/
def Claims (language : Language) (extension : String) : Prop :=
  ∃ type ∈ language.fileTypes, Unicode.lowerCase type = Unicode.lowerCase extension

/-- Whether the language has a name, in whatever letter case. -/
def HasName (language : Language) (name : String) : Prop := Unicode.lowerCase language.name = Unicode.lowerCase name

/-- A definition of the language that has no rules. -/
def definition (language : Language) : GrammarDefinition :=
  ⟨language.name, language.scope, language.fileTypes, []⟩

end Language

namespace Languages

/-- The known extensions, and some languages registered after each other. -/
def registerAll (calls : List Language) : Languages :=
  calls.foldl (fun languages language => languages.register language.name language.scope language.fileTypes) known

variable (calls : List Language)

/-- The answer to what language a file is in: the name, in lower case, of the last language for its extension, and of a
known one if there is none. -/
inductive LanguageOf (path : String) : Except LanguageError String → Prop
  | claimed {extension language} : Path.extension? path = some extension →
      IsLast (·.Claims extension) calls language → LanguageOf path (.ok (Unicode.lowerCase language.name))
  | known {extension name} : Path.extension? path = some extension → (∀ language ∈ calls, ¬language.Claims extension) →
      (Unicode.lowerCase extension, name) ∈ knownExtensions → LanguageOf path (.ok name)
  | unknown : (∀ extension, Path.extension? path = some extension → (∀ language ∈ calls, ¬language.Claims extension) ∧
      ∀ name, (Unicode.lowerCase extension, name) ∉ knownExtensions) → LanguageOf path (.error (.unknownExtension path))

/-- The answer to what scope a language has: that of the last language with its name. -/
inductive ScopeOf (name : String) : Except LanguageError String → Prop
  | named {language} : IsLast (·.HasName name) calls language → ScopeOf name (.ok language.scope)
  | unnamed : (∀ language ∈ calls, ¬language.HasName name) → ScopeOf name (.error (.unknownLanguage name))

/-- The answer to what scope a file has. Nothing is asked of the language with the right name but its scope: it need not
be for the extension. -/
inductive ScopeOfPath (path : String) : Except LanguageError String → Prop
  | named {name language} : LanguageOf calls path (.ok name) →
      IsLast (fun language => Unicode.lowerCase language.name = name) calls language →
      ScopeOfPath path (.ok language.scope)
  | unnamed {name} : LanguageOf calls path (.ok name) → (∀ language ∈ calls, Unicode.lowerCase language.name ≠ name) →
      ScopeOfPath path (.error (.unknownLanguage name))
  | unknown {problem} : LanguageOf calls path (.error problem) → ScopeOfPath path (.error problem)

variable {calls}

theorem registerAll_eq (calls : List Language) : registerAll calls = ofDefinitions (calls.map Language.definition) := by
  rw [ofDefinitions, List.foldl_map]
  rfl

theorem isFor_definition (language : Language) (extension : String) :
    language.definition.isFor (Unicode.lowerCase extension) = true ↔ language.Claims extension := by
  simp only [GrammarDefinition.isFor, Language.definition, decide_eq_true_eq, List.mem_map, Language.Claims]

theorem isNamed_definition (language : Language) (name : String) :
    language.definition.isNamed name = true ↔ Unicode.lowerCase language.name = name := by
  exact decide_eq_true_iff

/-- A search among definitions is one among the languages that they are of. -/
theorem findLast_definition (calls : List Language) (q : GrammarDefinition → Bool) {p : Language → Prop}
    (same : ∀ language, q (Language.definition language) = true ↔ p language) :
    (∃ language, (calls.map Language.definition).reverse.find? q = some language.definition ∧
      IsLast p calls language) ∨
      (calls.map Language.definition).reverse.find? q = none ∧ ∀ language ∈ calls, ¬p language := by
  rw [← List.map_reverse, List.find?_map]
  rcases last : calls.reverse.find? (q ∘ Language.definition) with _ | language
  · refine .inr ⟨rfl, fun language member => ?_⟩
    rw [← same]
    exact List.find?_eq_none.mp last language (List.mem_reverse.mpr member)
  · refine .inl ⟨language, rfl, ?_⟩
    simpa only [Function.comp_apply, same] using IsLast.find?_reverse_eq_some_iff.mp last

theorem languageOf_ofPath (calls : List Language) (path : String) :
    LanguageOf calls path ((registerAll calls).ofPath path) := by
  rw [registerAll_eq]
  rcases known : Path.extension? path with _ | extension
  · have answer : (ofDefinitions (calls.map Language.definition)).ofPath path = .error (.unknownExtension path) := by
      rw [ofPath, known]
      rfl
    rw [answer]
    refine .unknown fun extension found => ?_
    cases known.symm.trans found
  · rw [ofPath_eq known, languageFor]
    rcases findLast_definition calls (·.isFor _) fun language => isFor_definition language extension with
      ⟨language, found, last⟩ | ⟨found, unclaimed⟩
    · rw [found]
      exact .claimed known last
    · rw [found]
      rcases table : knownExtensions.lookup (Unicode.lowerCase extension) with _ | name
      · refine .unknown fun other again => ?_
        cases known.symm.trans again
        refine ⟨unclaimed, fun name member => ?_⟩
        rw [(Table.lookup_eq_some_iff_mem distinct_knownExtensions).mpr member] at table
        cases table
      · exact .known known unclaimed ((Table.lookup_eq_some_iff_mem distinct_knownExtensions).mp table)

theorem scopeOf_scopeOf (calls : List Language) (name : String) :
    ScopeOf calls name ((registerAll calls).scopeOf name) := by
  rw [registerAll_eq, scopeOf_eq, scopeFor]
  rcases findLast_definition calls (·.isNamed _) fun language => isNamed_definition language _ with
    ⟨language, found, last⟩ | ⟨found, unnamed⟩
  · rw [found]
    exact .named last
  · rw [found]
    exact .unnamed unnamed

/-- The language that is found for a path is in lower case, so it is found again under its own name. -/
theorem LanguageOf.lowerCase_eq {path name : String} (language : LanguageOf calls path (.ok name)) :
    Unicode.lowerCase name = name := by
  cases language with
  | claimed => exact Unicode.lowerCase_lowerCase _
  | known _ _ table => exact lowerCase_known ((Table.lookup_eq_some_iff_mem distinct_knownExtensions).mpr table)

theorem scopeOfPath_scopeOfPath (calls : List Language) (path : String) :
    ScopeOfPath calls path ((registerAll calls).scopeOfPath path) := by
  have language := languageOf_ofPath calls path
  rw [scopeOfPath]
  generalize (registerAll calls).ofPath path = answer at language
  rcases answer with problem | name
  · exact .unknown language
  · have scope := scopeOf_scopeOf calls name
    have lower := language.lowerCase_eq
    rw [ok_bind]
    generalize (registerAll calls).scopeOf name = answer at scope
    cases scope with
    | named last =>
      simp only [Language.HasName, lower] at last
      exact .named language last
    | unnamed none_ =>
      simp only [Language.HasName, lower] at none_
      exact .unnamed language none_

theorem LanguageOf.unique {path : String} {first second : Except LanguageError String}
    (one : LanguageOf calls path first) (other : LanguageOf calls path second) : first = second := by
  cases one with
  | claimed known last =>
    cases other with
    | claimed again also =>
      cases known.symm.trans again
      rw [last.unique also]
    | known again unclaimed _ =>
      cases known.symm.trans again
      exact absurd unclaimed last.not_forall
    | unknown nothing => exact absurd (nothing _ known).1 last.not_forall
  | known known unclaimed table =>
    cases other with
    | claimed again last =>
      cases known.symm.trans again
      exact absurd unclaimed last.not_forall
    | known again _ entry =>
      cases known.symm.trans again
      rw [← Table.lookup_eq_some_iff_mem distinct_knownExtensions] at table entry
      rw [Option.some.inj (table.symm.trans entry)]
    | unknown nothing => exact absurd table ((nothing _ known).2 _)
  | unknown nothing =>
    cases other with
    | claimed known last => exact absurd (nothing _ known).1 last.not_forall
    | known known _ table => exact absurd table ((nothing _ known).2 _)
    | unknown _ => rfl

theorem ScopeOf.unique {name : String} {first second : Except LanguageError String} (one : ScopeOf calls name first)
    (other : ScopeOf calls name second) : first = second := by
  cases one with
  | named last =>
    cases other with
    | named also => rw [last.unique also]
    | unnamed none_ => exact absurd none_ last.not_forall
  | unnamed none_ =>
    cases other with
    | named last => exact absurd none_ last.not_forall
    | unnamed _ => rfl

theorem ScopeOfPath.unique {path : String} {first second : Except LanguageError String}
    (one : ScopeOfPath calls path first) (other : ScopeOfPath calls path second) : first = second := by
  cases one with
  | named language last =>
    cases other with
    | named again also =>
      cases language.unique again
      rw [last.unique also]
    | unnamed again none_ =>
      cases language.unique again
      exact absurd none_ last.not_forall
    | unknown again => cases language.unique again
  | unnamed language none_ =>
    cases other with
    | named again last =>
      cases language.unique again
      exact absurd none_ last.not_forall
    | unnamed again _ => cases language.unique again; rfl
    | unknown again => cases language.unique again
  | unknown language =>
    cases other with
    | named again _ => cases language.unique again
    | unnamed again _ => cases language.unique again
    | unknown again => cases language.unique again; rfl

/-- Whatever languages have been registered, in whatever order and overlap, each lookup gives the one answer that the
last of them for an extension, or with a name, makes right. -/
theorem answers_of_last (calls : List Language) :
    (∀ path answer, (registerAll calls).ofPath path = answer ↔ LanguageOf calls path answer) ∧
      (∀ name answer, (registerAll calls).scopeOf name = answer ↔ ScopeOf calls name answer) ∧
      ∀ path answer, (registerAll calls).scopeOfPath path = answer ↔ ScopeOfPath calls path answer := by
  refine ⟨fun path answer => ⟨?_, fun right => ?_⟩, fun name answer => ⟨?_, fun right => ?_⟩,
    fun path answer => ⟨?_, fun right => ?_⟩⟩
  · rintro rfl
    exact languageOf_ofPath calls path
  · exact (languageOf_ofPath calls path).unique right
  · rintro rfl
    exact scopeOf_scopeOf calls name
  · exact (scopeOf_scopeOf calls name).unique right
  · rintro rfl
    exact scopeOfPath_scopeOfPath calls path
  · exact (scopeOfPath_scopeOfPath calls path).unique right

end Languages

end Highlighter
