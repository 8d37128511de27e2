import Highlighter.Proofs.Languages
import Highlighter.Proofs.LowerCase

namespace Highlighter

variable {α : Type}

namespace Catalogue

theorem register_comm (c : Catalogue α) {d e : GrammarDefinition} (apart : d.scope ≠ e.scope) :
    (c.register d).register e = (c.register e).register d := by
  simp only [register, Table.insert_comm c.definitions apart, Table.erase_comm _ d.scope]

/-- Definitions of different scopes can be registered in any order. -/
theorem registerAll_perm (c : Catalogue α) {definitions others : List GrammarDefinition}
    (order : others.Perm definitions) (apart : (definitions.map GrammarDefinition.scope).Nodup) :
    others.foldl register c = definitions.foldl register c := by
  have different := List.inj_on_of_nodup_map apart
  refine order.foldl_eq' (fun d first e second c => ?_) c
  by_cases same : d.scope = e.scope
  · rw [different (order.mem_iff.mp first) (order.mem_iff.mp second) same]
  · exact c.register_comm same

end Catalogue

namespace Languages

variable {definitions : List GrammarDefinition} {path extension name scope : String}

theorem ofPath_eq (known : Path.extension? path = some extension) :
    (ofDefinitions definitions).ofPath path =
      ((languageFor definitions (Unicode.lowerCase extension)).elim (.error (.unknownExtension path)) .ok) := by
  simp only [ofPath, known, Option.bind_some, get?_extensions]
  cases languageFor definitions (Unicode.lowerCase extension) <;> rfl

theorem scopeOf_eq (definitions : List GrammarDefinition) (name : String) :
    (ofDefinitions definitions).scopeOf name =
      (scopeFor definitions name).elim (.error (.unknownLanguage name)) .ok := by
  simp only [scopeOf, get?_scopes]
  cases scopeFor definitions name <;> rfl

theorem scopeOfPath_eq (found : (ofDefinitions definitions).ofPath path = .ok name) :
    (ofDefinitions definitions).scopeOfPath path = (ofDefinitions definitions).scopeOf name := by
  rw [scopeOfPath, found, ok_bind]

theorem lowerCase_known (found : knownExtensions.lookup extension = some name) : Unicode.lowerCase name = name := by
  have all : ∀ entry ∈ knownExtensions, Unicode.lowerCase entry.2 = entry.2 := by decide +kernel
  exact all _ ((Table.lookup_eq_some_iff_mem distinct_knownExtensions).mp found)

/-- Of several elements at most one of which will do, the one that does is found. -/
theorem findLast_of_mem {β : Type} {p : β → Bool} {xs : List β} {x : β} (member : x ∈ xs) (meets : p x = true)
    (unique : ∀ {y}, y ∈ xs → p y = true → y = x) : xs.reverse.find? p = some x := by
  rcases found : xs.reverse.find? p with _ | y
  · exact absurd meets (List.find?_eq_none.mp found x (List.mem_reverse.mpr member))
  · have known := List.mem_reverse.mp (List.mem_of_find?_eq_some found)
    rw [unique known (List.find?_some found)]

namespace Unshared

variable (unshared : Unshared definitions)

include unshared

section Order

variable {others : List GrammarDefinition} (order : others.Perm definitions)

include order

theorem ofPath_perm (path : String) : (ofDefinitions others).ofPath path = (ofDefinitions definitions).ofPath path := by
  simp only [ofPath, get?_extensions, unshared.languageFor_perm order]

theorem scopeOf_perm (name : String) :
    (ofDefinitions others).scopeOf name = (ofDefinitions definitions).scopeOf name := by
  simp only [scopeOf, get?_scopes, unshared.scopeFor_perm order]

end Order

variable {d : GrammarDefinition} (member : d ∈ definitions)

include member

/-- A definition is found by its name in any letter case. -/
theorem scopeOf_named (named : Unicode.lowerCase name = Unicode.lowerCase d.name) :
    (ofDefinitions definitions).scopeOf name = .ok d.scope := by
  have found : definitions.reverse.find? (·.isNamed (Unicode.lowerCase name)) = some d :=
    findLast_of_mem member (decide_eq_true named.symm) fun other also =>
      unshared.name other member ((of_decide_eq_true also).trans named)
  rw [scopeOf_eq, scopeFor, found]
  rfl

/-- A definition is found by each of its file types in any letter case. -/
theorem ofPath_claimed (known : Path.extension? path = some extension)
    (claims : d.isFor (Unicode.lowerCase extension)) :
    (ofDefinitions definitions).ofPath path = .ok (Unicode.lowerCase d.name) := by
  have found : definitions.reverse.find? (·.isFor (Unicode.lowerCase extension)) = some d :=
    findLast_of_mem member claims fun other also => unshared.type other member also claims
  rw [ofPath_eq known, languageFor, found]
  rfl

theorem scopeOfPath_claimed (known : Path.extension? path = some extension)
    (claims : d.isFor (Unicode.lowerCase extension)) :
    (ofDefinitions definitions).scopeOfPath path = .ok d.scope := by
  rw [scopeOfPath_eq (unshared.ofPath_claimed member known claims)]
  exact unshared.scopeOf_named member (Unicode.lowerCase_lowerCase d.name)

end Unshared

/-- An extension that no definition is for has the language that is known for it, if any. -/
theorem ofPath_unclaimed (known : Path.extension? path = some extension)
    (unclaimed : ∀ d ∈ definitions, ¬d.isFor (Unicode.lowerCase extension)) :
    (ofDefinitions definitions).ofPath path =
      (knownExtensions.lookup (Unicode.lowerCase extension)).elim (.error (.unknownExtension path)) .ok := by
  have nothing : definitions.reverse.find? (·.isFor (Unicode.lowerCase extension)) = none :=
    List.find?_eq_none.mpr fun d member => unclaimed d (List.mem_reverse.mp member)
  rw [ofPath_eq known, languageFor, nothing]
  rfl

theorem scopeOf_unnamed (unnamed : ∀ d ∈ definitions, Unicode.lowerCase d.name ≠ Unicode.lowerCase name) :
    (ofDefinitions definitions).scopeOf name = .error (.unknownLanguage name) := by
  have nothing : definitions.reverse.find? (·.isNamed (Unicode.lowerCase name)) = none :=
    List.find?_eq_none.mpr fun d member => by
      simpa [GrammarDefinition.isNamed] using unnamed d (List.mem_reverse.mp member)
  rw [scopeOf_eq, scopeFor, nothing]
  rfl

/-- Languages that answer the same for every path and every name. -/
structure Alike (languages others : Languages) : Prop where
  ofPath : ∀ path, languages.ofPath path = others.ofPath path
  scopeOf : ∀ name, languages.scopeOf name = others.scopeOf name
  scopeOfPath : ∀ path, languages.scopeOfPath path = others.scopeOfPath path

theorem Unshared.alike (unshared : Unshared definitions) {others : List GrammarDefinition}
    (order : others.Perm definitions) : Alike (ofDefinitions others) (ofDefinitions definitions) where
  ofPath := unshared.ofPath_perm order
  scopeOf := unshared.scopeOf_perm order
  scopeOfPath := unshared.scopeOfPath_perm order

/-- What the languages of some definitions answer. -/
structure Answers (languages : Languages) (definitions : List GrammarDefinition) : Prop where
  /-- Every definition is found by its name. -/
  named : ∀ d ∈ definitions, ∀ name, Unicode.lowerCase name = Unicode.lowerCase d.name →
    languages.scopeOf name = .ok d.scope
  /-- Every definition is found by its file types, even those with a known language. -/
  claimed : ∀ d ∈ definitions, ∀ path extension, Path.extension? path = some extension →
    Unicode.lowerCase extension ∈ d.fileTypes.map Unicode.lowerCase →
    languages.ofPath path = .ok (Unicode.lowerCase d.name) ∧ languages.scopeOfPath path = .ok d.scope
  /-- Any other extension has its known language, for which a definition may have the name. -/
  unclaimed : ∀ path extension name, Path.extension? path = some extension →
    (∀ d ∈ definitions, Unicode.lowerCase extension ∉ d.fileTypes.map Unicode.lowerCase) →
    knownExtensions.lookup (Unicode.lowerCase extension) = some name →
    languages.ofPath path = .ok name ∧
      (∀ d ∈ definitions, Unicode.lowerCase d.name = name → languages.scopeOfPath path = .ok d.scope) ∧
      ((∀ d ∈ definitions, Unicode.lowerCase d.name ≠ name) →
        languages.scopeOfPath path = .error (.unknownLanguage name))

theorem Unshared.answers (unshared : Unshared definitions) : (ofDefinitions definitions).Answers definitions where
  named _ member _ same := unshared.scopeOf_named member same
  claimed _ member _ _ known claims :=
    ⟨unshared.ofPath_claimed member known (decide_eq_true claims),
      unshared.scopeOfPath_claimed member known (decide_eq_true claims)⟩
  unclaimed := by
    intro path extension name known unclaimed table
    have language : (ofDefinitions definitions).ofPath path = .ok name := by
      rw [ofPath_unclaimed known (by simpa [GrammarDefinition.isFor] using unclaimed), table]
      rfl
    have lower := lowerCase_known table
    refine ⟨language, fun d member same => ?_, fun unnamed => ?_⟩
    · rw [scopeOfPath_eq language]
      exact unshared.scopeOf_named member (lower.trans same.symm)
    · rw [scopeOfPath_eq language]
      exact scopeOf_unnamed (lower.symm ▸ unnamed)

/-- Where the definitions of a catalogue share neither a name nor a file type, its languages answer the same for every
path and every name, in whatever order the definitions are listed or have been registered. -/
theorem answers_in_any_order {c : Catalogue α} (unshared : Unshared c.definitions.values)
    {order other : List GrammarDefinition} (listed : order.Perm c.definitions.values)
    (relisted : other.Perm c.definitions.values) :
    Alike (ofDefinitions order) (ofDefinitions other) ∧
    (∀ (start : Catalogue α) (registered again : List GrammarDefinition),
      registered.foldl Catalogue.register start = c → again.Perm registered →
      (registered.map GrammarDefinition.scope).Nodup →
      Alike (ofCatalogue (again.foldl Catalogue.register start)) (ofCatalogue c)) ∧
    (ofDefinitions order).Answers c.definitions.values := by
  have first := unshared.alike listed
  have second := unshared.alike relisted
  refine ⟨⟨fun path => ?_, fun name => ?_, fun path => ?_⟩, fun start registered again made shuffled apart => ?_, ?_⟩
  · rw [first.ofPath, second.ofPath]
  · rw [first.scopeOf, second.scopeOf]
  · rw [first.scopeOfPath, second.scopeOfPath]
  · rw [Catalogue.registerAll_perm start shuffled apart, made]
    exact unshared.alike (List.Perm.refl _)
  · have answers := unshared.answers
    refine ⟨fun d member name => ?_, fun d member path => ?_, fun path => ?_⟩
    · rw [first.scopeOf]
      exact answers.named d member name
    · rw [first.ofPath, first.scopeOfPath]
      exact answers.claimed d member path
    · rw [first.ofPath, first.scopeOfPath]
      exact answers.unclaimed path

/-- Two definitions, one with letters beyond ASCII in its name and one for files that are known to be in another
language. -/
def workbench : List GrammarDefinition :=
  [⟨"\u212bngström", "source.angstrom", ["\u00c5", "RS"], []⟩, ⟨"Css", "source.css", ["scss"], []⟩]

def workbenchCatalogue : Catalogue Nat := workbench.foldl Catalogue.register {}

theorem unshared_workbench : Unshared workbenchCatalogue.definitions.values := by
  have names : ∀ d ∈ workbenchCatalogue.definitions.values, ∀ e ∈ workbenchCatalogue.definitions.values,
      Unicode.lowerCase d.name = Unicode.lowerCase e.name → d = e := by decide +kernel
  have types : ∀ d ∈ workbenchCatalogue.definitions.values, ∀ e ∈ workbenchCatalogue.definitions.values,
      ∀ t ∈ d.fileTypes.map Unicode.lowerCase, t ∈ e.fileTypes.map Unicode.lowerCase → d = e := by decide +kernel
  exact ⟨fun first second => names _ first _ second, fun first second claims also =>
    types _ first _ second _ (of_decide_eq_true claims) (of_decide_eq_true also)⟩

theorem answers_in_any_order_workbench :
    Alike (ofDefinitions workbench) (ofDefinitions workbench.reverse) ∧
      Alike (ofCatalogue (workbench.reverse.foldl Catalogue.register ({} : Catalogue Nat)))
        (ofCatalogue workbenchCatalogue) ∧
      (ofDefinitions workbench).scopeOf "\u00c5NGSTRÖM" = .ok "source.angstrom" ∧
      (ofDefinitions workbench).scopeOfPath "main.rs" = .ok "source.angstrom" ∧
      (ofDefinitions workbench).scopeOfPath "a.CSS" = .ok "source.css" ∧
      (ofDefinitions workbench).scopeOfPath "a.c" = .error (.unknownLanguage "c") := by
  have listed : workbench.Perm workbenchCatalogue.definitions.values := by decide +kernel
  have relisted : workbench.reverse.Perm workbenchCatalogue.definitions.values := by decide +kernel
  have apart : (workbench.map GrammarDefinition.scope).Nodup := by decide +kernel
  obtain ⟨alike, registering, answers⟩ := answers_in_any_order unshared_workbench listed relisted
  have angstrom : workbench[0] ∈ workbenchCatalogue.definitions.values := by decide +kernel
  have css : workbench[1] ∈ workbenchCatalogue.definitions.values := by decide +kernel
  have claimed := answers.claimed _ angstrom "main.rs" "rs" (by decide +kernel) (by decide +kernel)
  have style := answers.unclaimed "a.CSS" "CSS" "css" (by decide +kernel) (by decide +kernel) (by decide +kernel)
  have source := answers.unclaimed "a.c" "c" "c" (by decide +kernel) (by decide +kernel) (by decide +kernel)
  exact ⟨alike, registering {} workbench _ rfl (List.reverse_perm _) apart,
    answers.named _ angstrom _ (by decide +kernel), claimed.2, style.2.1 _ css (by decide +kernel),
    source.2.2 (by decide +kernel)⟩

end Languages

end Highlighter
