import Mathlib.Data.List.Perm.Basic
import Highlighter.Language
import Highlighter.Proofs.Except
import Highlighter.Proofs.Tables

namespace Highlighter

/-- Whether a definition is for files with an extension that is given in lower case. -/
def GrammarDefinition.isFor (definition : GrammarDefinition) (extension : String) : Bool :=
  decide (extension ∈ definition.fileTypes.map Unicode.lowerCase)

/-- Whether a definition has a name that is given in lower case. -/
def GrammarDefinition.isNamed (definition : GrammarDefinition) (name : String) : Bool :=
  decide (Unicode.lowerCase definition.name = name)

namespace Languages

/-- The language of an extension in lower case: that of the last definition for such files, or else a known one. -/
def languageFor (definitions : List GrammarDefinition) (extension : String) : Option String :=
  ((definitions.reverse.find? (·.isFor extension)).map fun definition => Unicode.lowerCase definition.name).or
    (knownExtensions.lookup extension)

/-- The scope of the last definition with a name. -/
def scopeFor (definitions : List GrammarDefinition) (name : String) : Option String :=
  (definitions.reverse.find? (·.isNamed (Unicode.lowerCase name))).map GrammarDefinition.scope

/-- The scope that is registered for the extension of a path. -/
def scopeForPath (definitions : List GrammarDefinition) (path : String) : Option String := do
  let extension ← Path.extension? path
  let language ← languageFor definitions (Unicode.lowerCase extension)
  scopeFor definitions language

theorem get?_addTypes (types : List String) (table : Table String String) (name extension : String) :
    (types.foldl (fun table type => table.insert (Unicode.lowerCase type) name) table).get? extension =
      if extension ∈ types.map Unicode.lowerCase then some name else table.get? extension := by
  induction types generalizing table with
  | nil => rfl
  | cons type types ih =>
    rw [List.foldl_cons, ih, Table.get?_insert, List.map_cons]
    simp only [List.mem_cons]
    by_cases later : extension ∈ types.map Unicode.lowerCase <;> by_cases here : extension = Unicode.lowerCase type <;>
      simp [later, here]

theorem extensions_register (languages : Languages) (definition : GrammarDefinition) (extension : String) :
    (languages.register definition.name definition.scope definition.fileTypes).extensions.get? extension =
      if definition.isFor extension then some (Unicode.lowerCase definition.name)
      else languages.extensions.get? extension := by
  rw [register, get?_addTypes]
  simp only [GrammarDefinition.isFor, decide_eq_true_eq]

theorem scopes_register (languages : Languages) (definition : GrammarDefinition) (name : String) :
    (languages.register definition.name definition.scope definition.fileTypes).scopes.get? name =
      if definition.isNamed name then some definition.scope else languages.scopes.get? name := by
  rw [register, Table.get?_insert]
  simp only [GrammarDefinition.isNamed, decide_eq_true_eq, eq_comm (a := name)]

/-- What is known after some definitions have been registered. -/
theorem get?_registerAll (definitions : List GrammarDefinition) (start : Languages) :
    let languages := definitions.foldl (fun languages d => languages.register d.name d.scope d.fileTypes) start
    (∀ extension, languages.extensions.get? extension =
      ((definitions.reverse.find? (·.isFor extension)).map fun d => Unicode.lowerCase d.name).or
        (start.extensions.get? extension)) ∧
    ∀ name, languages.scopes.get? name =
      ((definitions.reverse.find? (·.isNamed name)).map GrammarDefinition.scope).or (start.scopes.get? name) := by
  induction definitions generalizing start with
  | nil => exact ⟨fun _ => rfl, fun _ => rfl⟩
  | cons definition definitions ih =>
    obtain ⟨extensions, scopes⟩ := ih (start.register definition.name definition.scope definition.fileTypes)
    refine ⟨fun extension => ?_, fun name => ?_⟩
    · rw [List.foldl_cons, extensions, extensions_register, List.reverse_cons, List.find?_append, Option.map_or,
        Option.or_assoc, List.find?_singleton]
      split <;> rfl
    · rw [List.foldl_cons, scopes, scopes_register, List.reverse_cons, List.find?_append, Option.map_or,
        Option.or_assoc, List.find?_singleton]
      split <;> rfl

theorem distinct_knownExtensions : (knownExtensions.map Prod.fst).Nodup := by decide +kernel

theorem get?_extensions (definitions : List GrammarDefinition) (extension : String) :
    (ofDefinitions definitions).extensions.get? extension = languageFor definitions extension := by
  rw [ofDefinitions, (get?_registerAll definitions known).1, known, Table.get?_ofList distinct_knownExtensions]
  rfl

theorem get?_scopes (definitions : List GrammarDefinition) (name : String) :
    (ofDefinitions definitions).scopes.get? (Unicode.lowerCase name) = scopeFor definitions name := by
  rw [ofDefinitions, (get?_registerAll definitions known).2, known, Table.get?_empty, Option.or_none]
  rfl

theorem toOption_scopeOfPath (definitions : List GrammarDefinition) (path : String) :
    ((ofDefinitions definitions).scopeOfPath path).toOption = scopeForPath definitions path := by
  simp only [scopeOfPath, ofPath, scopeOf, get?_extensions, get?_scopes, scopeForPath]
  rcases Path.extension? path with _ | extension
  · rfl
  · simp only [Option.bind_eq_bind, Option.bind_some]
    rcases languageFor definitions (Unicode.lowerCase extension) with _ | name
    · rfl
    · simp only [ok_bind, Option.bind_some]
      rcases scopeFor definitions name with _ | scope <;> rfl

/-- Definitions of which no two have a name or a file type in common, in whatever letter case. -/
structure Unshared (definitions : List GrammarDefinition) : Prop where
  name : ∀ {d e}, d ∈ definitions → e ∈ definitions → Unicode.lowerCase d.name = Unicode.lowerCase e.name → d = e
  type : ∀ {d e extension}, d ∈ definitions → e ∈ definitions → d.isFor extension → e.isFor extension → d = e

/-- Where at most one element will do, the last one that does is the same in any order. -/
theorem findLast_perm {β : Type} {p : β → Bool} {xs ys : List β} (order : ys.Perm xs)
    (unique : ∀ {x y}, x ∈ xs → y ∈ xs → p x → p y → x = y) : ys.reverse.find? p = xs.reverse.find? p := by
  have same {y : β} : y ∈ ys.reverse ↔ y ∈ xs := List.mem_reverse.trans order.mem_iff
  rcases found : xs.reverse.find? p with _ | x
  · exact List.find?_eq_none.mpr fun y member => List.find?_eq_none.mp found y (List.mem_reverse.mpr (same.mp member))
  · have meets := List.find?_some found
    have member := List.mem_reverse.mp (List.mem_of_find?_eq_some found)
    rcases other : ys.reverse.find? p with _ | y
    · exact absurd meets (List.find?_eq_none.mp other x (same.mpr member))
    · have known := same.mp (List.mem_of_find?_eq_some other)
      exact congrArg some (unique known member (List.find?_some other) meets)

namespace Unshared

variable {definitions others : List GrammarDefinition} (unshared : Unshared definitions)
  (order : others.Perm definitions)

include unshared order

theorem languageFor_perm : languageFor others = languageFor definitions := by
  funext extension
  rw [languageFor, findLast_perm order unshared.type, languageFor]

theorem scopeFor_perm : scopeFor others = scopeFor definitions := by
  funext name
  have same {d e : GrammarDefinition} (first : d ∈ definitions) (second : e ∈ definitions)
      (named : d.isNamed (Unicode.lowerCase name)) (also : e.isNamed (Unicode.lowerCase name)) : d = e :=
    unshared.name first second (Eq.trans (of_decide_eq_true named) (of_decide_eq_true also).symm)
  rw [scopeFor, findLast_perm order same, scopeFor]

theorem scopeForPath_perm (path : String) : scopeForPath others path = scopeForPath definitions path := by
  simp only [scopeForPath, languageFor_perm unshared order, scopeFor_perm unshared order]

/-- Definitions that share nothing lead to the same scopes in any order, and to the same errors. -/
theorem scopeOfPath_perm (path : String) :
    (ofDefinitions others).scopeOfPath path = (ofDefinitions definitions).scopeOfPath path := by
  simp only [scopeOfPath, ofPath, scopeOf, get?_extensions, get?_scopes, languageFor_perm unshared order,
    scopeFor_perm unshared order]

end Unshared

end Languages

end Highlighter
