import Highlighter.Proofs.Files
import Highlighter.Proofs.Tables
import Highlighter.Proofs.Yaml.Trees
import Highlighter.Settings

namespace Highlighter

theorem Table.ofList_perm {t : Table String String} {entries : List (String × String)} (order : entries.Perm t.entries) :
    Table.ofList entries = t := by
  have distinct : (entries.map Prod.fst).Nodup := (order.map Prod.fst).nodup_iff.mpr t.nodup_keys
  refine eq_of_get? fun key => ?_
  rw [get?_ofList distinct, lookup_perm distinct order]
  rfl

namespace Settings

variable {s : Settings} {rules : List (String × String)}

theorem isFieldName_rules : Yaml.IsFieldName "rules" := ⟨by decide, by decide, by decide⟩

theorem isFieldName_grammarDirectories : Yaml.IsFieldName "grammar_dirs" := ⟨by decide, by decide, by decide⟩

/-- The text of settings whose rules are listed in some order. -/
def yamlListing (rules : List (String × String)) (directories : List String) : String :=
  String.ofList (Yaml.writeMapping "rules" rules ++ Yaml.writeList "grammar_dirs" directories)

/-- Whatever texts there are, they are read as they were written. -/
theorem ofYaml_yamlListing (rules : List (String × String)) (directories : List String) :
    ofYaml (yamlListing rules directories) = .ok ⟨.ofList rules, directories⟩ := by
  have other : "grammar_dirs" ≠ "rules" := by decide
  rw [ofYaml, Yaml.readRecord, yamlListing,
    Yaml.Document.read_record isFieldName_rules isFieldName_grammarDirectories, ok_bind]
  simp only [Yaml.Document.fields_ofRecord _ other.symm, ok_bind, Yaml.optional, Table.lookup_cons, if_true, if_neg other,
    Yaml.Document.textEntries_ofEntries, Yaml.Document.list_ofItems]
  rfl

theorem ofYaml_ofOrder (order : rules.Perm s.rules.entries) : ofYaml (yamlListing rules s.grammarDirectories) = .ok s := by
  rw [ofYaml_yamlListing, Table.ofList_perm order]

/-- Saves settings with their rules in some order. -/
def saveListing (s : Settings) (rules : List (String × String)) (tree : FileTree) (path : String) :
    Option SaveError × FileTree :=
  match ((Path.parent? path).map tree.makeDirectory).getD (none, tree) with
  | (some problem, tree) => (some (.noDirectory problem), tree)
  | (none, tree) =>
    match tree.write path (yamlListing rules s.grammarDirectories).toUTF8 with
    | .ok tree => (none, tree)
    | .error problem => (some (.unwritable path problem), tree)

theorem saveTo_eq (s : Settings) (tree : FileTree) (path : String) :
    s.saveTo tree path = s.saveListing s.rules.entries tree path := rfl

/-- A file is the text of the settings, and they are loaded from it. -/
structure KeptIn (s : Settings) (files : FileView) (path : String) : Prop where
  reads : ∃ text, files.readText path = .ok text ∧ ofYaml text = .ok s
  loads : loadFrom files path = s

theorem keptIn_of_write {tree after : FileTree} {path : String} (order : rules.Perm s.rules.entries)
    (written : tree.write path (yamlListing rules s.grammarDirectories).toUTF8 = .ok after) :
    s.KeptIn after.view path := by
  have read := FileTree.readText_of_write written
  have same := ofYaml_ofOrder order
  refine ⟨⟨_, read, same⟩, ?_⟩
  rw [loadFrom, read]
  simp only [same]
  rfl

/-- Whether settings can be written does not depend on what they are. -/
theorem saveListing_eq_ok {tree after : FileTree} {path : String} : s.saveListing rules tree path = (none, after) ↔
    ∃ made, ((Path.parent? path).map tree.makeDirectory).getD (none, tree) = (none, made) ∧
      made.write path (yamlListing rules s.grammarDirectories).toUTF8 = .ok after := by
  unfold saveListing
  generalize (yamlListing rules s.grammarDirectories).toUTF8 = bytes
  rcases ((Path.parent? path).map tree.makeDirectory).getD (none, tree) with ⟨_ | problem, made⟩
  · rcases write : made.write path bytes with problem | written <;> simp [write]
  · simp

/-- Settings that are saved to a file are loaded from it, whatever texts they hold, and in whatever order their rules
are written. -/
theorem loadFrom_saveTo {tree after : FileTree} {path : String} (saved : s.saveTo tree path = (none, after)) :
    s.KeptIn after.view path ∧ ∀ rules, rules.Perm s.rules.entries →
      ∃ other, s.saveListing rules tree path = (none, other) ∧ s.KeptIn other.view path := by
  rw [saveTo_eq] at saved
  obtain ⟨made, parents, written⟩ := saveListing_eq_ok.mp saved
  refine ⟨keptIn_of_write (.refl _) written, fun rules order => ?_⟩
  obtain ⟨location, found, free, -⟩ := FileTree.write_eq_ok.mp written
  have writes : made.write path (yamlListing rules s.grammarDirectories).toUTF8 = .ok _ :=
    FileTree.write_eq_ok.mpr ⟨location, found, free, rfl⟩
  exact ⟨_, saveListing_eq_ok.mpr ⟨made, parents, writes⟩, keptIn_of_write order writes⟩

/-- Settings whose texts look like something else. -/
def disguised : Settings where
  rules := .ofList [("", "null"), ("- a: b #", "'\"\n \u0007"), ("true", "1e3")]
  grammarDirectories := ["~", " x ", "...", "", "#\n\n"]

/-- No file at all. -/
def nowhere : FileTree := ⟨.empty, []⟩

theorem makeDirectory_nowhere : ((Path.parent? "a/b").map nowhere.makeDirectory).getD (none, nowhere) =
    (none, nowhere.put ["a"] .directory) := by
  have parent : Path.parent? "a/b" = some "a" := by decide +kernel
  have above : Path.ancestors "a".length "a" = ["a", ""] := by decide +kernel
  have named : ("a".toList.splitOn '/').map String.ofList = ["a"] := by decide
  have relative : "a".startsWith "/" = false := by decide +kernel
  have target : nowhere.target "a" = .ok ⟨["a"], false⟩ := by
    simp only [FileTree.target, splitOn_slash, named, relative]
    rfl
  have added : nowhere.addDirectory "a" = .ok (nowhere.put ["a"] .directory) := by
    rw [FileTree.addDirectory, target]
    rfl
  rw [parent, Option.map_some, Option.getD_some, FileTree.makeDirectory, above, FileTree.addDirectories]
  simp [FileTree.ensureDirectory, added]

theorem loadFrom_saveTo_disguised : ∃ after, disguised.saveTo nowhere "a/b" = (none, after) ∧
    loadFrom after.view "a/b" = disguised := by
  have parts : ("a/b".toList.splitOn '/').map String.ofList = ["a", "b"] := by decide
  have relative : "a/b".startsWith "/" = false := by decide +kernel
  have target : (nowhere.put ["a"] .directory).target "a/b" = .ok ⟨["a", "b"], false⟩ := by
    simp only [FileTree.target, splitOn_slash, parts, relative]
    rfl
  have free : (nowhere.put ["a"] .directory).node? ["a", "b"] = none := rfl
  have saved : disguised.saveTo nowhere "a/b" = (none, _) := saveListing_eq_ok.mpr
    ⟨_, makeDirectory_nowhere, FileTree.write_eq_ok.mpr ⟨["a", "b"], target, by simp [free], rfl⟩⟩
  exact ⟨_, saved, (loadFrom_saveTo saved).1.loads⟩

end Settings

end Highlighter
