import Highlighter.Proofs.Files
import Highlighter.Proofs.Registrations
import Highlighter.Settings

namespace Highlighter

variable {α : Type}

/-- A variable that tells of no place. -/
def Unset (found : Option String) : Prop := found = none ∨ found = some ""

/-- The home directory of a user is the one that is set, or else that of the account, if it has one. -/
inductive HomeDirectory (env : Environment) : Option String → Prop
  | set {home} : env.home = some home → home ≠ "" → HomeDirectory env (some home)
  | account : Unset env.home → HomeDirectory env env.account

/-- What is kept for a user is in the directory for settings that is set, or else in one of the home directory. -/
inductive OwnDirectory (env : Environment) : Option String → Prop
  | set {base} : env.configHome = some base → base ≠ "" → OwnDirectory env (some (Path.join base "scopeline"))
  | home {home} : Unset env.configHome → HomeDirectory env (some home) →
      OwnDirectory env (some (Path.join (Path.join home ".config") "scopeline"))
  | nowhere : Unset env.configHome → HomeDirectory env none → OwnDirectory env none

theorem filter_of_unset {found : Option String} (unset : Unset found) :
    found.filter (!·.isEmpty) = none := by
  rcases unset with rfl | rfl <;> rfl

theorem filter_of_set {value : String} (some_ : value ≠ "") : (some value).filter (!·.isEmpty) = some value := by
  simp [Option.filter, some_]

theorem unset_or_set (found : Option String) : Unset found ∨ ∃ value, found = some value ∧ value ≠ "" := by
  rcases found with _ | value
  · exact .inl (.inl rfl)
  · by_cases empty : value = ""
    · exact .inl (.inr (congrArg some empty))
    · exact .inr ⟨value, rfl, empty⟩

theorem homeDirectory_iff {env : Environment} {home : Option String} :
    HomeDirectory env home ↔ env.homeDirectory? = home := by
  unfold Environment.homeDirectory?
  constructor
  · intro isHome
    cases isHome with
    | set given some_ => rw [given, filter_of_set some_, Option.some_or]
    | account unset => rw [filter_of_unset unset, Option.none_or]
  · rintro rfl
    rcases unset_or_set env.home with unset | ⟨home, given, some_⟩
    · rw [filter_of_unset unset, Option.none_or]
      exact .account unset
    · rw [given, filter_of_set some_, Option.some_or]
      exact .set given some_

theorem ownDirectory_iff {env : Environment} {own : Option String} : OwnDirectory env own ↔ env.directory? = own := by
  unfold Environment.directory?
  constructor
  · intro isOwn
    cases isOwn with
    | set given some_ => rw [given, filter_of_set some_, Option.some_or, Option.map_some]
    | home unset home => rw [filter_of_unset unset, Option.none_or, homeDirectory_iff.mp home]; rfl
    | nowhere unset home => rw [filter_of_unset unset, Option.none_or, homeDirectory_iff.mp home]; rfl
  · rintro rfl
    rcases unset_or_set env.configHome with unset | ⟨base, given, some_⟩
    · have isHome := homeDirectory_iff.mpr (Eq.refl env.homeDirectory?)
      rw [filter_of_unset unset, Option.none_or]
      generalize env.homeDirectory? = home at isHome ⊢
      cases home with
      | none => exact .nowhere unset isHome
      | some home => exact .home unset isHome
    · rw [given, filter_of_set some_, Option.some_or]
      exact .set given some_

theorem OwnDirectory.unique {env : Environment} {own other : Option String} (first : OwnDirectory env own)
    (second : OwnDirectory env other) : own = other :=
  (ownDirectory_iff.mp first).symm.trans (ownDirectory_iff.mp second)

/-- A file with a definition: its bytes are text, and the text is that of a grammar. -/
inductive Supplies (files : FileView) (path : String) (definition : GrammarDefinition) : Prop
  | intro {bytes text} : files.read path = .ok bytes → String.fromUTF8? bytes = some text →
      GrammarDefinition.read text = .ok definition → Supplies files path definition

/-- The grammar files of a directory in the order in which they count. They are those of its entries that have one of
two extensions, by their path; a directory that can not be listed has none. -/
inductive ReadingOrder (files : FileView) (directory : String) : List String → Prop
  | missing {problem} : files.list directory = .error problem → ReadingOrder files directory []
  | listed {names paths} : files.list directory = .ok names →
      paths.Perm ((names.map (Path.join directory)).filter fun path =>
        Path.extension? path = some "yaml" ∨ Path.extension? path = some "yml") →
      paths.Pairwise (· ≤ ·) → ReadingOrder files directory paths

/-- Files that are the same, in directories that may be listed in other orders. -/
structure Relisted (files others : FileView) : Prop where
  read : others.read = files.read
  missing : ∀ {directory problem}, files.list directory = .error problem →
    ∃ problem, others.list directory = .error problem
  listed : ∀ {directory names}, files.list directory = .ok names →
    ∃ reordered, others.list directory = .ok reordered ∧ reordered.Perm names

theorem GrammarDefinition.toOption_ofYaml {text : String} {definition : GrammarDefinition} :
    (ofYaml text).toOption = some definition ↔ read text = .ok definition := by
  unfold ofYaml
  rcases read text with problem | found <;> simp [Except.mapError, Except.toOption]

theorem definitionIn_eq_some {files : FileView} {path : String} {definition : GrammarDefinition} :
    definitionIn files path = some definition ↔ Supplies files path definition := by
  constructor
  · intro found
    unfold definitionIn at found
    split at found
    · rename_i text isText
      obtain ⟨bytes, read, decoded⟩ := FileView.readText_eq_ok.mp isText
      exact ⟨read, decoded, GrammarDefinition.toOption_ofYaml.mp found⟩
    · cases found
  · rintro ⟨read, decoded, parsed⟩
    unfold definitionIn
    rw [FileView.readText_eq_ok.mpr ⟨_, read, decoded⟩]
    exact GrammarDefinition.toOption_ofYaml.mpr parsed

theorem definitionIn_of_read {files : FileView} {path text : String} (read : files.read path = .ok text.toUTF8) :
    definitionIn files path = (GrammarDefinition.ofYaml text).toOption := by
  rw [definitionIn, FileView.readText_eq_ok.mpr ⟨_, read, fromUTF8?_toUTF8 text⟩]

theorem FileTree.not_supplies_of_directory {tree : FileTree} {path : String} (here : tree.find path = .ok .directory)
    (definition : GrammarDefinition) : ¬Supplies tree.view path definition := by
  rintro ⟨read, _, _⟩
  have refused : tree.view.read path = .error .isDirectory := by
    simp only [FileTree.view, FileTree.read, here, ok_bind]
    rfl
  cases refused.symm.trans read

open Catalogue

namespace ReadingOrder

variable {files others : FileView} {directory : String} {paths : List String}

theorem of_grammarFiles (files : FileView) (directory : String) :
    ReadingOrder files directory (grammarFiles files directory) := by
  unfold grammarFiles
  split
  · rename_i names listed
    have counted : isGrammarFile = fun path =>
        decide (Path.extension? path = some "yaml" ∨ Path.extension? path = some "yml") := by
      funext path
      simp only [isGrammarFile, Bool.decide_or]
    rw [counted]
    exact .listed listed (List.mergeSort_perm ..) (List.pairwise_mergeSort' (· ≤ ·) _)
  · rename_i problem missing
    exact .missing missing

theorem of_directories (files : FileView) (directories : List String) :
    List.Forall₂ (ReadingOrder files) directories (directories.map (grammarFiles files)) :=
  List.forall₂_map_right_iff.mpr (List.forall₂_same.mpr fun directory _ => of_grammarFiles files directory)

theorem unique (order : ReadingOrder files directory paths) {again : List String}
    (other : ReadingOrder files directory again) : paths = again := by
  cases order with
  | missing missing =>
    cases other with
    | missing _ => rfl
    | listed listed _ _ => cases missing.symm.trans listed
  | listed listed same sorted =>
    cases other with
    | missing missing => cases missing.symm.trans listed
    | listed relisted others sortedOthers =>
      cases listed.symm.trans relisted
      exact (same.trans others.symm).eq_of_pairwise (fun _ _ _ _ => Std.le_antisymm) sorted sortedOthers

theorem relisted (order : ReadingOrder files directory paths) (relisted : Relisted files others) :
    ReadingOrder others directory paths := by
  cases order with
  | missing missing =>
    obtain ⟨problem, missing⟩ := relisted.missing missing
    exact .missing missing
  | listed listed same sorted =>
    obtain ⟨reordered, listed, order⟩ := relisted.listed listed
    exact .listed listed (same.trans ((order.map _).filter _).symm) sorted

end ReadingOrder

theorem Relisted.grammarFiles_eq {files others : FileView} (relisted : Relisted files others) (directory : String) :
    grammarFiles others directory = grammarFiles files directory :=
  ((ReadingOrder.of_grammarFiles files directory).relisted relisted).unique (.of_grammarFiles others directory) |>.symm

theorem Relisted.registerFile_eq {files others : FileView} (relisted : Relisted files others) (c : Catalogue α)
    (path : String) : c.registerFile others path = c.registerFile files path := by
  simp only [Catalogue.registerFile, FileView.readText, relisted.read]

namespace Catalogue

/-- A file is registered with the definition that it supplies, and if it supplies none, nothing is. -/
theorem registerFile_cases (c : Catalogue α) (files : FileView) (path : String) :
    (∃ definition, definitionIn files path = some definition ∧
        c.registerFile files path = .ok (definition.scope, c.register definition)) ∨
      definitionIn files path = none ∧ ∃ problem, c.registerFile files path = .error problem := by
  simp only [definitionIn, registerFile, registerYaml]
  rcases files.readText path with problem | text
  · exact .inr ⟨rfl, _, rfl⟩
  · simp only [Except.mapError, ok_bind]
    rcases GrammarDefinition.ofYaml text with problem | definition
    · exact .inr ⟨rfl, _, rfl⟩
    · exact .inl ⟨definition, rfl, rfl⟩

theorem perform_registerFile_of_none (c : Catalogue α) {files : FileView} {path : String}
    (nothing : definitionIn files path = none) : c.perform (.registerFile files path) = c := by
  rcases c.registerFile_cases files path with ⟨definition, found, _⟩ | ⟨_, problem, failed⟩
  · cases nothing.symm.trans found
  · simp only [perform, failed]

/-- A directory counts the files that supply a definition, be it replaced by a later one or not. -/
theorem registerDirectory_count (c : Catalogue α) (files : FileView) (directory : String) :
    (c.registerDirectory files directory).1 =
      (grammarFiles files directory).countP fun path => (definitionIn files path).isSome := by
  suffices each : ∀ (paths : List String) (count : Nat) (c : Catalogue α),
      (paths.foldl (registerCounted files) (count, c)).1 =
        count + paths.countP fun path => (definitionIn files path).isSome by
    rw [registerDirectory, each, Nat.zero_add]
  intro paths
  induction paths with
  | nil => exact fun _ _ => rfl
  | cons path paths ih =>
    intro count c
    rw [List.foldl_cons, List.countP_cons, registerCounted]
    rcases c.registerFile_cases files path with ⟨definition, found, registered⟩ | ⟨nothing, problem, failed⟩
    · simp only [registered, found, Option.isSome_some, if_true]
      rw [ih]
      omega
    · simp only [failed, nothing, Option.isSome_none, Bool.false_eq_true, if_false]
      exact ih count c

theorem registerDirectory_missing (c : Catalogue α) {files : FileView} {directory : String} {problem : FileError}
    (missing : files.list directory = .error problem) : c.registerDirectory files directory = (0, c) := by
  simp only [registerDirectory, grammarFiles, missing, List.foldl_nil]

theorem registerDirectory_relisted {files others : FileView} (relisted : Relisted files others) (c : Catalogue α)
    (directory : String) : c.registerDirectory others directory = c.registerDirectory files directory := by
  have step : registerCounted others = registerCounted (α := α) files := by
    funext found path
    simp only [registerCounted, relisted.registerFile_eq]
  rw [registerDirectory, registerDirectory, relisted.grammarFiles_eq, step]

/-- How a catalogue takes in files and directories. A file without a definition changes nothing, and neither does a
directory that is missing; of a directory those files are counted that have one, in whatever order it is listed. -/
structure TakesIn (c : Catalogue α) (files : FileView) : Prop where
  unsupplied : ∀ {path}, (∀ definition, ¬Supplies files path definition) →
    c.perform (.registerFile files path) = c
  missing : ∀ {directory problem}, files.list directory = .error problem →
    c.registerDirectory files directory = (0, c)
  counts : ∀ {directory paths}, ReadingOrder files directory paths →
    (c.registerDirectory files directory).1 = paths.countP fun path => (definitionIn files path).isSome
  relisted : ∀ {others}, Relisted files others → ∀ directory,
    c.registerDirectory others directory = c.registerDirectory files directory

theorem takesIn (c : Catalogue α) (files : FileView) : c.TakesIn files where
  unsupplied := by
    intro path nothing
    refine perform_registerFile_of_none c (Option.eq_none_iff_forall_ne_some.mpr fun definition found => ?_)
    exact nothing definition (definitionIn_eq_some.mp found)
  missing := registerDirectory_missing c
  counts order := order.unique (.of_grammarFiles ..) ▸ registerDirectory_count c ..
  relisted relisted := registerDirectory_relisted relisted c

end Catalogue

/-- The definitions that a user has, the later ones of more weight. -/
def suppliedBy (files : FileView) (paths : List String) : List GrammarDefinition :=
  Builtin.definitions ++ paths.filterMap (definitionIn files)

/-- Of several definitions with one scope the last. -/
def lastWith (scope : String) (definitions : List GrammarDefinition) : Option GrammarDefinition :=
  definitions.reverse.find? fun definition => definition.scope = scope

theorem lastOf_written (definitions : List GrammarDefinition) (scope : String) :
    lastOf (definitions.map (Registration.written (α := α))) scope = (lastWith scope definitions).map .written := by
  simp only [lastOf, lastWith, ← List.map_reverse, List.find?_map]
  rfl

/-- A catalogue lists its definitions in the order of their scopes. -/
theorem Catalogue.Coherent.ordered {c : Catalogue α} {history : List (Registration α)} (coherent : c.Coherent history) :
    c.definitions.values.Pairwise fun d e => d.scope < e.scope := by
  rw [Table.values, List.pairwise_map]
  refine c.definitions.sorted.imp_of_mem fun {d e} first second before => ?_
  rwa [coherent.scope_of_entry first, coherent.scope_of_entry second]

/-- The definitions that count, in some order: of each scope the last one. -/
structure Current (supplied definitions : List GrammarDefinition) : Prop where
  last : ∀ definition, definition ∈ definitions ↔ lastWith definition.scope supplied = some definition
  distinct : definitions.Nodup

theorem Current.perm_of_current {supplied definitions others : List GrammarDefinition}
    (current : Current supplied definitions) (other : Current supplied others) : definitions.Perm others :=
  (List.perm_ext_iff_of_nodup current.distinct other.distinct).mpr fun definition =>
    (current.last definition).trans (other.last definition).symm

theorem Current.perm {supplied definitions others : List GrammarDefinition} (current : Current supplied definitions)
    (order : others.Perm definitions) : Current supplied others where
  last definition := order.mem_iff.trans (current.last definition)
  distinct := order.nodup_iff.mpr current.distinct

namespace Catalogue.Coherent

variable {c : Catalogue α} {supplied : List GrammarDefinition} (coherent : c.Coherent (supplied.map .written))

include coherent

/-- Grammars are had from the last definition of their scope. -/
theorem load_eq_ok {scope : String} {grammar : Grammar α} : (c.load scope).1 = .ok grammar ↔
    ∃ definition rules, lastWith scope supplied = some definition ∧ definition.compile = .ok rules ∧
      rules.toGrammar = grammar := by
  rw [coherent.load_eq, lastOf_written]
  rcases lastWith scope supplied with _ | definition
  · simp
  · simp only [Option.map_some, Registration.load, Option.some.injEq, exists_and_left, exists_eq_left']
    rcases definition.compile with problem | rules <;> simp [Except.map]

theorem current : Current supplied c.definitions.values where
  last definition := by
    rw [coherent.mem_definitions, lastOf_written, Option.map_eq_some_iff]
    simp
  distinct := coherent.nodup_definitions

end Catalogue.Coherent

namespace Settings

variable (s : Settings) (env : Environment) (files : FileView)

theorem catalogue_eq : (s.catalogue env files : Catalogue α) =
    builtin.performAll ((s.directories env).map (.registerDirectory files)) := by
  rw [catalogue, performAll, List.foldl_map]
  rfl

/-- What is registered for a user are the built-in definitions and those of the user's files. -/
theorem catalogue_coherent : (s.catalogue env files : Catalogue α).Coherent
    ((suppliedBy files ((s.directories env).flatMap (grammarFiles files))).map .written) := by
  have coherent := (Begins.builtin (α := α)).coherent.performAll ((s.directories env).map (.registerDirectory files))
  rw [← catalogue_eq] at coherent
  have registered : ((s.directories env).map (.registerDirectory files)).flatMap Operation.registered =
      (((s.directories env).flatMap (grammarFiles files)).filterMap (definitionIn files)).map
        (Registration.written (α := α)) := by
    rw [List.flatMap_map, List.filterMap_flatMap, List.map_flatMap]
    rfl
  rw [suppliedBy, List.map_append, ← registered]
  exact coherent

theorem directories_of_own {own : Option String} (isOwn : OwnDirectory env own) :
    s.directories env = (own.map fun own => Path.join own "grammars").toList ++ s.grammarDirectories := by
  rw [directories, Environment.grammarDirectory?, ownDirectory_iff.mp isOwn]

/-- Whatever files there are, a user's catalogue holds for each scope the last definition in the order of the built-in
ones, the user's own directory and the directories of the settings, of which each is read by the paths of its grammar
files. Neither files without a definition nor the order in which directories are listed make any difference. -/
theorem catalogue_supplied (s : Settings) (env : Environment) (files : FileView) :
    ∃ own paths, OwnDirectory env own ∧
      List.Forall₂ (ReadingOrder files)
        ((own.map fun own => Path.join own "grammars").toList ++ s.grammarDirectories) paths ∧
      (∀ scope, (s.catalogue env files : Catalogue α).definitions.get? scope =
        lastWith scope (suppliedBy files paths.flatten)) ∧
      (s.catalogue env files : Catalogue α).Shows ((suppliedBy files paths.flatten).map .written) ∧
      (∀ path definition, definitionIn files path = some definition ↔ Supplies files path definition) ∧
      (∀ {tree : FileTree} {path definition}, tree.find path = .ok .directory → ¬Supplies tree.view path definition) ∧
      (∀ {others}, Relisted files others → s.catalogue env others = (s.catalogue env files : Catalogue α)) ∧
      ∀ c : Catalogue α, c.TakesIn files := by
  have isOwn : OwnDirectory env env.directory? := ownDirectory_iff.mpr rfl
  have coherent := s.catalogue_coherent (α := α) env files
  have orders := ReadingOrder.of_directories files (s.directories env)
  rw [List.flatMap_def] at coherent
  rw [directories_of_own s env isOwn] at orders coherent
  refine ⟨_, _, isOwn, orders, fun scope => ?_, coherent.shows, fun _ _ => definitionIn_eq_some,
    fun here => FileTree.not_supplies_of_directory here _, fun relisted => ?_, fun c => c.takesIn files⟩
  · refine Option.ext fun definition => ?_
    rw [coherent.definition_eq_some, lastOf_written, Option.map_eq_some_iff]
    simp
  · simp only [catalogue, registerDirectory_relisted relisted]

/-- Grammars in the home directory of a user and elsewhere: one in place of a builtin grammar, beside a file without a
scope and a directory, and then one for another scope. -/
def shelf : FileTree :=
  ⟨.ofList [(["g"], .directory), (["g", "t.yml"], .file "name: t\nscope: source.toml\n".toUTF8), (["h"], .directory),
    (["h", ".config"], .directory), (["h", ".config", "scopeline"], .directory),
    (["h", ".config", "scopeline", "grammars"], .directory),
    (["h", ".config", "scopeline", "grammars", "a.yaml"], .file "name: mine\nscope: source.json\n".toUTF8),
    (["h", ".config", "scopeline", "grammars", "b.yaml"], .file "name: b\n".toUTF8),
    (["h", ".config", "scopeline", "grammars", "c.yml"], .directory)], []⟩

def shelfEnvironment : Environment := { configHome := some "", home := some "", account := some "h" }

def shelfFiles : List String :=
  ["h/.config/scopeline/grammars/a.yaml", "h/.config/scopeline/grammars/b.yaml", "h/.config/scopeline/grammars/c.yml"]

theorem orders_shelf : ReadingOrder shelf.view "h/.config/scopeline/grammars" shelfFiles ∧
    ReadingOrder shelf.view "g" ["g/t.yml"] ∧ ReadingOrder shelf.view "missing" [] := by
  have own : shelf.list "h/.config/scopeline/grammars" = .ok ["a.yaml", "b.yaml", "c.yml"] := by
    rw [FileTree.list, FileTree.target_eq]
    rfl
  have other : shelf.list "g" = .ok ["t.yml"] := by
    rw [FileTree.list, FileTree.target_eq]
    rfl
  have missing : shelf.list "missing" = .error .notFound := by
    rw [FileTree.list, FileTree.target_eq]
    rfl
  have counted : ((["a.yaml", "b.yaml", "c.yml"].map (Path.join "h/.config/scopeline/grammars")).filter
      fun path => Path.extension? path = some "yaml" ∨ Path.extension? path = some "yml") = shelfFiles := by
    simp only [List.map_cons, List.map_nil, Path.join_eq]
    decide
  have alone : ((["t.yml"].map (Path.join "g")).filter
      fun path => Path.extension? path = some "yaml" ∨ Path.extension? path = some "yml") = ["g/t.yml"] := by
    simp only [List.map_cons, List.map_nil, Path.join_eq]
    decide
  have sorted : shelfFiles.Pairwise (· ≤ ·) := by decide
  exact ⟨.listed own (by rw [counted]) sorted, .listed other (by rw [alone]) (List.pairwise_singleton _ _),
    .missing missing⟩

theorem read_shelf :
    shelf.read "h/.config/scopeline/grammars/a.yaml" = .ok "name: mine\nscope: source.json\n".toUTF8 ∧
      shelf.read "h/.config/scopeline/grammars/b.yaml" = .ok "name: b\n".toUTF8 ∧
      shelf.read "h/.config/scopeline/grammars/c.yml" = .error .isDirectory ∧
      shelf.read "g/t.yml" = .ok "name: t\nscope: source.toml\n".toUTF8 := by
  simp only [FileTree.read, FileTree.find, FileTree.target_eq]
  exact ⟨rfl, rfl, rfl, rfl⟩

theorem definitionIn_shelf :
    definitionIn shelf.view "h/.config/scopeline/grammars/a.yaml" = some ⟨"mine", "source.json", [], []⟩ ∧
      definitionIn shelf.view "h/.config/scopeline/grammars/b.yaml" = none ∧
      definitionIn shelf.view "h/.config/scopeline/grammars/c.yml" = none ∧
      definitionIn shelf.view "g/t.yml" = some ⟨"t", "source.toml", [], []⟩ := by
  obtain ⟨mine, noScope, noFile, other⟩ := read_shelf
  have texts : (GrammarDefinition.ofYaml "name: mine\nscope: source.json\n").toOption =
        some ⟨"mine", "source.json", [], []⟩ ∧ (GrammarDefinition.ofYaml "name: b\n").toOption = none ∧
      (GrammarDefinition.ofYaml "name: t\nscope: source.toml\n").toOption = some ⟨"t", "source.toml", [], []⟩ := by
    decide +kernel
  refine ⟨(definitionIn_of_read mine).trans texts.1, (definitionIn_of_read noScope).trans texts.2.1, ?_,
    (definitionIn_of_read other).trans texts.2.2⟩
  simp only [definitionIn, FileView.readText, FileTree.view, noFile]
  rfl

theorem catalogue_supplied_shelf :
    (catalogue { grammarDirectories := ["g", "missing"] } shelfEnvironment shelf.view :
        Catalogue Empty).definitions.get? "source.json" = some ⟨"mine", "source.json", [], []⟩ ∧
      (catalogue { grammarDirectories := ["g", "missing"] } shelfEnvironment shelf.view :
        Catalogue Empty).definitions.get? "source.toml" = some ⟨"t", "source.toml", [], []⟩ ∧
      ((builtin : Catalogue Empty).registerDirectory shelf.view "h/.config/scopeline/grammars").1 = 1 := by
  obtain ⟨own, paths, isOwn, orders, last, _, _, _, _, takesIn⟩ :=
    catalogue_supplied (α := Empty) { grammarDirectories := ["g", "missing"] } shelfEnvironment shelf.view
  have home : OwnDirectory shelfEnvironment (some (Path.join (Path.join "h" ".config") "scopeline")) :=
    .home (.inr rfl) (.account (.inr rfl))
  obtain rfl := isOwn.unique home
  have grammars : Path.join (Path.join (Path.join "h" ".config") "scopeline") "grammars" =
      "h/.config/scopeline/grammars" := by
    simp only [Path.join_eq]
    decide
  simp only [Option.map_some, Option.toList_some, grammars] at orders
  obtain ⟨ownOrder, otherOrder, noOrder⟩ := orders_shelf
  rcases orders with _ | ⟨first, _ | ⟨second, _ | ⟨third, _ | _⟩⟩⟩
  obtain rfl := first.unique ownOrder
  obtain rfl := second.unique otherOrder
  obtain rfl := third.unique noOrder
  obtain ⟨mine, noScope, noFile, other⟩ := definitionIn_shelf
  have supplied : suppliedBy shelf.view [shelfFiles, ["g/t.yml"], []].flatten =
      Builtin.definitions ++ [⟨"mine", "source.json", [], []⟩, ⟨"t", "source.toml", [], []⟩] := by
    simp [suppliedBy, shelfFiles, mine, noScope, noFile, other]
  rw [supplied] at last
  refine ⟨(last _).trans (by simp [lastWith]), (last _).trans (by simp [lastWith]), ?_⟩
  rw [(takesIn builtin).counts ownOrder]
  simp [shelfFiles, mine, noScope, noFile]

end Settings

end Highlighter
