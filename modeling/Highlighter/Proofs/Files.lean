import Mathlib.Data.String.Basic
import Mathlib.Tactic.SplitIfs
import Highlighter.Files.Tree
import Highlighter.Proofs.Except

namespace Highlighter

section Parts

open String

theorem splitOnAux_slash (before part rest : List Char) (parts : List String) :
    splitOnAux (ofList (before ++ part ++ rest)) "/" ⟨utf8Len before⟩ ⟨utf8Len before + utf8Len part⟩ 0 parts =
      parts.reverse ++ (List.splitOnPPrepend (· == '/') rest part.reverse).map ofList := by
  have here : utf8Len before + utf8Len part = utf8Len (before ++ part) := (utf8Len_append ..).symm
  induction rest generalizing before part parts with
  | nil =>
    have done : Pos.Raw.atEnd (ofList (before ++ part ++ [])) ⟨utf8Len before + utf8Len part⟩ := by
      rw [here, atEnd_of_valid]
    rw [splitOnAux, if_pos done, extract_of_valid]
    simp
  | cons c rest ih =>
    have get : Pos.Raw.get (ofList (before ++ part ++ c :: rest)) ⟨utf8Len before + utf8Len part⟩ = c := by
      rw [here, get_of_valid]
      rfl
    have next : Pos.Raw.next (ofList (before ++ part ++ c :: rest)) ⟨utf8Len before + utf8Len part⟩ =
        ⟨utf8Len before + utf8Len part + c.utf8Size⟩ := by
      rw [here, next_of_valid]
    have more : ¬Pos.Raw.atEnd (ofList (before ++ part ++ c :: rest)) ⟨utf8Len before + utf8Len part⟩ := by
      rw [here, atEnd_of_valid]
      simp
    have slash : Pos.Raw.get "/" 0 = '/' := rfl
    have afterSlash : Pos.Raw.next "/" 0 = ⟨1⟩ := rfl
    have slashEnds : Pos.Raw.atEnd "/" ⟨1⟩ = true := rfl
    rw [splitOnAux, if_neg more, get, slash, afterSlash, next]
    by_cases same : c = '/'
    · subst same
      have back : (⟨utf8Len before + utf8Len part + '/'.utf8Size⟩ : Pos.Raw).unoffsetBy ⟨1⟩ =
          ⟨utf8Len before + utf8Len part⟩ := rfl
      have later := ih (before ++ part ++ ['/']) [] (ofList part :: parts) (by simp)
      simp only [beq_self_eq_true, if_true, slashEnds, back]
      rw [extract_of_valid]
      simpa [Nat.add_assoc, List.splitOnPPrepend_cons_eq_if] using later
    · have later := ih before (part ++ [c]) parts (by simp)
      have stay : (⟨utf8Len before + utf8Len part⟩ : Pos.Raw).unoffsetBy 0 = ⟨utf8Len before + utf8Len part⟩ := rfl
      rw [if_neg (by simpa using same), stay, next]
      simpa [same, Nat.add_assoc, List.splitOnPPrepend_cons_eq_if] using later

/-- The parts of a path are its characters between slashes. -/
theorem splitOn_slash (path : String) : path.splitOn "/" = (path.toList.splitOn '/').map ofList := by
  simpa [splitOn, List.splitOn] using splitOnAux_slash [] [] path.toList []

end Parts

theorem startsWith_slash (path : String) : path.startsWith "/" = ['/'].isPrefixOf path.toList := by
  rw [Bool.eq_iff_iff, String.startsWith_string_iff, List.isPrefixOf_iff_prefix]
  rfl

theorem endsWith_slash (path : String) : path.endsWith "/" = ['/'].isSuffixOf path.toList := by
  rw [Bool.eq_iff_iff, String.endsWith, String.Slice.endsWith_string_iff, List.isSuffixOf_iff_suffix,
    String.copy_toSlice]
  rfl

theorem Path.join_eq (base path : String) : join base path =
    if ['/'].isPrefixOf path.toList then path
    else if base.isEmpty || ['/'].isSuffixOf base.toList then base ++ path
    else base ++ "/" ++ path := by
  rw [join, startsWith_slash, endsWith_slash]

theorem FileTree.target_eq (tree : FileTree) (path : String) : tree.target path =
    if path.toList.contains '\x00' then .error .nulInPath
    else if path.isEmpty then .error .notFound
    else if 4096 ≤ path.utf8ByteSize then .error .nameTooLong
    else tree.follow (if ['/'].isPrefixOf path.toList then [] else tree.workingDirectory) false
      ((path.toList.splitOn '/').map String.ofList) := by
  rw [target, splitOn_slash, startsWith_slash]

theorem FileView.readText_eq_ok {files : FileView} {path text : String} :
    files.readText path = .ok text ↔ ∃ bytes, files.read path = .ok bytes ∧ String.fromUTF8? bytes = some text := by
  unfold readText
  rcases files.read path with problem | bytes
  · simp [bind, Except.bind]
  · rcases decoded : String.fromUTF8? bytes with _ | found
    · simp [ok_bind, decoded, throw, throwThe, MonadExceptOf.throw]
    · simp [ok_bind, decoded, pure, Except.pure]

theorem fromUTF8?_toUTF8 (text : String) : String.fromUTF8? text.toUTF8 = some text := by
  rw [String.fromUTF8?, dif_pos (show text.toUTF8.IsValidUTF8 from text.isValidUTF8)]
  rfl

namespace FileTree

variable {tree after : FileTree} {location : Location} {node : FileNode}

theorem node?_put (tree : FileTree) (location : Location) (node : FileNode) (other : Location) :
    (tree.put location node).node? other =
      if other = [] then some .directory else if other = location then some node else tree.node? other := by
  unfold node? put
  rcases other with _ | ⟨part, parts⟩
  · rfl
  · simp [Table.get?_insert]

/-- All directories of a tree are in another one. -/
structure Keeps (tree after : FileTree) : Prop where
  workingDirectory : after.workingDirectory = tree.workingDirectory
  directory : ∀ {location}, tree.node? location = some .directory → after.node? location = some .directory

namespace Keeps

/-- Where the directories are kept, a path leads to the same place. -/
theorem follow (keeps : tree.Keeps after) {start : Location} {asDirectory : Bool} {parts : List String}
    {target : Target} (found : tree.follow start asDirectory parts = .ok target) :
    after.follow start asDirectory parts = .ok target := by
  induction parts generalizing start asDirectory with
  | nil => exact found
  | cons part parts ih =>
    rcases here : tree.node? start with _ | bytes | _
    · simp only [FileTree.follow, here] at found
      cases found
    · simp only [FileTree.follow, here] at found
      cases found
    · simp only [FileTree.follow, here] at found
      simp only [FileTree.follow, keeps.directory here]
      split_ifs at found ⊢
      · exact ih found
      · exact ih found
      · exact found
      · exact ih found

theorem target (keeps : tree.Keeps after) {path : String} {target : Target}
    (found : tree.target path = .ok target) : after.target path = .ok target := by
  unfold FileTree.target at found ⊢
  rw [keeps.workingDirectory]
  split_ifs at found ⊢
  · exact keeps.follow found
  · exact keeps.follow found

end Keeps

/-- Directories stay where something is put elsewhere. -/
theorem keeps_put (free : tree.node? location ≠ some .directory) : tree.Keeps (tree.put location node) where
  workingDirectory := rfl
  directory := by
    intro other here
    have apart : other ≠ location := fun same => free (same ▸ here)
    rw [node?_put, if_neg apart, here, ite_self]

/-- A file is written where a path leads to, unless a directory stands there. -/
theorem write_eq_ok {path : String} {bytes : ByteArray} : tree.write path bytes = .ok after ↔
    ∃ location, tree.target path = .ok ⟨location, false⟩ ∧ tree.node? location ≠ some .directory ∧
      tree.put location (.file bytes) = after := by
  rw [write]
  rcases tree.target path with problem | ⟨location, isDirectory⟩
  · exact ⟨nofun, nofun⟩
  · rw [ok_bind]
    rcases here : tree.node? location with _ | bytes | _ <;> cases isDirectory <;>
      simp [here, pure, Except.pure]

/-- What has been written is read. -/
theorem read_of_write {path : String} {bytes : ByteArray} (written : tree.write path bytes = .ok after) :
    after.read path = .ok bytes := by
  obtain ⟨location, found, free, rfl⟩ := write_eq_ok.mp written
  have inside : location ≠ [] := by
    rintro rfl
    exact free rfl
  rw [read, find, (keeps_put free).target found, ok_bind, node?_put, if_neg inside, if_pos rfl]
  rfl

theorem readText_of_write {path text : String} (written : tree.write path text.toUTF8 = .ok after) :
    after.view.readText path = .ok text :=
  FileView.readText_eq_ok.mpr ⟨text.toUTF8, read_of_write written, fromUTF8?_toUTF8 text⟩

theorem read_eq_ok {path : String} {bytes : ByteArray} : tree.read path = .ok bytes ↔
    ∃ location, tree.target path = .ok ⟨location, false⟩ ∧ tree.node? location = some (.file bytes) := by
  rw [read, find]
  rcases tree.target path with problem | ⟨location, isDirectory⟩
  · exact ⟨nofun, nofun⟩
  · rw [ok_bind]
    rcases here : tree.node? location with _ | held | _ <;> cases isDirectory <;>
      simp [here, pure, Except.pure, throw, throwThe, MonadExceptOf.throw, bind, Except.bind]

/-- A file that is written to leaves every other one as it is. -/
theorem read_of_append {path other : String} {bytes more : ByteArray} (appended : tree.append other more = .ok after)
    (found : tree.read path = .ok bytes) :
    after.read path = .ok bytes ∨ after.target path = after.target other := by
  obtain ⟨location, leads, free, rfl⟩ := write_eq_ok.mp appended
  obtain ⟨place, here, held⟩ := read_eq_ok.mp found
  have keeps : tree.Keeps (tree.put location (.file ((tree.read other).toOption.getD .empty ++ more))) := keeps_put free
  by_cases same : place = location
  · right
    rw [keeps.target here, keeps.target leads, same]
  · left
    refine read_eq_ok.mpr ⟨place, keeps.target here, ?_⟩
    have inside : place ≠ [] := by
      rintro rfl
      cases held
    rw [node?_put, if_neg inside, if_neg same]
    exact held

theorem ancestors_starts (fuel : Nat) (path : String) : ∃ parents, Path.ancestors fuel path = path :: parents := by
  cases fuel with
  | zero => exact ⟨[], rfl⟩
  | succ fuel => exact ⟨_, rfl⟩

theorem makeDirectory_of_addDirectory {path : String} (some_ : path ≠ "") (added : tree.addDirectory path = .ok after) :
    tree.makeDirectory path = (none, after) := by
  obtain ⟨parents, ancestors⟩ := ancestors_starts path.length path
  rw [makeDirectory, ancestors, addDirectories]
  simp [some_, added, ensureDirectory]

/-- A directory that is there already is not made again. -/
theorem makeDirectory_of_directory {path : String} {target : Target} (some_ : path ≠ "")
    (leads : tree.target path = .ok target) (here : tree.node? target.location = some .directory) :
    tree.makeDirectory path = (none, tree) := by
  have stands : tree.isDirectory path = true := by
    rw [isDirectory, find, leads, ok_bind, here]
    rfl
  have added : tree.addDirectory path = .error .alreadyExists := by
    rw [addDirectory, leads, ok_bind, here]
    rfl
  obtain ⟨parents, ancestors⟩ := ancestors_starts path.length path
  rw [makeDirectory, ancestors, addDirectories]
  simp [some_, added, ensureDirectory, stands]

/-- All that stands in a tree is in another one. -/
structure Grows (tree after : FileTree) : Prop extends tree.Keeps after where
  file : ∀ {location bytes}, tree.node? location = some (.file bytes) → after.node? location = some (.file bytes)

theorem Grows.refl (tree : FileTree) : tree.Grows tree := ⟨⟨rfl, id⟩, id⟩

theorem Grows.trans {middle : FileTree} (first : tree.Grows middle) (second : middle.Grows after) :
    tree.Grows after where
  workingDirectory := second.workingDirectory.trans first.workingDirectory
  directory here := second.directory (first.directory here)
  file here := second.file (first.file here)

theorem Grows.read {path : String} {bytes : ByteArray} (grows : tree.Grows after) (found : tree.read path = .ok bytes) :
    after.read path = .ok bytes := by
  obtain ⟨location, here, held⟩ := read_eq_ok.mp found
  exact read_eq_ok.mpr ⟨location, grows.target here, grows.file held⟩

theorem grows_put (free : tree.node? location = none) : tree.Grows (tree.put location node) where
  toKeeps := keeps_put (by simp [free])
  file := by
    intro other bytes here
    have apart : other ≠ location := by
      rintro rfl
      cases free.symm.trans here
    have inside : other ≠ [] := by
      rintro rfl
      cases here
    rw [node?_put, if_neg inside, if_neg apart]
    exact here

theorem grows_addDirectory {path : String} (added : tree.addDirectory path = .ok after) : tree.Grows after := by
  obtain ⟨target, _, made⟩ := bind_eq_ok added
  split at made
  · cases made
  · rename_i free
    cases made
    exact grows_put (by simpa using free)

theorem grows_ensureDirectory (tree : FileTree) (path : String) : tree.Grows (tree.ensureDirectory path).2 := by
  unfold ensureDirectory
  rcases added : tree.addDirectory path with problem | after
  · exact .refl tree
  · exact grows_addDirectory added

theorem grows_addDirectories (tree : FileTree) (paths : List String) : tree.Grows (tree.addDirectories paths).2 := by
  induction paths with
  | nil => exact .refl tree
  | cons path parents ih =>
    rw [addDirectories]
    split
    · exact .refl tree
    · split
      · rcases above : tree.addDirectories parents with ⟨_ | problem, middle⟩
        · rw [above] at ih
          exact ih.trans (grows_ensureDirectory middle path)
        · rw [above] at ih
          exact ih
      · exact grows_ensureDirectory tree path

/-- A directory that is made leaves all that was there, and so do those above it that are made on the way. -/
theorem grows_makeDirectory (tree : FileTree) (path : String) : tree.Grows (tree.makeDirectory path).2 :=
  grows_addDirectories tree _

end FileTree

end Highlighter
