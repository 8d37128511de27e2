import Highlighter.Files.Error
import Highlighter.Files.Path
import Highlighter.Table

namespace Highlighter

/-- What can be asked of files: the bytes of one, and the names in a directory. -/
structure FileView where
  read : String → Except FileError ByteArray
  list : String → Except FileError (List String)

/-- A file as text. -/
def FileView.readText (files : FileView) (path : String) : Except FileError String := do
  match String.fromUTF8? (← files.read path) with
  | some text => return text
  | none => throw .notText

inductive FileNode where
  | file (bytes : ByteArray)
  | directory

/-- The place of a file: the names that lead to it from the root. -/
abbrev Location := List String

instance : LE Location := List.instLE

instance : Std.IsLinearOrder Location := List.instIsLinearOrder

instance : Std.LawfulOrderLT Location := List.instLawfulOrderLTOfAsymmLt

structure FileTree where
  nodes : Table Location FileNode
  workingDirectory : Location

namespace FileTree

/-- What stands at a location. The root is always a directory. -/
def node? (tree : FileTree) (location : Location) : Option FileNode :=
  if location.isEmpty then some .directory else tree.nodes.get? location

/-- Where a path leads to, and whether only a directory can stand there. -/
structure Target where
  location : Location
  isDirectory : Bool
deriving DecidableEq, Repr

/-- Follows the parts of a path. Each but the last has to lead to a directory. -/
def follow (tree : FileTree) (location : Location) (asDirectory : Bool) : List String → Except FileError Target
  | [] => .ok ⟨location, asDirectory⟩
  | part :: parts =>
    match tree.node? location with
    | none => .error .notFound
    | some (.file _) => .error .notDirectory
    | some .directory =>
      if part = "" || part = "." then tree.follow location true parts
      else if part = ".." then tree.follow location.dropLast true parts
      else if 255 < part.utf8ByteSize then .error .nameTooLong
      else if parts.all (· = "") then .ok ⟨location ++ [part], !parts.isEmpty⟩
      else tree.follow (location ++ [part]) false parts

def target (tree : FileTree) (path : String) : Except FileError Target :=
  if path.toList.contains '\x00' then .error .nulInPath
  else if path.isEmpty then .error .notFound
  else if 4096 ≤ path.utf8ByteSize then .error .nameTooLong
  else
    let start := if path.startsWith "/" then [] else tree.workingDirectory
    tree.follow start false (path.splitOn "/")

/-- What is found at a path. -/
def find (tree : FileTree) (path : String) : Except FileError FileNode := do
  let target ← tree.target path
  match tree.node? target.location with
  | none => throw .notFound
  | some (.file bytes) => if target.isDirectory then throw .notDirectory else return .file bytes
  | some .directory => return .directory

def isDirectory (tree : FileTree) (path : String) : Bool :=
  match tree.find path with
  | .ok .directory => true
  | _ => false

def read (tree : FileTree) (path : String) : Except FileError ByteArray := do
  match ← tree.find path with
  | .file bytes => return bytes
  | .directory => throw .isDirectory

/-- The names in a directory, in their order. -/
def list (tree : FileTree) (path : String) : Except FileError (List String) := do
  let target ← tree.target path
  match tree.node? target.location with
  | none => throw .notFound
  | some (.file _) => throw .notDirectory
  | some .directory =>
    return tree.nodes.keys.filterMap fun location =>
      if location.dropLast = target.location then location.getLast? else none

def view (tree : FileTree) : FileView := ⟨tree.read, tree.list⟩

def readText (tree : FileTree) (path : String) : Except FileError String := tree.view.readText path

def put (tree : FileTree) (location : Location) (node : FileNode) : FileTree :=
  { tree with nodes := tree.nodes.insert location node }

/-- Adds a directory to one that is there. -/
def addDirectory (tree : FileTree) (path : String) : Except FileError FileTree := do
  let target ← tree.target path
  if (tree.node? target.location).isSome then throw .alreadyExists
  else return tree.put target.location .directory

/-- Adds a directory, if none is there. -/
def ensureDirectory (tree : FileTree) (path : String) : Option FileError × FileTree :=
  match tree.addDirectory path with
  | .ok tree => (none, tree)
  | .error problem => (if tree.isDirectory path then none else some problem, tree)

/-- Adds the first directory of a list, and before it those after it as far as they are missing. What has been added
stays, whether the whole succeeds or not. -/
def addDirectories (tree : FileTree) : List String → Option FileError × FileTree
  | [] => (none, tree)
  | path :: parents =>
    if path.isEmpty then (none, tree)
    else if tree.addDirectory path matches .error .notFound then
      match tree.addDirectories parents with
      | (some problem, tree) => (some problem, tree)
      | (none, tree) => tree.ensureDirectory path
    else tree.ensureDirectory path

/-- Makes sure that a directory is there, with those above it. -/
def makeDirectory (tree : FileTree) (path : String) : Option FileError × FileTree :=
  tree.addDirectories (Path.ancestors path.length path)

/-- Writes a file in place of the one at a path, or a new one into its directory. -/
def write (tree : FileTree) (path : String) (bytes : ByteArray) : Except FileError FileTree := do
  let target ← tree.target path
  match tree.node? target.location with
  | some .directory => throw .isDirectory
  | _ => if target.isDirectory then throw .isDirectory else return tree.put target.location (.file bytes)

/-- Writes to the end of a file, or into a new one. -/
def append (tree : FileTree) (path : String) (bytes : ByteArray) : Except FileError FileTree :=
  tree.write path ((tree.read path).toOption.getD .empty ++ bytes)

end FileTree

end Highlighter
