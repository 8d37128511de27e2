import Highlighter.Yaml.Node

namespace Highlighter.Yaml

/-- Whether a plain scalar is one of the spellings of null. -/
def isNull (text : String) : Bool := ["~", "null", "Null", "NULL"].contains text

namespace Document

/-- The node itself, or the one that it is an alias for. -/
def follow (document : Document) : Node → Except Problem Node
  | .alias number =>
    match document.target? number with
    | some node => .ok node
    | none => .error .unknownAlias
  | node => .ok node

def text (document : Document) (node : Node) : Except Problem String := do
  match ← document.follow node with
  | .scalar _ _ text => return text
  | _ => throw .notText

/-- A text, unless it is null or nothing is written. A tag other than that of null makes it a text. -/
def optionalText (document : Document) (node : Node) : Except Problem (Option String) := do
  match ← document.follow node with
  | .scalar _ false text => return some text
  | .scalar none true text => return if text.isEmpty || isNull text then none else some text
  | .scalar (some tag) true text =>
    if tag ≠ "tag:yaml.org,2002:null" then return some text
    else if isNull text then return none
    else throw .notNull
  | _ => throw .notText

def items (document : Document) (node : Node) : Except Problem (List Node) := do
  match ← document.follow node with
  | .sequence items => return items
  | .scalar _ true "" => return []
  | _ => throw .notSequence

def list {α : Type} (document : Document) (read : Node → Except Problem α) (node : Node) : Except Problem (List α) := do
  (← document.items node).mapM read

def entries (document : Document) (node : Node) : Except Problem (List (Node × Node)) := do
  match ← document.follow node with
  | .mapping entries => return entries
  | .scalar _ true "" => return []
  | _ => throw .notMapping

/-- The entries of a mapping from text to text, in the order in which they are written. -/
def textEntries (document : Document) (node : Node) : Except Problem (List (String × String)) := do
  (← document.entries node).mapM fun (key, value) => return (← document.text key, ← document.text value)

/-- The fields of a record, of those it may have. Others are passed over; none stands twice. -/
def fields (document : Document) (names : List String) (node : Node) : Except Problem (List (String × Node)) := do
  let entries ← (← document.entries node).mapM fun (key, value) => return (← document.text key, value)
  let known := entries.filter fun (name, _) => names.contains name
  match names.find? fun name => (known.countP fun (key, _) => key = name) > 1 with
  | some name => throw (.fieldRepeated name)
  | none => return known

end Document

/-- A field that has to be there. -/
def required {α : Type} (fields : List (String × Node)) (name : String) (read : Node → Except Problem α) :
    Except Problem α :=
  match fields.lookup name with
  | some node => read node
  | none => .error (.fieldMissing name)

/-- A field that may be left out. -/
def optional {α : Type} (fields : List (String × Node)) (name : String) (default : α)
    (read : Node → Except Problem α) : Except Problem α :=
  match fields.lookup name with
  | some node => read node
  | none => .ok default

/-- Reads the fields of the record that a text holds. -/
def readRecord {α : Type} (text : String) (names : List String)
    (read : Document → List (String × Node) → Except Problem α) : Except Problem α := do
  let document ← Document.read text
  let fields ← match document.root with
    | some root => document.fields names root
    | none => pure []
  read document fields

end Highlighter.Yaml
