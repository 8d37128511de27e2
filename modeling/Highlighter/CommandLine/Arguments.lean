namespace Highlighter.CommandLine

structure Arguments where
  path : String
  scope : Option String := none
  settings : Option String := none
  json : Bool := false
  all : Bool := false
deriving DecidableEq, Repr

/-- Why the arguments ask for nothing that can be done; help and version are asked for in the same way. -/
inductive UsageError where
  | missingFile
  | unknownArgument (argument : String)
  | repeated (name : String)
  | missingValue (name : String)
  | valueForSwitch (name : String)
  | help
  | version
deriving DecidableEq, Repr

/-- What takes a value. -/
inductive Slot where
  | path
  | scope
  | settings
deriving DecidableEq, Repr

inductive Switch where
  | json
  | all
  | help
  | version
deriving DecidableEq, Repr

def Slot.name : Slot → String
  | .path => "<FILE>"
  | .scope => "--scope <SCOPE>"
  | .settings => "--config <PATH>"

def Switch.name : Switch → String
  | .json => "--json"
  | .all => "--all"
  | .help => "--help"
  | .version => "--version"

def longSlots : List (String × Slot) := [("scope", .scope), ("config", .settings)]

def longSwitches : List (String × Switch) := [("json", .json), ("all", .all), ("help", .help), ("version", .version)]

def shortSlots : List (Char × Slot) := [('s', .scope), ('c', .settings)]

def shortSwitches : List (Char × Switch) := [('a', .all), ('h', .help), ('V', .version)]

/-- What has been read so far. A value is taken in when the next argument asks for something, or at the end. -/
structure Reader where
  path : Option String := none
  scope : Option String := none
  settings : Option String := none
  json : Bool := false
  all : Bool := false
  /-- What a value is awaited for, or the value that is to be taken in. -/
  pending : Option (Slot × Option String) := none

namespace Reader

def value? (r : Reader) : Slot → Option String
  | .path => r.path
  | .scope => r.scope
  | .settings => r.settings

def setValue (r : Reader) (value : String) : Slot → Reader
  | .path => { r with path := some value }
  | .scope => { r with scope := some value }
  | .settings => { r with settings := some value }

/-- Takes in a value. Only a scope may be empty, and nothing is given twice. -/
def give (r : Reader) (slot : Slot) (value : String) : Except UsageError Reader :=
  if (r.value? slot).isSome then .error (.repeated slot.name)
  else if value.isEmpty && slot ≠ .scope then .error (.missingValue slot.name)
  else .ok (r.setValue value slot)

/-- Takes in what is pending. -/
def settle (r : Reader) : Except UsageError Reader :=
  match r.pending with
  | none => .ok r
  | some (slot, none) => .error (.missingValue slot.name)
  | some (slot, some value) => { r with pending := none }.give slot value

def switchOn (r : Reader) (switch : Switch) : Except UsageError Reader := do
  let r ← r.settle
  match switch with
  | .json => if r.json then throw (.repeated switch.name) else return { r with json := true }
  | .all => if r.all then throw (.repeated switch.name) else return { r with all := true }
  | .help => throw .help
  | .version => throw .version

/-- An option, with the value written behind it if there is one. -/
def option (r : Reader) (slot : Slot) (value : Option String) : Except UsageError Reader := do
  let r ← r.settle
  match value with
  | some value => r.give slot value
  | none => return { r with pending := some (slot, none) }

/-- The only file; a second one is an argument that nobody knows. -/
def file (r : Reader) (argument : String) : Except UsageError Reader :=
  if r.path.isSome || r.pending.any (·.1 = .path) then .error (.unknownArgument argument)
  else do return { ← r.settle with pending := some (.path, some argument) }

/-- An argument from after its two hyphens. -/
def long (r : Reader) (text : List Char) : Except UsageError Reader :=
  let name := String.ofList (text.takeWhile (· ≠ '='))
  let value := ((text.dropWhile (· ≠ '=')).tail?).map String.ofList
  match longSlots.lookup name, longSwitches.lookup name with
  | some slot, _ => r.option slot value
  | none, some switch => if value.isSome then .error (.valueForSwitch switch.name) else r.switchOn switch
  | none, none => .error (.unknownArgument (String.ofList ('-' :: '-' :: text)))

/-- Letters from after a single hyphen. -/
def short (r : Reader) : List Char → Except UsageError Reader
  | [] => .ok r
  | letter :: rest =>
    match shortSlots.lookup letter, shortSwitches.lookup letter with
    | some slot, _ =>
      r.option slot <| match rest with
        | [] => none
        | '=' :: value => some (String.ofList value)
        | value => some (String.ofList value)
    | none, some switch => do short (← r.switchOn switch) rest
    | none, none => .error (.unknownArgument (String.ofList ['-', letter]))

/-- An argument that is no option: a value that is awaited, or else the file. -/
def word (r : Reader) (argument : String) : Except UsageError Reader :=
  match r.pending with
  | some (slot, none) => .ok { r with pending := some (slot, some argument) }
  | _ => r.file argument

def argument (r : Reader) (argument : String) : Except UsageError Reader :=
  match argument.toList with
  | '-' :: '-' :: text => r.long text
  | ['-'] => r.word argument
  | '-' :: letters => r.short letters
  | _ => r.word argument

def arguments (r : Reader) : List String → Except UsageError Reader
  | [] => r.settle
  | "--" :: rest => do (← rest.foldlM file r).settle
  | argument :: rest => do (← r.argument argument).arguments rest

end Reader

def Arguments.read (arguments : List String) : Except UsageError Arguments := do
  let r ← Reader.arguments {} arguments
  match r.path with
  | some path => return ⟨path, r.scope, r.settings, r.json, r.all⟩
  | none => throw .missingFile

end Highlighter.CommandLine
