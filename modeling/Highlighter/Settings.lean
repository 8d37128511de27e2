import Highlighter.Grammar.Catalogue
import Highlighter.Theme
import Highlighter.Yaml.Written

namespace Highlighter

/-- What tells where a user's files are. The variables count as they are set, empty ones too. -/
structure Environment where
  configHome : Option String := none
  home : Option String := none
  /-- The home directory that the system's table of users has, if it has one. -/
  account : Option String := none
deriving DecidableEq, Repr

/-- Why there is no directory for logs. -/
inductive LogError where
  | noPlace
  | noDirectory (path : String) (problem : FileError)
deriving DecidableEq, Repr

def LogError.message : LogError → String
  | .noPlace => "no home or config directory"
  | .noDirectory path problem => s!"cannot create {path}: {problem.message}"

namespace Environment

/-- The user's home directory. A variable that is empty counts as none. -/
def homeDirectory? (env : Environment) : Option String := (env.home.filter (!·.isEmpty)).or env.account

/-- The directory of all that is kept for the user. -/
def directory? (env : Environment) : Option String :=
  let base := (env.configHome.filter (!·.isEmpty)).or (env.homeDirectory?.map fun home => Path.join home ".config")
  base.map fun base => Path.join base "scopeline"

def settingsFile? (env : Environment) : Option String := env.directory?.map fun dir => Path.join dir "config.yaml"

def grammarDirectory? (env : Environment) : Option String := env.directory?.map fun dir => Path.join dir "grammars"

def logDirectory? (env : Environment) : Option String := env.directory?.map fun dir => Path.join dir "logs"

/-- Makes sure that the directory for logs is there. -/
def makeLogDirectory (env : Environment) (tree : FileTree) : Except LogError String × FileTree :=
  match env.logDirectory? with
  | none => (.error .noPlace, tree)
  | some path =>
    match tree.makeDirectory path with
    | (none, tree) => (.ok path, tree)
    | (some problem, tree) => (.error (.noDirectory path problem), tree)

end Environment

structure Settings where
  /-- Highlight groups by scope, on top of the default rules. -/
  rules : Table String String := .empty
  grammarDirectories : List String := []
deriving DecidableEq, Repr

/-- Why settings can not be saved. -/
inductive SaveError where
  | noPlace
  | noDirectory (problem : FileError)
  | unwritable (path : String) (problem : FileError)
deriving DecidableEq, Repr

def SaveError.message : SaveError → String
  | .noPlace => "No config directory available"
  | .noDirectory problem => s!"Failed to create config directory: {problem.message}"
  | .unwritable path problem => s!"Failed to write config to {path}: {problem.message}"

namespace Settings

def setRule (s : Settings) (scope group : String) : Settings := { s with rules := s.rules.insert scope group }

def ofYaml (text : String) : Except Yaml.Problem Settings :=
  Yaml.readRecord text ["rules", "grammar_dirs"] fun document fields => do
    return {
      rules := .ofList (← Yaml.optional fields "rules" [] document.textEntries)
      grammarDirectories := ← Yaml.optional fields "grammar_dirs" [] (document.list document.text) }

def toYaml (s : Settings) : String :=
  String.ofList (Yaml.writeMapping "rules" s.rules.entries ++ Yaml.writeList "grammar_dirs" s.grammarDirectories)

/-- The settings in a file; the default ones, if it can not be read. -/
def loadFrom (files : FileView) (path : String) : Settings :=
  match files.readText path with
  | .ok text => (ofYaml text).toOption.getD {}
  | .error _ => {}

def load (env : Environment) (files : FileView) : Settings := (env.settingsFile?.map (loadFrom files)).getD {}

/-- Saves the settings to a file, in directories that are made for it. -/
def saveTo (s : Settings) (tree : FileTree) (path : String) : Option SaveError × FileTree :=
  match ((Path.parent? path).map tree.makeDirectory).getD (none, tree) with
  | (some problem, tree) => (some (.noDirectory problem), tree)
  | (none, tree) =>
    match tree.write path s.toYaml.toUTF8 with
    | .ok tree => (none, tree)
    | .error problem => (some (.unwritable path problem), tree)

def save (s : Settings) (env : Environment) (tree : FileTree) : Option SaveError × FileTree :=
  match env.settingsFile? with
  | some path => s.saveTo tree path
  | none => (some .noPlace, tree)

def theme (s : Settings) : Theme := .ofRules s.rules

/-- The directories with grammars of the user, the later ones of more weight. -/
def directories (s : Settings) (env : Environment) : List String := env.grammarDirectory?.toList ++ s.grammarDirectories

/-- The built-in grammars and those of the user's directories. -/
def catalogue {α : Type} (s : Settings) (env : Environment) (files : FileView) : Catalogue α :=
  (s.directories env).foldl (fun c directory => (c.registerDirectory files directory).2) .builtin

end Settings

end Highlighter
