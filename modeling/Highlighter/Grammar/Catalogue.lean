import Highlighter.Files.Tree
import Highlighter.Grammar.Builtin
import Highlighter.Grammar.Lexer

namespace Highlighter

structure Catalogue (α : Type) where
  definitions : Table String GrammarDefinition := .empty
  grammars : Table String (Grammar α) := .empty
  failures : Table String GrammarError := .empty

namespace Catalogue

variable {α : Type}

/-- Registers a definition in place of whatever has its scope. -/
def register (c : Catalogue α) (definition : GrammarDefinition) : Catalogue α where
  definitions := c.definitions.insert definition.scope definition
  grammars := c.grammars.erase definition.scope
  failures := c.failures.erase definition.scope

/-- Registers a grammar that needs no compiling. It has no definition, so no files are known for it. -/
def registerGrammar (c : Catalogue α) (grammar : Grammar α) : Catalogue α where
  definitions := c.definitions.erase grammar.scope
  grammars := c.grammars.insert grammar.scope grammar
  failures := c.failures.erase grammar.scope

/-- Registers the definition in a text and tells its scope. -/
def registerYaml (c : Catalogue α) (text : String) : Except GrammarError (String × Catalogue α) := do
  let definition ← GrammarDefinition.ofYaml text
  return (definition.scope, c.register definition)

/-- Registers the definition in a file and tells its scope. -/
def registerFile (c : Catalogue α) (files : FileView) (path : String) : Except GrammarError (String × Catalogue α) := do
  let text ← (files.readText path).mapError fun problem => .unreadable path problem.message
  c.registerYaml text

def isGrammarFile (path : String) : Bool :=
  Path.extension? path = some "yaml" || Path.extension? path = some "yml"

/-- The grammar files in a directory, in the order of their names. -/
def grammarFiles (files : FileView) (directory : String) : List String :=
  match files.list directory with
  | .ok names => ((names.map (Path.join directory)).filter isGrammarFile).mergeSort
  | .error _ => []

/-- Registers a file and counts it, unless it is not to be had. -/
def registerCounted (files : FileView) (found : Nat × Catalogue α) (path : String) : Nat × Catalogue α :=
  match found.2.registerFile files path with
  | .ok (_, c) => (found.1 + 1, c)
  | .error _ => found

/-- Registers all grammar files of a directory and counts those that are to be had. -/
def registerDirectory (c : Catalogue α) (files : FileView) (directory : String) : Nat × Catalogue α :=
  (grammarFiles files directory).foldl (registerCounted files) (0, c)

/-- The grammars that the library brings along. -/
def builtin : Catalogue α := Builtin.definitions.foldl register {}

def contains (c : Catalogue α) (scope : String) : Bool :=
  c.definitions.contains scope || c.grammars.contains scope

/-- The registered scopes in their order. -/
def scopes (c : Catalogue α) : List String :=
  ((c.definitions.keys ++ c.grammars.keys).mergeSort).eraseDups

/-- The grammar of a scope, with what is to be kept of it. -/
def load (c : Catalogue α) (scope : String) : Except GrammarError (Grammar α) × Catalogue α :=
  match c.grammars.get? scope, c.failures.get? scope, c.definitions.get? scope with
  | some grammar, _, _ => (.ok grammar, c)
  | none, some problem, _ => (.error problem, c)
  | none, none, none => (.error (.unknownScope scope), c)
  | none, none, some definition =>
    match definition.compile with
    | .ok rules => (.ok rules.toGrammar, { c with grammars := c.grammars.insert scope rules.toGrammar })
    | .error problem => (.error problem, { c with failures := c.failures.insert scope problem })

end Catalogue

end Highlighter
