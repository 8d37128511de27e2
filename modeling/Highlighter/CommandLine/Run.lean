import Highlighter.CommandLine.Arguments
import Highlighter.CommandLine.Log
import Highlighter.CommandLine.Report
import Highlighter.Language
import Highlighter.Tokenizer

namespace Highlighter

/-- Grammars are had from a catalogue. -/
def Catalogue.loader {α : Type} : Loader (Catalogue α) α := ⟨Catalogue.load⟩

namespace CommandLine

/-- The lines of a text. A line ends in a line feed, with or without a carriage return before it. -/
def linesFrom (line : List Char) : List Char → List String
  | [] => if line.isEmpty then [] else [String.ofList line.reverse]
  | '\n' :: rest =>
    let line := match line with
      | '\r' :: line => line
      | line => line
    String.ofList line.reverse :: linesFrom [] rest
  | c :: rest => linesFrom (c :: line) rest

def linesOf (text : String) : List String := linesFrom [] text.toList

/-- Why there is nothing to print. -/
inductive RunError where
  | language (problem : LanguageError)
  | unreadable (path : String) (problem : FileError)
  | grammar (problem : GrammarError)
  | fault (problem : Fault)
deriving DecidableEq, Repr

def RunError.message : RunError → String
  | .language problem => problem.message
  | .unreadable path problem => s!"Failed to read {path}\n\nCaused by:\n    " ++ problem.message
  | .grammar problem => problem.message
  | .fault problem => problem.message

/-- The settings that the arguments name, or else those of the user. -/
def Arguments.loadSettings (arguments : Arguments) (env : Environment) (files : FileView) : Settings :=
  match arguments.settings with
  | some path => Settings.loadFrom files path
  | none => Settings.load env files

/-- The scope that the arguments name, or else that of the file's language. -/
def Arguments.chooseScope {α : Type} (arguments : Arguments) (grammars : Catalogue α) (listing : Listing) :
    Except LanguageError String :=
  match arguments.scope with
  | some scope => .ok scope
  | none => (Languages.ofCatalogue grammars listing).scopeOfPath arguments.path

/-- The tokens of the file. -/
def Arguments.tokens (arguments : Arguments) (grammars : Catalogue Empty) (files : FileView) (listing : Listing) :
    Except RunError (List Token) := do
  let scope ← (arguments.chooseScope grammars listing).mapError .language
  let text ← (files.readText arguments.path).mapError (.unreadable arguments.path)
  let parse ← (Tokenizer.parse Catalogue.loader ⟨grammars, .empty⟩ 0 scope (linesOf text)).mapError .fault
  let answer ← parse.answer.mapError .grammar
  return answer.tokens

/-- What is printed. Tokens without a group are left out, unless all are asked for. -/
def Arguments.run (arguments : Arguments) (env : Environment) (files : FileView) (listing : Listing) :
    Except RunError String := do
  let settings := arguments.loadSettings env files
  let tokens ← arguments.tokens (settings.catalogue env files) files listing
  let records := tokens.map fun token => ⟨token, settings.theme.group? token.scopes⟩
  return report arguments.json (records.filter fun record => arguments.all || record.group.isSome)

structure Outcome where
  exitCode : Nat
  output : String := ""
  errors : String := ""
deriving DecidableEq, Repr

def versionText : String := "scopeline 0.1.0\n"

def usageText : String := "Usage: scopeline [OPTIONS] <FILE>\n"

def helpText : String :=
"Print scoped tokens and highlight groups for a file

Usage: scopeline [OPTIONS] <FILE>

Arguments:
  <FILE>  File to tokenize

Options:
  -s, --scope <SCOPE>  Grammar scope to use instead of detecting it from the extension
  -c, --config <PATH>  Config file to use instead of ~/.config/scopeline/config.yaml
      --json           Emit tokens as JSON
  -a, --all            Include tokens that resolve to no highlight group
  -h, --help           Print help
  -V, --version        Print version
"

/-- What is said of arguments that can not be followed. -/
def UsageError.describe : UsageError → String
  | .missingFile => "the following required arguments were not provided:\n  <FILE>"
  | .unknownArgument argument => s!"unexpected argument '{argument}' found"
  | .repeated name => s!"the argument '{name}' cannot be used multiple times"
  | .missingValue name => s!"a value is required for '{name}' but none was supplied"
  | .valueForSwitch name => s!"unexpected value for '{name}' found; no more were expected"
  | .help => "help"
  | .version => "version"

def UsageError.outcome : UsageError → Outcome
  | .help => { exitCode := 0, output := helpText }
  | .version => { exitCode := 0, output := versionText }
  | problem =>
    { exitCode := 2
      errors := "error: " ++ problem.describe ++ "\n\n" ++ usageText ++ "\nFor more information, try '--help'.\n" }

/-- The outcome of a run with the given arguments. -/
def outcome (arguments : List String) (env : Environment) (files : FileView) (listing : Listing := .byScope) : Outcome :=
  match Arguments.read arguments with
  | .error problem => problem.outcome
  | .ok arguments =>
    match arguments.run env files listing with
    | .ok output => { exitCode := 0, output }
    | .error problem => { exitCode := 1, errors := "Error: " ++ problem.message ++ "\n" }

/-- What is said when there is no directory for logs. The run goes on without one. -/
def logNotice (problem : LogError) : String := s!"scopeline: file logging disabled: {problem.message}\n"

/-- The outcome of a run that stops at once, since it can not open its log. -/
def logRefused (problem : FileError) : Outcome :=
  { exitCode := 101, errors := s!"initializing rolling file appender failed: {problem.message}\n" }

/-- What a run meets with besides its arguments and its files. -/
structure Circumstances where
  day : String := "1970-01-01"
  /-- What the run writes into its log before it reads any file. -/
  logged : ByteArray := .empty
  listing : Listing := .byScope

/-- The outcome of a run on a tree of files, in which the log is opened first. -/
def outcomeIn (arguments : List String) (env : Environment) (tree : FileTree) (now : Circumstances := {}) : Outcome :=
  match openLog env now.day now.logged tree with
  | .error problem => logRefused problem
  | .ok (problem, tree) =>
    let outcome := outcome arguments env tree.view now.listing
    { outcome with errors := (problem.map logNotice).getD "" ++ outcome.errors }

end CommandLine

end Highlighter
