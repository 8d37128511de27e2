import Highlighter.Grammar.Catalogue
import Highlighter.Unicode.LowerCase

namespace Highlighter

/-- Why there is no grammar for a file or a language. -/
inductive LanguageError where
  | unknownExtension (path : String)
  | unknownLanguage (name : String)
deriving DecidableEq, Repr

def LanguageError.message : LanguageError → String
  | .unknownExtension path => s!"Unknown extension: {path}"
  | .unknownLanguage name => s!"Unknown language: {name}"

/-- What is known of languages, all in lower case: the language of an extension and the scope of a language. -/
structure Languages where
  extensions : Table String String
  scopes : Table String String
deriving DecidableEq, Repr

/-- An order in which the definitions of a catalogue are listed. Nothing is known of it but that each is listed once. -/
structure Listing where
  arrange : List GrammarDefinition → List GrammarDefinition
  perm : ∀ definitions, (arrange definitions).Perm definitions

/-- Definitions in the order of their scopes, as a catalogue keeps them. -/
def Listing.byScope : Listing := ⟨id, fun _ => .refl _⟩

namespace Languages

/-- Extensions whose language is known without any grammar. -/
def knownExtensions : List (String × String) :=
  [("bash", "shell"), ("c", "c"), ("cc", "cpp"), ("cjs", "javascript"), ("cpp", "cpp"), ("css", "css"), ("go", "go"),
   ("h", "c"), ("hpp", "cpp"), ("htm", "html"), ("html", "html"), ("java", "java"), ("js", "javascript"),
   ("json", "json"), ("lua", "lua"), ("markdown", "markdown"), ("md", "markdown"), ("mjs", "javascript"),
   ("php", "php"), ("py", "python"), ("rb", "ruby"), ("rs", "rust"), ("sh", "shell"), ("toml", "toml"),
   ("ts", "typescript"), ("tsx", "typescript"), ("vim", "vim"), ("yaml", "yaml"), ("yml", "yaml")]

def known : Languages := ⟨.ofList knownExtensions, .empty⟩

/-- Adds a language, whose scope and file types take the place of what was known of them. -/
def register (languages : Languages) (name scope : String) (fileTypes : List String) : Languages :=
  let name := Unicode.lowerCase name
  { extensions := fileTypes.foldl (fun table type => table.insert (Unicode.lowerCase type) name) languages.extensions
    scopes := languages.scopes.insert name scope }

/-- The known extensions, and the languages of some definitions. -/
def ofDefinitions (definitions : List GrammarDefinition) : Languages :=
  definitions.foldl (fun languages d => languages.register d.name d.scope d.fileTypes) known

/-- The languages of all definitions of a catalogue, in the order in which they happen to be listed. -/
def ofCatalogue {α : Type} (c : Catalogue α) (listing : Listing := .byScope) : Languages :=
  ofDefinitions (listing.arrange c.definitions.values)

/-- The language of a file, told by its extension. -/
def ofPath (languages : Languages) (path : String) : Except LanguageError String :=
  match (Path.extension? path).bind fun extension => languages.extensions.get? (Unicode.lowerCase extension) with
  | some name => .ok name
  | none => .error (.unknownExtension path)

def scopeOf (languages : Languages) (name : String) : Except LanguageError String :=
  match languages.scopes.get? (Unicode.lowerCase name) with
  | some scope => .ok scope
  | none => .error (.unknownLanguage name)

def scopeOfPath (languages : Languages) (path : String) : Except LanguageError String := do
  languages.scopeOf (← languages.ofPath path)

end Languages

end Highlighter
