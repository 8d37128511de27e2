import Highlighter.Table

namespace Highlighter

/-- Rules with the longest text first. -/
structure Theme where
  rules : List (String × String)
deriving DecidableEq, Repr

namespace Theme

/-- Longer texts stand before shorter ones, and texts of one length in their order. -/
def precedes (a b : String × String) : Bool :=
  b.1.utf8ByteSize < a.1.utf8ByteSize || (b.1.utf8ByteSize = a.1.utf8ByteSize && a.1 ≤ b.1)

def ofEntries (entries : List (String × String)) : Theme := ⟨entries.mergeSort precedes⟩

/-- The group of one scope. -/
def groupOf? (theme : Theme) (scope : String) : Option String :=
  (theme.rules.find? fun rule => rule.1.toList.isPrefixOf scope.toList).map Prod.snd

/-- The group of a token. The first scope is the root of its grammar and takes no part. -/
def group? (theme : Theme) (scopes : List String) : Option String :=
  (scopes.drop 1).reverse.findSome? theme.groupOf?

def size (theme : Theme) : Nat := theme.rules.length

def defaultRules : List (String × String) :=
  [("comment", "Comment"),
   ("comment.block.documentation", "SpecialComment"),
   ("constant", "Constant"),
   ("constant.character", "Character"),
   ("constant.character.escape", "SpecialChar"),
   ("constant.language", "Constant"),
   ("constant.language.boolean", "Boolean"),
   ("constant.numeric", "Number"),
   ("constant.numeric.float", "Float"),
   ("entity.name", "Identifier"),
   ("entity.name.class", "Type"),
   ("entity.name.function", "Function"),
   ("entity.name.section", "Title"),
   ("entity.name.tag", "Tag"),
   ("entity.name.type", "Type"),
   ("entity.other.attribute-name", "Label"),
   ("invalid", "Error"),
   ("keyword", "Keyword"),
   ("keyword.control", "Statement"),
   ("keyword.control.conditional", "Conditional"),
   ("keyword.control.import", "Include"),
   ("keyword.control.loop", "Repeat"),
   ("keyword.operator", "Operator"),
   ("markup.bold", "Bold"),
   ("markup.heading", "Title"),
   ("markup.italic", "Italic"),
   ("markup.underline.link", "Underlined"),
   ("meta.preprocessor", "PreProc"),
   ("punctuation", "Delimiter"),
   ("punctuation.definition.comment", "Comment"),
   ("punctuation.definition.string", "String"),
   ("storage", "StorageClass"),
   ("storage.type", "Type"),
   ("string", "String"),
   ("string.regexp", "SpecialChar"),
   ("support.class", "Type"),
   ("support.constant", "Constant"),
   ("support.function", "Function"),
   ("support.type", "Type"),
   ("support.type.property-name", "Label"),
   ("variable", "Identifier"),
   ("variable.language", "Special"),
   ("variable.parameter", "Identifier")]

/-- The default rules, with others added or in their place. -/
def withDefaults (rules : Table String String) : Table String String := (Table.ofList defaultRules).merge rules

def ofRules (rules : Table String String) : Theme := ofEntries (withDefaults rules).entries

end Theme

end Highlighter
