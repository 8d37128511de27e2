namespace Highlighter

/-- One rule: a pattern to match, or the patterns at both ends of a block. -/
structure RuleDefinition where
  pattern : Option String := none
  opening : Option String := none
  closing : Option String := none
  scope : String
deriving DecidableEq, Repr

structure GrammarDefinition where
  name : String
  scope : String
  /-- Extensions of the files that the grammar is for, without the dot. -/
  fileTypes : List String := []
  patterns : List RuleDefinition := []
deriving DecidableEq, Repr

end Highlighter
