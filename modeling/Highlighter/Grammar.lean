import Highlighter.Token

namespace Highlighter

/-- What a grammar leaves behind at the end of a line. A rule grammar leaves the rule of the block still open; other
grammars leave values of their own. -/
inductive LineState (α : Type) where
  | rules (openBlock : Option Nat)
  | other (value : α)
deriving DecidableEq, Repr

/-- The block that a rule grammar goes on with. It starts afresh after a state that is not its kind's. -/
def LineState.openBlock? {α : Type} : LineState α → Option Nat
  | .rules openBlock => openBlock
  | .other _ => none

/-- The spans of one line, and the state for the next. -/
structure LineTokens (α : Type) where
  spans : List Span
  state : LineState α

structure Grammar (α : Type) where
  scope : String
  tokenizeLine : String → Option (LineState α) → Except Fault (LineTokens α)

/-- Why a grammar is not to be had. -/
inductive GrammarError where
  | unknownScope (scope : String)
  | unreadable (path message : String)
  | malformed (message : String)
  | invalidPattern (pattern message : String)
deriving DecidableEq, Repr

def GrammarError.message : GrammarError → String
  | .unknownScope scope => s!"Unknown grammar scope: {scope}"
  | .unreadable path message => s!"Failed to read grammar {path}: {message}"
  | .malformed message => s!"Parse error: {message}"
  | .invalidPattern pattern message => s!"Invalid pattern '{pattern}': {message}"

end Highlighter
