import Highlighter.Grammar
import Highlighter.Grammar.Definition
import Highlighter.Pattern

namespace Highlighter

inductive Rule where
  | single (pattern : Pattern) (scope : String)
  | block (opening closing : Pattern) (scope : String)

namespace Rule

/-- The pattern that a match of the rule begins with. -/
def opener : Rule → Pattern
  | .single pattern _ => pattern
  | .block opening _ _ => opening

def scope : Rule → String
  | .single _ scope => scope
  | .block _ _ scope => scope

def isBlock : Rule → Bool
  | .single .. => false
  | .block .. => true

end Rule

structure RuleGrammar where
  name : String
  scope : String
  rules : List Rule

def compilePattern (source : String) : Except GrammarError Pattern :=
  match Pattern.compile source with
  | .ok pattern => .ok pattern
  | .error problem => .error (.invalidPattern source (problem.message source))

/-- Compiles one rule of the grammar with the given root scope. -/
def RuleDefinition.compile (rule : RuleDefinition) (root : String) : Except GrammarError Rule :=
  match rule.pattern, rule.opening, rule.closing with
  | some pattern, none, none => return .single (← compilePattern pattern) rule.scope
  | none, some opening, some closing =>
    return .block (← compilePattern opening) (← compilePattern closing) rule.scope
  | _, _, _ =>
    throw <| .malformed <| s!"pattern '{rule.scope}' in {root} needs either " ++
      "\x60match\x60 or both \x60begin\x60 and \x60end\x60"

/-- Compiles the rules in their order; the first that fails decides the error. -/
def GrammarDefinition.compile (definition : GrammarDefinition) : Except GrammarError RuleGrammar := do
  let rules ← definition.patterns.mapM fun rule => rule.compile definition.scope
  return ⟨definition.name, definition.scope, rules⟩

end Highlighter
