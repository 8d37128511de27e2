import Highlighter.Pattern.Build
import Highlighter.Pattern.Reader
import Highlighter.Pattern.Search
import Highlighter.Pattern.Size

namespace Highlighter

/-- A pattern together with the text it was written as. -/
structure Pattern where
  source : String
  automaton : Array Pattern.State

namespace Pattern

def Problem.describe : Problem → String
  | .groupUnclosed => "unclosed group"
  | .groupUnopened => "unopened group"
  | .groupName => "invalid capture group name"
  | .groupNameRepeated => "duplicate capture group name"
  | .lookAround => "look-around is not supported"
  | .flags => "invalid flags"
  | .repetitionOfNothing => "repetition operator missing expression"
  | .repetitionCount => "invalid repetition count"
  | .escape => "unrecognized escape sequence"
  | .backReference => "backreferences are not supported"
  | .hexNumber => "invalid hexadecimal number"
  | .wordBoundary => "invalid word boundary assertion"
  | .classUnclosed => "unclosed character class"
  | .classRange => "invalid character class range"
  | .classEscape => "invalid escape sequence in character class"
  | .unknownProperty => "Unicode property not found"
  | .bytes => "pattern can match invalid UTF-8"
  | .unicodeOff => "Unicode not allowed here"
  | .nestedTooDeep => s!"exceeds the nest limit of {maxDepth}"
  | .tooLarge => s!"Compiled regex exceeds size limit of {Regex.sizeLimit} bytes."

/-- The lines that report a problem with a pattern. -/
def Problem.message (problem : Problem) (source : String) : String :=
  match problem with
  | .tooLarge => problem.describe
  | problem => s!"regex parse error:\n    {source}\nerror: " ++ problem.describe

def compile (source : String) : Except Problem Pattern := do
  let regex ← (← Tree.read source).regex
  if regex.fits then return ⟨source, regex.automaton⟩ else throw .tooLarge

/-- The first match at or after a byte offset. What stands before the offset is seen by `^` and `\b`. -/
def findAt (p : Pattern) (line : List Char) (offset : Nat) : Option Match :=
  match Text.seek none line offset with
  | none => none
  | some (before, rest) => search p.automaton before offset rest

/-- A match lies between the offset it is searched from and the end of the line. -/
theorem findAt_bounds {p : Pattern} {line : List Char} {offset : Nat} {m : Match}
    (h : p.findAt line offset = some m) :
    offset ≤ m.start ∧ m.start ≤ m.stop ∧ m.stop ≤ Text.byteLength line := by
  unfold findAt at h
  split at h
  · exact absurd h (by simp)
  · rename_i before rest found
    have := Text.byteLength_of_seek found
    have := search_bounds h
    omega

end Pattern

end Highlighter
