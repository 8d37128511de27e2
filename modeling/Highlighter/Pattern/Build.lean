import Highlighter.Pattern.Regex
import Highlighter.Pattern.Tree
import Highlighter.Unicode.CaseFolding
import Highlighter.Unicode.Property

namespace Highlighter.Pattern

/-- The flags in force at some place of a pattern. -/
structure Flags where
  ignoreCase : Bool := false
  multiLine : Bool := false
  dotMatchesNewline : Bool := false
  swapGreed : Bool := false
  unicode : Bool := true
  crlf : Bool := false

def Flags.set (flags : Flags) : Flag × Bool → Flags
  | (.ignoreCase, on) => { flags with ignoreCase := on }
  | (.multiLine, on) => { flags with multiLine := on }
  | (.dotMatchesNewline, on) => { flags with dotMatchesNewline := on }
  | (.swapGreed, on) => { flags with swapGreed := on }
  | (.unicode, on) => { flags with unicode := on }
  | (.crlf, on) => { flags with crlf := on }
  | (.verbose, _) => flags

def Flags.apply (flags : Flags) (settings : FlagSettings) : Flags := settings.foldl Flags.set flags

/-- The case forms of a set within ASCII. -/
def foldAsciiCase (s : CharSet) : CharSet :=
  let shifted (lo hi : Nat) (shift : Nat → Nat) : CharSet :=
    .ofRanges ((s.inter (.ofRanges [(lo, hi)])).ranges.map fun r => (shift r.1, shift r.2))
  s.union ((shifted 0x41 0x5A (· + 0x20)).union (shifted 0x61 0x7A (· - 0x20)))

def Flags.foldCase (flags : Flags) (s : CharSet) : CharSet :=
  if !flags.ignoreCase then s else if flags.unicode then s.foldCase else foldAsciiCase s

/-- The complement of a set where asked for. Without the `u` flag it would hold bytes that are no characters. -/
def Flags.negate (flags : Flags) (negated : Bool) (s : CharSet) : Except Problem CharSet :=
  if !negated then .ok s else if flags.unicode then .ok s.compl else .error .bytes

def asciiOf : LetterClass → CharSet
  | .digit => .ofRanges [(0x30, 0x39)]
  | .space => .ofRanges [(0x09, 0x0D), (0x20, 0x20)]
  | .word => .ofRanges [(0x30, 0x39), (0x41, 0x5A), (0x5F, 0x5F), (0x61, 0x7A)]

def Flags.letterClass (flags : Flags) (kind : LetterClass) (negated : Bool) : Except Problem CharSet :=
  flags.negate negated <|
    if flags.unicode then
      match kind with
      | .digit => Unicode.digitChars
      | .space => Unicode.spaceChars
      | .word => Unicode.wordChars
    else asciiOf kind

def PropertyQuery.set? (query : PropertyQuery) : Option CharSet :=
  match query with
  | .name text => Unicode.named? text
  | .value property text => Unicode.valued? property text

def Flags.property (flags : Flags) (query : PropertyQuery) (negated : Bool) : Except Problem CharSet :=
  if !flags.unicode then .error .unicodeOff
  else match query.set? with
    | none => .error .unknownProperty
    | some s => flags.negate negated (flags.foldCase s)

/-- A character in a class. Without the `u` flag a class holds ASCII alone. -/
def Flags.classChar (flags : Flags) (c : Literal) : Except Problem Char :=
  if flags.unicode || c.char.toNat < 128 then .ok c.char
  else .error (if c.byte then .bytes else .unicodeOff)

def ClassOp.apply : ClassOp → CharSet → CharSet → CharSet
  | .inter => .inter
  | .diff => .diff
  | .symmDiff => .symmDiff

mutual

def ClassTree.set (flags : Flags) : ClassTree → Except Problem CharSet
  | .char c => return .single (← flags.classChar c)
  | .range lo hi => return .range (← flags.classChar lo) (← flags.classChar hi)
  | .posix ranges negated => flags.negate negated (flags.foldCase (.ofRanges ranges))
  | .letter kind negated => flags.letterClass kind negated
  | .property query negated => flags.property query negated
  | .bracketed negated inner => do flags.negate negated (flags.foldCase (← inner.set flags))
  | .union items => ClassTree.setOfItems flags items
  | .op kind lhs rhs => return kind.apply (flags.foldCase (← lhs.set flags)) (flags.foldCase (← rhs.set flags))

def ClassTree.setOfItems (flags : Flags) : List ClassTree → Except Problem CharSet
  | [] => .ok .empty
  | item :: rest => return (← item.set flags).union (← ClassTree.setOfItems flags rest)

end

def Flags.bracketed (flags : Flags) (negated : Bool) (inner : ClassTree) : Except Problem CharSet := do
  flags.negate negated (flags.foldCase (← inner.set flags))

def Flags.literal (flags : Flags) (c : Literal) : Except Problem Regex :=
  if !flags.unicode && c.byte && 128 ≤ c.char.toNat then .error .bytes
  else .ok (.ofSet (flags.foldCase (.single c.char)))

def Flags.dot (flags : Flags) : Except Problem Regex :=
  if !flags.unicode then .error .bytes
  else .ok <| .ofSet <|
    if flags.dotMatchesNewline then .all
    else if flags.crlf then (CharSet.ofRanges [(0x0A, 0x0A), (0x0D, 0x0D)]).compl
    else (CharSet.single '\n').compl

def Flags.look (flags : Flags) : Assertion → Look
  | .lineStart => if flags.multiLine then if flags.crlf then .lineStartCrlf else .lineStart else .textStart
  | .lineEnd => if flags.multiLine then if flags.crlf then .lineEndCrlf else .lineEnd else .textEnd
  | .textStart => .textStart
  | .textEnd => .textEnd
  | .wordBoundary => .word !flags.unicode
  | .notWordBoundary => .notWord !flags.unicode
  | .wordStart => .wordStart !flags.unicode
  | .wordEnd => .wordEnd !flags.unicode
  | .wordStartHalf => .wordStartHalf !flags.unicode
  | .wordEndHalf => .wordEndHalf !flags.unicode

mutual

/-- The expression of a tree under the flags before it, with the flags after it. A group keeps its flags to itself. -/
def Tree.build (flags : Flags) : Tree → Except Problem (Regex × Flags)
  | .empty => return (.empty, flags)
  | .flags settings => return (.empty, flags.apply settings)
  | .char c => return (← flags.literal c, flags)
  | .dot => return (← flags.dot, flags)
  | .assertion kind => return (.look (flags.look kind), flags)
  | .letter kind negated => return (.ofSet (← flags.letterClass kind negated), flags)
  | .property query negated => return (.ofSet (← flags.property query negated), flags)
  | .bracketed negated inner => return (.ofSet (← flags.bracketed negated inner), flags)
  | .repetition least extra greedy inner => do
    let (r, flags) ← inner.build flags
    return (.repetition least extra (greedy != flags.swapGreed) r, flags)
  | .group (.capture index) inner => do
    let (r, _) ← inner.build flags
    return (.group index r, flags)
  | .group (.plain settings) inner => do
    let (r, _) ← inner.build (flags.apply settings)
    return (r, flags)
  | .alternation branches => do
    let (rs, flags) ← Tree.buildAll flags branches
    return (.choice rs, flags)
  | .concat items => do
    let (rs, flags) ← Tree.buildAll flags items
    return (.concat rs, flags)

def Tree.buildAll (flags : Flags) : List Tree → Except Problem (List Regex × Flags)
  | [] => return ([], flags)
  | tree :: rest => do
    let (r, flags) ← tree.build flags
    let (rs, flags) ← Tree.buildAll flags rest
    return (r :: rs, flags)

end

def Tree.regex (tree : Tree) : Except Problem Regex := do
  return (← tree.build {}).1

end Highlighter.Pattern
