import Highlighter.CharSet

namespace Highlighter.Pattern

/-- Why a text is not a pattern. -/
inductive Problem where
  | groupUnclosed
  | groupUnopened
  | groupName
  | groupNameRepeated
  | lookAround
  | flags
  | repetitionOfNothing
  | repetitionCount
  | escape
  | backReference
  | hexNumber
  | wordBoundary
  | classUnclosed
  | classRange
  | classEscape
  | unknownProperty
  /-- Something that could match a part of a character. -/
  | bytes
  /-- A character or class that needs the `u` flag. -/
  | unicodeOff
  | nestedTooDeep
  | tooLarge
deriving DecidableEq, Repr

inductive Flag where
  | ignoreCase
  | multiLine
  | dotMatchesNewline
  | swapGreed
  | unicode
  | crlf
  | verbose
deriving DecidableEq, Repr

/-- Flags in the order written, each with whether it is switched on. -/
abbrev FlagSettings := List (Flag × Bool)

inductive Assertion where
  | lineStart
  | lineEnd
  | textStart
  | textEnd
  | wordBoundary
  | notWordBoundary
  | wordStart
  | wordEnd
  | wordStartHalf
  | wordEndHalf
deriving DecidableEq, Repr

/-- The classes that have a letter for a name. -/
inductive LetterClass where
  | digit
  | space
  | word
deriving DecidableEq, Repr

/-- A character property as queried: by one name, or as a property and its value. -/
inductive PropertyQuery where
  | name (name : String)
  | value (property value : String)
deriving DecidableEq, Repr

/-- A character as written. `byte` tells the two-digit form `\xFF`, which names a byte when the `u` flag is off. -/
structure Literal where
  char : Char
  byte : Bool := false
deriving DecidableEq, Repr

inductive ClassOp where
  | inter
  | diff
  | symmDiff
deriving DecidableEq, Repr

/-- What stands between brackets. -/
inductive ClassTree where
  | char (c : Literal)
  | range (lo hi : Literal)
  | posix (ranges : List (Nat × Nat)) (negated : Bool)
  | letter (kind : LetterClass) (negated : Bool)
  | property (query : PropertyQuery) (negated : Bool)
  | bracketed (negated : Bool) (inner : ClassTree)
  | union (items : List ClassTree)
  | op (kind : ClassOp) (lhs rhs : ClassTree)

inductive GroupKind where
  | capture (index : Nat)
  | plain (settings : FlagSettings)
deriving DecidableEq, Repr

inductive Tree where
  | empty
  | flags (settings : FlagSettings)
  | char (c : Literal)
  | dot
  | assertion (kind : Assertion)
  | letter (kind : LetterClass) (negated : Bool)
  | property (query : PropertyQuery) (negated : Bool)
  | bracketed (negated : Bool) (inner : ClassTree)
  /-- At least `min` and, with `extra`, at most that many more. -/
  | repetition (min : Nat) (extra : Option Nat) (greedy : Bool) (inner : Tree)
  | group (kind : GroupKind) (inner : Tree)
  | alternation (branches : List Tree)
  | concat (items : List Tree)

/-- The items of a class in order; a single item needs no union. -/
def ClassTree.ofItems : List ClassTree → ClassTree
  | [item] => item
  | items => .union items

def Tree.ofItems : List Tree → Tree
  | [] => .empty
  | [item] => item
  | items => .concat items

mutual

/-- How deep a class nests inside its brackets. -/
def ClassTree.depth : ClassTree → Nat
  | .bracketed _ inner => inner.depth + 1
  | .union [] => 0
  | .union items => ClassTree.depthOfItems items + 1
  | .op _ lhs rhs => max lhs.depth rhs.depth + 1
  | _ => 0

def ClassTree.depthOfItems : List ClassTree → Nat
  | [] => 0
  | item :: rest => max item.depth (ClassTree.depthOfItems rest)

end

mutual

def Tree.depth : Tree → Nat
  | .bracketed _ inner => inner.depth + 1
  | .repetition _ _ _ inner => inner.depth + 1
  | .group _ inner => inner.depth + 1
  | .alternation branches => Tree.depthOfItems branches + 1
  | .concat items => Tree.depthOfItems items + 1
  | _ => 0

def Tree.depthOfItems : List Tree → Nat
  | [] => 0
  | item :: rest => max item.depth (Tree.depthOfItems rest)

end

/-- Deeper patterns are refused. -/
def maxDepth : Nat := 250

end Highlighter.Pattern
