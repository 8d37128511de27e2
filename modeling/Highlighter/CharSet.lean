namespace Highlighter

/-- A set of characters: code point ranges in ascending order, with a gap before each next one. -/
structure CharSet where
  ranges : List (Nat × Nat)
deriving DecidableEq, Repr, Inhabited

namespace CharSet

/-- The code point that follows `n` among those a character can have: the surrogates are skipped. -/
def nextPoint (n : Nat) : Nat :=
  if n = 0xD7FF then 0xE000 else n + 1

def prevPoint (n : Nat) : Nat :=
  if n = 0xE000 then 0xD7FF else n - 1

def lastPoint : Nat := 0x10FFFF

def inRanges (n : Nat) : List (Nat × Nat) → Bool
  | [] => false
  | (lo, hi) :: rest => lo ≤ n && (n ≤ hi || inRanges n rest)

def contains (s : CharSet) (c : Char) : Bool :=
  inRanges c.toNat s.ranges

def empty : CharSet := ⟨[]⟩

def all : CharSet := ⟨[(0, lastPoint)]⟩

def single (c : Char) : CharSet := ⟨[(c.toNat, c.toNat)]⟩

def isEmpty (s : CharSet) : Bool := s.ranges.isEmpty

/-- Puts one range into its place, joined with every range that it meets or touches. -/
def insertRange (lo hi : Nat) : List (Nat × Nat) → List (Nat × Nat)
  | [] => [(lo, hi)]
  | (a, b) :: rest =>
    if nextPoint hi < a then (lo, hi) :: (a, b) :: rest
    else if nextPoint b < lo then (a, b) :: insertRange lo hi rest
    else insertRange (min lo a) (max hi b) rest

def ofRanges (ranges : List (Nat × Nat)) : CharSet :=
  ⟨ranges.foldr (fun r acc => insertRange r.1 r.2 acc) []⟩

def range (lo hi : Char) : CharSet := ofRanges [(lo.toNat, hi.toNat)]

def union (s t : CharSet) : CharSet :=
  ⟨s.ranges.foldr (fun r acc => insertRange r.1 r.2 acc) t.ranges⟩

/-- The ranges between the given ones, from `start` up to the last code point. -/
def gaps (start : Nat) : List (Nat × Nat) → List (Nat × Nat)
  | [] => if start ≤ lastPoint then [(start, lastPoint)] else []
  | (a, b) :: rest =>
    if start < a then (start, prevPoint a) :: gaps (nextPoint b) rest else gaps (nextPoint b) rest

def compl (s : CharSet) : CharSet := ⟨gaps 0 s.ranges⟩

def inter (s t : CharSet) : CharSet := (s.compl.union t.compl).compl

def diff (s t : CharSet) : CharSet := s.inter t.compl

def symmDiff (s t : CharSet) : CharSet := (s.union t).diff (s.inter t)

def isAscii (s : CharSet) : Bool := s.ranges.all fun r => r.2 ≤ 0x7F

/-- The only member of a set that has exactly one. -/
def only? (s : CharSet) : Option Char :=
  match s.ranges with
  | [(lo, hi)] => if lo = hi then some (Char.ofNat lo) else none
  | _ => none

/-- Reads ranges written in hexadecimal, such as `41-5A 5F`, apart by blanks or line ends: `lo` is the number
before a hyphen, `cur` the one being read. -/
def hexRanges : List Char → Option Nat → Option Nat → List (Nat × Nat)
  | [], _, none => []
  | [], lo, some n => [(lo.getD n, n)]
  | c :: cs, lo, cur =>
    if c = ' ' || c = '\n' then
      match cur with
      | none => hexRanges cs lo none
      | some n => (lo.getD n, n) :: hexRanges cs none none
    else if c = '-' then hexRanges cs cur none
    else hexRanges cs lo (some (cur.getD 0 * 16 + if c.isDigit then c.toNat - 48 else c.toNat - 55))

def ofHex (text : String) : CharSet := ofRanges (hexRanges text.toList none none)

end CharSet

/-- A set of a published table: the names that select it, in their loosest spelling, and its ranges. -/
structure NamedSet where
  names : List String
  ranges : String

def NamedSet.find? (table : List NamedSet) (name : String) : Option CharSet :=
  (table.find? fun entry => entry.names.contains name).map fun entry => CharSet.ofHex entry.ranges

end Highlighter
