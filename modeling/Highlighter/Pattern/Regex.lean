import Highlighter.CharSet

namespace Highlighter.Pattern

def total (sizes : List Nat) : Nat := sizes.foldr (· + ·) 0

/-- Conditions on a place between two characters. -/
inductive Look where
  | textStart
  | textEnd
  | lineStart
  | lineEnd
  | lineStartCrlf
  | lineEndCrlf
  | word (ascii : Bool)
  | notWord (ascii : Bool)
  | wordStart (ascii : Bool)
  | wordEnd (ascii : Bool)
  | wordStartHalf (ascii : Bool)
  | wordEndHalf (ascii : Bool)
deriving DecidableEq, Repr

inductive Regex where
  | empty
  | literal (chars : List Char)
  | oneOf (set : CharSet)
  | look (condition : Look)
  /-- At least `min` times and, with `extra`, at most that many times more. -/
  | rep (min : Nat) (extra : Option Nat) (greedy : Bool) (inner : Regex)
  | group (index : Nat) (inner : Regex)
  | seq (first second : Regex)
  | alt (first second : Regex)
deriving DecidableEq, Repr, Inhabited

namespace Regex

def ofSet (set : CharSet) : Regex :=
  match set.only? with
  | some c => .literal [c]
  | none => .oneOf set

/-- The parts of a sequence. -/
def factors : Regex → List Regex
  | .empty => []
  | .seq r s => r :: s.factors
  | r => [r]

/-- The branches of a choice. -/
def branches : Regex → List Regex
  | .alt r s => r :: s.branches
  | r => [r]

def ofFactors : List Regex → Regex
  | [] => .empty
  | [r] => r
  | r :: rs => .seq r (ofFactors rs)

def ofBranches : List Regex → Regex
  | [] => .oneOf .empty
  | [r] => r
  | r :: rs => .alt r (ofBranches rs)

/-- Joins literals that stand next to each other. -/
def joinLiterals : List Regex → List Regex
  | [] => []
  | .literal cs :: rs =>
    match joinLiterals rs with
    | .literal ds :: rest => .literal (cs ++ ds) :: rest
    | rest => .literal cs :: rest
  | r :: rs => r :: joinLiterals rs

def concat (rs : List Regex) : Regex := ofFactors (joinLiterals (rs.flatMap factors))

/-- The set of an expression that is a single character. -/
def char? : Regex → Option CharSet
  | .literal [c] => some (.single c)
  | _ => none

/-- The set of an expression that is one character of a set. -/
def set? : Regex → Option CharSet
  | .oneOf set => some set
  | _ => none

/-- The parts that two sequences begin with alike. -/
def commonFactors : List Regex → List Regex → List Regex
  | r :: rs, s :: ss => if r = s then r :: commonFactors rs ss else []
  | _, _ => []

/-- What all branches begin with, if each of them is a sequence of two parts or more. -/
def sharedFactors : List (List Regex) → List Regex
  | [] => []
  | first :: rest =>
    if (first :: rest).all fun branch => 2 ≤ branch.length then rest.foldl commonFactors first else []

/-- A choice, simplified in at most `fuel` rounds: each takes away parts that all branches have. -/
def choiceWithin : Nat → List Regex → Regex
  | 0, rs => ofBranches (rs.flatMap branches)
  | fuel + 1, rs =>
    let rs := rs.flatMap branches
    if rs.length ≤ 1 then ofBranches rs
    else match (rs.mapM char?).or (rs.mapM set?) with
      | some sets => ofSet (sets.foldl CharSet.union .empty)
      | none =>
        let parts := rs.map factors
        match sharedFactors parts with
        | [] => ofBranches rs
        | shared =>
          let rest := parts.map fun branch => ofFactors (branch.drop shared.length)
          concat (shared ++ [choiceWithin fuel rest])

/-- A choice. One among characters or among sets of them is a set, and what all branches begin with is taken in front. -/
def choice (rs : List Regex) : Regex :=
  choiceWithin (total ((rs.flatMap branches).map fun r => r.factors.length + 1)) rs

/-- Whether nothing but the empty text can match. -/
def isEmptyOnly : Regex → Bool
  | .empty => true
  | .look _ => true
  | .literal cs => cs.isEmpty
  | .oneOf _ => false
  | .rep _ _ _ r => r.isEmptyOnly
  | .group _ r => r.isEmptyOnly
  | .seq r s => r.isEmptyOnly && s.isEmptyOnly
  | .alt r s => r.isEmptyOnly && s.isEmptyOnly

/-- Whether every match has a character. -/
def needsText : Regex → Bool
  | .empty | .look _ => false
  | .literal chars => !chars.isEmpty
  | .oneOf set => !set.isEmpty
  | .rep least _ _ r => 0 < least && r.needsText
  | .group _ r => r.needsText
  | .seq r s => r.needsText || s.needsText
  | .alt r s => r.needsText && s.needsText

/-- A repetition. What matches only the empty text is worth repeating once at most. -/
def repetition (least : Nat) (extra : Option Nat) (greedy : Bool) (r : Regex) : Regex :=
  let (least, extra) := if r.isEmptyOnly then
      (min least 1, some (match extra with
        | some n => min (least + n) 1 - min least 1
        | none => 1 - min least 1))
    else (least, extra)
  if extra = some 0 && least = 0 then .empty
  else if extra = some 0 && least = 1 then r
  else .rep least extra greedy r

end Regex

end Highlighter.Pattern
