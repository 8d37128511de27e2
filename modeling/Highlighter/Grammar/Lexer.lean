import Highlighter.Grammar.Rules

namespace Highlighter

/-- The earliest match of an opener from `offset` on, with its rule and the rule's index, counted from `index`. -/
def earliest (line : List Char) (offset index : Nat) : List Rule → Option (Nat × Rule × Pattern.Match)
  | [] => none
  | rule :: rules =>
    match rule.opener.findAt line offset, earliest line offset (index + 1) rules with
    | none, best => best
    | some m, none => some (index, rule, m)
    | some m, some best => if m.start ≤ best.2.2.start then some (index, rule, m) else some best

theorem earliest_bounds {line : List Char} {offset first index : Nat} {rules : List Rule} {rule : Rule}
    {m : Pattern.Match} (h : earliest line offset first rules = some (index, rule, m)) :
    offset ≤ m.start ∧ m.start ≤ m.stop ∧ m.stop ≤ Text.byteLength line := by
  induction rules generalizing first with
  | nil => exact absurd h (by simp [earliest])
  | cons head rules ih =>
    unfold earliest at h
    split at h
    · exact ih h
    · rename_i found _
      simp only [Option.some.injEq, Prod.mk.injEq] at h
      exact h.2.2 ▸ Pattern.findAt_bounds found
    · rename_i found later
      split at h
      · simp only [Option.some.injEq, Prod.mk.injEq] at h
        exact h.2.2 ▸ Pattern.findAt_bounds found
      · exact ih (later.trans h)

/-- A stretch of a line in bytes, with the scope that a rule gives it; without one it has the root scope alone. -/
structure Piece where
  start : Nat
  stop : Nat
  scope : Option String
deriving DecidableEq, Repr

/-- The piece between two offsets, unless it is empty. -/
def Piece.between (start stop : Nat) (scope : Option String) : List Piece :=
  if start < stop then [⟨start, stop, scope⟩] else []

/-- The spans of pieces, counted in characters. -/
def CharCursor.spans (root : String) (cursor : CharCursor) : List Piece → Except Fault (List Span)
  | [] => .ok []
  | piece :: pieces => do
    let (start, cursor) ← cursor.seek piece.start
    let (stop, cursor) ← cursor.seek piece.stop
    return ⟨start, stop, root :: piece.scope.toList⟩ :: (← cursor.spans root pieces)

namespace RuleGrammar

/-- The pieces of a line from a byte offset on, and the block open at its end. A block that the grammar does not have
is no block. -/
def lexFrom (g : RuleGrammar) (line : List Char) (offset : Nat) (openBlock : Option Nat) :
    Except Fault (List Piece × Option Nat) :=
  if _inside : offset < Text.byteLength line then
    match openBlock with
    | some index =>
      match g.rules[index]? with
      | some (.block _ closing scope) =>
        match _found : closing.findAt line offset with
        | some m => do
          let (pieces, openBlock) ← g.lexFrom line m.stop none
          return (Piece.between offset m.stop scope ++ pieces, openBlock)
        | none => .ok (Piece.between offset (Text.byteLength line) scope, some index)
      | _ => g.lexFrom line offset none
    | none =>
      match _found : earliest line offset 0 g.rules with
      | none => .ok (Piece.between offset (Text.byteLength line) none, none)
      | some (index, rule, m) =>
        if _nonempty : m.start < m.stop then do
          let (pieces, openBlock) ← g.lexFrom line m.stop (if rule.isBlock then some index else none)
          return (Piece.between offset m.start none ++ Piece.between m.start m.stop rule.scope ++ pieces, openBlock)
        else
          match _after : Text.nextBoundary line m.start with
          | .error fault => .error fault
          | .ok next => do
            let (pieces, openBlock) ← g.lexFrom line next none
            return (Piece.between offset next none ++ pieces, openBlock)
  else .ok ([], openBlock)
termination_by (Text.byteLength line - offset, openBlock.isSome.toNat)
decreasing_by
  · have := Pattern.findAt_bounds _found
    by_cases same : m.stop = offset
    · rw [same]; exact .right _ (by simp)
    · exact .left _ _ (by omega)
  · exact .right _ (by simp)
  · have := earliest_bounds _found
    exact .left _ _ (by omega)
  · have := earliest_bounds _found
    have := Text.le_of_nextBoundary _after
    by_cases within : m.start < Text.byteLength line
    · have := Text.lt_of_nextBoundary _after within
      exact .left _ _ (by omega)
    · exact .left _ _ (by omega)

def tokenizeLine {α : Type} (g : RuleGrammar) (line : String) (prior : Option (LineState α)) :
    Except Fault (LineTokens α) := do
  let (pieces, openBlock) ← g.lexFrom line.toList 0 (prior.bind LineState.openBlock?)
  let spans ← (CharCursor.ofText line).spans g.scope pieces
  return ⟨spans, .rules openBlock⟩

def toGrammar {α : Type} (g : RuleGrammar) : Grammar α := ⟨g.scope, g.tokenizeLine⟩

end RuleGrammar

end Highlighter
