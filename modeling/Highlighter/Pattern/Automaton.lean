import Highlighter.Pattern.Regex

namespace Highlighter.Pattern

inductive State where
  /-- Goes on in one of several states, preferred ones first. -/
  | choice (next : List Nat)
  | look (condition : Look) (next : Nat)
  | take (set : CharSet) (next : Nat)
  | accept
deriving DecidableEq, Repr

/-- The choice of a repetition, to go on or to leave. -/
def State.loop (greedy : Bool) (inside outside : Nat) : State :=
  .choice (if greedy then [inside, outside] else [outside, inside])

def literalStates (base next : Nat) : List Char → List State
  | [] => [.choice [next]]
  | [c] => [.take (.single c) next]
  | c :: cs => .take (.single c) (base + 1) :: literalStates (base + 1) next cs

/-- Copies of `size` states each, one behind the other. -/
def copies (size : Nat) (copy : Nat → Nat → List State) : Nat → Nat → List State
  | 0, _ => []
  | n + 1, base => copy base (base + size) ++ copies size copy n (base + size)

/-- Copies before each of which the rest can be left out. -/
def optionalCopies (greedy : Bool) (size : Nat) (copy : Nat → Nat → List State) (outside : Nat) :
    Nat → Nat → List State
  | 0, _ => []
  | n + 1, base =>
    .loop greedy (base + 1) outside ::
      (copy (base + 1) (base + 1 + size) ++ optionalCopies greedy size copy outside n (base + 1 + size))

namespace Regex

/-- The number of states that an expression takes. -/
def stateCount : Regex → Nat
  | .empty | .oneOf _ | .look _ => 1
  | .literal chars => max 1 chars.length
  | .group _ r => r.stateCount
  | .seq r s => r.stateCount + s.stateCount
  | .alt r s => 1 + r.stateCount + s.stateCount
  | .rep 0 none _ r => (if r.needsText then 1 else 2) + r.stateCount
  | .rep (n + 1) none _ r => (n + 1) * r.stateCount + 1
  | .rep least (some extra) _ r => least * r.stateCount + extra * (r.stateCount + 1) + 1

/-- The states of an expression, counted from `base`, before the state `next`. Where the inside of a loop can be
empty, the loop is entered by another choice than the one that goes on with it. -/
def states : Regex → Nat → Nat → List State
  | .empty, _, next => [.choice [next]]
  | .literal chars, base, next => literalStates base next chars
  | .oneOf set, _, next => [.take set next]
  | .look condition, _, next => [.look condition next]
  | .group _ r, base, next => r.states base next
  | .seq r s, base, next => r.states base (base + r.stateCount) ++ s.states (base + r.stateCount) next
  | .alt r s, base, next =>
    .choice [base + 1, base + 1 + r.stateCount] ::
      (r.states (base + 1) next ++ s.states (base + 1 + r.stateCount) next)
  | .rep 0 none greedy r, base, next =>
    if r.needsText then .loop greedy (base + 1) next :: r.states (base + 1) base
    else .loop greedy (base + 2) next :: .loop greedy (base + 2) next :: r.states (base + 2) (base + 1)
  | .rep (n + 1) none greedy r, base, next =>
    let last := base + n * r.stateCount
    copies r.stateCount r.states n base ++
      (r.states last (last + r.stateCount) ++ [.loop greedy last next])
  | .rep least (some extra) greedy r, base, next =>
    let optional := base + least * r.stateCount
    let outside := optional + extra * (r.stateCount + 1)
    copies r.stateCount r.states least base ++
      (optionalCopies greedy r.stateCount r.states outside extra optional ++ [.choice [next]])

/-- The automaton of an expression, which begins in its state 0. -/
def automaton (r : Regex) : Array State := (r.states 0 r.stateCount ++ [State.accept]).toArray

end Regex

theorem length_literalStates (base next : Nat) (chars : List Char) :
    (literalStates base next chars).length = max 1 chars.length := by
  fun_induction literalStates base next chars with
  | case1 => rfl
  | case2 => rfl
  | case3 base c cs nonempty ih =>
    have : cs.length ≠ 0 := fun h => nonempty (List.eq_nil_of_length_eq_zero h)
    simp only [List.length_cons, ih]
    omega

theorem length_copies {size : Nat} {copy : Nat → Nat → List State}
    (h : ∀ base next, (copy base next).length = size) (n base : Nat) :
    (copies size copy n base).length = n * size := by
  induction n generalizing base with
  | zero => simp [copies]
  | succ n ih => simp [copies, h, ih, Nat.succ_mul, Nat.add_comm]

theorem length_optionalCopies {size : Nat} {copy : Nat → Nat → List State}
    (h : ∀ base next, (copy base next).length = size) (greedy : Bool) (outside n base : Nat) :
    (optionalCopies greedy size copy outside n base).length = n * (size + 1) := by
  induction n generalizing base with
  | zero => simp [optionalCopies]
  | succ n ih => simp only [optionalCopies, List.length_cons, List.length_append, h, ih, Nat.succ_mul]; omega

/-- An expression has as many states as were counted, so what stands behind it begins where it is looked for. -/
theorem Regex.length_states (r : Regex) (base next : Nat) : (r.states base next).length = r.stateCount := by
  fun_induction Regex.stateCount r generalizing base next with
  | case1 | case2 | case3 => rfl
  | case4 chars => exact length_literalStates base next chars
  | case5 _ r ih => exact ih base next
  | case6 r s ihr ihs => simp [states, ihr, ihs]
  | case7 r s ihr ihs => simp [states, ihr, ihs]; omega
  | case8 greedy r ih => unfold states; split <;> simp [*] <;> omega
  | case9 n greedy r ih => simp [states, ih, length_copies ih, Nat.succ_mul]; omega
  | case10 least extra greedy r ih =>
    simp [states, length_copies ih, length_optionalCopies ih]; omega

end Highlighter.Pattern
