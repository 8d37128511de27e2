import Highlighter.Pattern.Automaton
import Highlighter.Text.Columns
import Highlighter.Unicode.WordChars

namespace Highlighter.Pattern

/-- A place in a text: the characters around it. -/
structure Place where
  before : Option Char
  after : Option Char

def isWordAt (ascii : Bool) (c : Option Char) : Bool :=
  match c with
  | none => false
  | some c => if ascii then Unicode.isAsciiWord c else Unicode.isWord c

def Look.holds (look : Look) (here : Place) : Bool :=
  let before (ascii : Bool) : Bool := isWordAt ascii here.before
  let after (ascii : Bool) : Bool := isWordAt ascii here.after
  match look with
  | .textStart => here.before = none
  | .textEnd => here.after = none
  | .lineStart => here.before = none || here.before = some '\n'
  | .lineEnd => here.after = none || here.after = some '\n'
  | .lineStartCrlf =>
    here.before = none || here.before = some '\n' || (here.before = some '\r' && here.after ≠ some '\n')
  | .lineEndCrlf =>
    here.after = none || here.after = some '\r' || (here.after = some '\n' && here.before ≠ some '\r')
  | .word ascii => before ascii != after ascii
  | .notWord ascii => before ascii == after ascii
  | .wordStart ascii => !before ascii && after ascii
  | .wordEnd ascii => before ascii && !after ascii
  | .wordStartHalf ascii => !before ascii
  | .wordEndHalf ascii => !after ascii

theorem countP_lt_of_mem {p q : Nat → Bool} (h : ∀ i, q i = true → p i = true) {i : Nat} (hp : p i = true)
    (hq : q i = false) {l : List Nat} (found : i ∈ l) : l.countP q < l.countP p := by
  induction l with
  | nil => exact absurd found (by simp)
  | cons j l ih =>
    rw [List.countP_cons, List.countP_cons]
    rcases List.mem_cons.mp found with rfl | found
    · have := List.countP_mono_left (l := l) fun j _ => h j
      simp only [hp, hq]; simp; omega
    · have := ih found
      have := h j
      cases hqj : q j <;> cases hpj : p j <;> simp_all
      omega

/-- The number of states below `n` that have not been seen. -/
def unseen (n : Nat) (seen : List Nat) : Nat := (List.range n).countP fun i => !seen.contains i

theorem unseen_cons_lt {n i : Nat} {seen : List Nat} (h : i < n ∧ i ∉ seen) : unseen n (i :: seen) < unseen n seen := by
  refine countP_lt_of_mem (fun j hj => ?_) (i := i) ?_ ?_ (List.mem_range.mpr h.1)
  · simp_all
  · simpa using h.2
  · simp

/-- Follows states at a place and collects the states behind the next character in `left`, last first. Once a match
has ended, less preferred states are dropped. The answer is what is left, and whether a match has ended. -/
def follow (states : Array State) (here : Place) (seen left : List Nat) : List Nat → List Nat × Bool
  | [] => (left.reverse, false)
  | i :: todo =>
    if _new : i < states.size ∧ i ∉ seen then
      match states[i] with
      | .accept => (left.reverse, true)
      | .choice next => follow states here (i :: seen) left (next ++ todo)
      | .look condition next =>
        follow states here (i :: seen) left (if condition.holds here then next :: todo else todo)
      | .take set next => follow states here (i :: seen) (if here.after.any set.contains then next :: left else left) todo
    else follow states here seen left todo
termination_by todo => (unseen states.size seen, todo.length)
decreasing_by
  · exact .left _ _ (unseen_cons_lt _new)
  · exact .left _ _ (unseen_cons_lt _new)
  · exact .left _ _ (unseen_cons_lt _new)
  · exact .right _ (Nat.lt_succ_self _)

/-- Runs an automaton over a text from `offset` on. The answer is where the preferred match ends, or `best`, found
before. -/
def run (states : Array State) (before : Option Char) (current : List Nat) (best : Option Nat) (offset : Nat) :
    List Char → Option Nat
  | [] => if (follow states ⟨before, none⟩ [] [] current).2 then some offset else best
  | c :: cs =>
    let (left, ended) := follow states ⟨before, some c⟩ [] [] current
    let best := if ended then some offset else best
    if left.isEmpty then best else run states (some c) left best (offset + c.utf8Size) cs

/-- A stretch of a text, in bytes. -/
structure Match where
  start : Nat
  stop : Nat
deriving DecidableEq, Repr

/-- The first match in the text that begins at `offset` after the character `before`. -/
def search (states : Array State) (before : Option Char) (offset : Nat) (text : List Char) : Option Match :=
  match run states before [0] none offset text with
  | some stop => some ⟨offset, stop⟩
  | none =>
    match text with
    | [] => none
    | c :: cs => search states (some c) (offset + c.utf8Size) cs

/-- A run ends in the text it is given, or where an earlier one did. -/
theorem run_bounds {states : Array State} {before : Option Char} {current : List Nat} {best : Option Nat} {offset stop : Nat}
    {text : List Char} (h : run states before current best offset text = some stop) :
    best = some stop ∨ offset ≤ stop ∧ stop ≤ offset + Text.byteLength text := by
  induction text generalizing before current best offset with
  | nil =>
    simp only [run] at h
    split at h
    · obtain rfl := Option.some.inj h; right; simp [Text.byteLength]
    · exact .inl h
  | cons c cs ih =>
    have here (ended : Bool) (h : (if ended then some offset else best) = some stop) :
        best = some stop ∨ offset ≤ stop ∧ stop ≤ offset + Text.byteLength (c :: cs) := by
      cases ended with
      | false => exact .inl h
      | true => obtain rfl := Option.some.inj h; right; omega
    simp only [run] at h
    split at h
    · exact here _ h
    · rcases ih h with h | h
      · exact here _ h
      · right; simp only [Text.byteLength]; omega

theorem search_bounds {states : Array State} {before : Option Char} {offset : Nat} {text : List Char} {m : Match}
    (h : search states before offset text = some m) :
    offset ≤ m.start ∧ m.start ≤ m.stop ∧ m.stop ≤ offset + Text.byteLength text := by
  induction text generalizing before offset with
  | nil =>
    simp only [search] at h
    split at h
    · rename_i found
      obtain rfl := Option.some.inj h
      rcases run_bounds found with h | h
      · exact absurd h (by simp)
      · exact ⟨Nat.le_refl _, h⟩
    · exact absurd h (by simp)
  | cons c cs ih =>
    simp only [search] at h
    split at h
    · rename_i found
      obtain rfl := Option.some.inj h
      rcases run_bounds found with h | h
      · exact absurd h (by simp)
      · exact ⟨Nat.le_refl _, h⟩
    · have := ih h; simp only [Text.byteLength]; omega

end Highlighter.Pattern
