import Mathlib.Order.WellFounded
import Highlighter.Pattern.Search

namespace Highlighter.Pattern

/-- The state `j` comes behind the state `i` without a character in between. -/
inductive Behind (states : Array State) (j i : Nat) : Prop
  | choice {next} : states[i]? = some (.choice next) → j ∈ next → Behind states j i
  | look {condition} : states[i]? = some (.look condition j) → Behind states j i

/-- No state comes behind itself without a character in between. -/
def Forward (states : Array State) : Prop := WellFounded (Behind states)

theorem Forward.irrefl {states : Array State} (forward : Forward states) (i : Nat) :
    ¬Relation.TransGen (Behind states) i i :=
  forward.transGen.irrefl.irrefl i

/-- What each state is worth at a place, where a match that ends there is worth `ended`, and a state behind the next
character what `later` says. -/
structure Worth (states : Array State) (here : Place) (later : Nat → Option Nat) (ended : Nat)
    (worth : Nat → Option Nat) : Prop where
  outside : ∀ {i}, states[i]? = none → worth i = none
  accept : ∀ {i}, states[i]? = some .accept → worth i = some ended
  choice : ∀ {i next}, states[i]? = some (.choice next) → worth i = next.findSome? worth
  look : ∀ {i condition next}, states[i]? = some (.look condition next) →
    worth i = if condition.holds here then worth next else none
  take : ∀ {i set next}, states[i]? = some (.take set next) →
    worth i = if here.after.any set.contains then later next else none

section

variable {states : Array State} {here : Place} {later : Nat → Option Nat} {ended : Nat} {worth : Nat → Option Nat}

/-- The worth of a state, from the worth of those behind it. -/
def worthFrom (states : Array State) (here : Place) (later : Nat → Option Nat) (ended i : Nat)
    (worth : ∀ j, Behind states j i → Option Nat) : Option Nat :=
  match kind : states[i]? with
  | none => none
  | some .accept => some ended
  | some (.choice next) => next.attach.findSome? fun j => worth j.1 (.choice kind j.2)
  | some (.look condition next) => if condition.holds here then worth next (.look kind) else none
  | some (.take set next) => if here.after.any set.contains then later next else none

/-- In an automaton that only goes forward all states have a worth. -/
theorem Forward.exists_worth (forward : Forward states) (here : Place) (later : Nat → Option Nat) (ended : Nat) :
    ∃ worth, Worth states here later ended worth := by
  refine ⟨forward.fix (worthFrom states here later ended), ?_, ?_, ?_, ?_, ?_⟩
  · intro i kind
    rw [forward.fix_eq, worthFrom]
    split <;> simp_all
  · intro i kind
    rw [forward.fix_eq, worthFrom]
    split <;> simp_all
  · intro i next kind
    rw [forward.fix_eq, worthFrom]
    split <;> simp_all
  · intro i condition next kind
    rw [forward.fix_eq, worthFrom]
    split <;> rename_i same <;> cases kind.symm.trans same
    rfl
  · intro i set next kind
    rw [forward.fix_eq, worthFrom]
    split <;> simp_all

theorem findSome?_cons_eq_or {β γ : Type} (f : β → Option γ) (x : β) (xs : List β) :
    (x :: xs).findSome? f = (f x).or (xs.findSome? f) := by
  rw [List.findSome?_cons]
  cases f x <;> rfl

/-- A state that has been followed is settled: if it is worth anything, then so are the states that are left, together
with those in front of the ones still to do that come behind it. -/
def Settled (states : Array State) (later worth : Nat → Option Nat) (seen left todo : List Nat) : Prop :=
  ∀ j ∈ seen, worth j ≠ none → ∃ front back, todo = front ++ back ∧
    (∀ k ∈ front, Relation.TransGen (Behind states) k j) ∧
    (left.reverse.findSome? later).or (front.findSome? worth) ≠ none

variable {seen left found todo more : List Nat} {i : Nat}

/-- A state is followed: others that come behind it take its place, or one is left for later. -/
theorem Settled.advance (settled : Settled states later worth seen left (i :: todo))
    (behind : ∀ k ∈ more, Behind states k i)
    (grows : left.reverse.findSome? later ≠ none → found.reverse.findSome? later ≠ none)
    (same : (found.reverse.findSome? later).or (more.findSome? worth) = (left.reverse.findSome? later).or (worth i)) :
    Settled states later worth (i :: seen) found (more ++ todo) := by
  intro j member valuable
  rcases List.mem_cons.mp member with rfl | member
  · refine ⟨more, todo, rfl, fun k known => .single (behind k known), ?_⟩
    rw [same]
    simp [valuable]
  · obtain ⟨front, back, split, below, value⟩ := settled j member valuable
    cases front with
    | nil => exact ⟨[], more ++ todo, rfl, nofun, by simpa using grows (by simpa using value)⟩
    | cons first front =>
      obtain ⟨rfl, rfl⟩ := List.cons.inj split
      refine ⟨more ++ front, back, (List.append_assoc more front back).symm, fun k known => ?_, ?_⟩
      · rcases List.mem_append.mp known with known | known
        · exact .trans (.single (behind k known)) (below i List.mem_cons_self)
        · exact below k (List.mem_cons_of_mem _ known)
      · rwa [List.findSome?_append, ← Option.or_assoc, same, Option.or_assoc, ← findSome?_cons_eq_or]

/-- A state that has been seen, or that does not exist, adds nothing to what is left. -/
theorem Settled.adds_nothing (forward : Forward states) (exact_ : Worth states here later ended worth)
    (settled : Settled states later worth seen left (i :: todo)) (old : ¬(i < states.size ∧ i ∉ seen)) :
    left.reverse.findSome? later ≠ none ∨ worth i = none := by
  by_cases size : i < states.size
  · have member : i ∈ seen := Classical.not_not.mp fun new => old ⟨size, new⟩
    by_cases nothing : worth i = none
    · exact .inr nothing
    · obtain ⟨front, back, split, below, value⟩ := settled i member nothing
      cases front with
      | nil => exact .inl (by simpa using value)
      | cons first front =>
        obtain ⟨rfl, rfl⟩ := List.cons.inj split
        exact absurd (below i List.mem_cons_self) (forward.irrefl i)
  · exact .inr (exact_.outside (Array.getElem?_eq_none (Nat.not_lt.mp size)))

theorem Settled.skip (settled : Settled states later worth seen left (i :: todo))
    (nothing : left.reverse.findSome? later ≠ none ∨ worth i = none) :
    Settled states later worth seen left todo := by
  intro j member valuable
  obtain ⟨front, back, split, below, value⟩ := settled j member valuable
  cases front with
  | nil => exact ⟨[], todo, rfl, nofun, value⟩
  | cons first front =>
    obtain ⟨rfl, rfl⟩ := List.cons.inj split
    rcases nothing with some_ | none_
    · exact ⟨[], front ++ back, rfl, nofun, by simpa using some_⟩
    · refine ⟨front, back, rfl, fun k known => below k (List.mem_cons_of_mem _ known), ?_⟩
      rwa [findSome?_cons_eq_or, none_, Option.none_or] at value

/-- The states that are followed together are worth what the first of them that is worth anything is worth. -/
theorem follow_worth (forward : Forward states) (exact_ : Worth states here later ended worth)
    (settled : Settled states later worth seen left todo) :
    ((follow states here seen left todo).1.findSome? later).or
        (if (follow states here seen left todo).2 then some ended else none) =
      (left.reverse.findSome? later).or (todo.findSome? worth) := by
  have known {i : Nat} {state : State} (size : i < states.size) (kind : states[i] = state) :
      states[i]? = some state := (Array.getElem?_eq_getElem size).trans (congrArg some kind)
  -- what takes the place of a state that is followed is worth what the state is
  have replaced {left found todo more : List Nat} {i : Nat}
      (same : (found.reverse.findSome? later).or (more.findSome? worth) =
        (left.reverse.findSome? later).or (worth i)) :
      (found.reverse.findSome? later).or ((more ++ todo).findSome? worth) =
        (left.reverse.findSome? later).or ((i :: todo).findSome? worth) := by
    rw [List.findSome?_append, ← Option.or_assoc, same, Option.or_assoc, ← findSome?_cons_eq_or]
  fun_induction follow states here seen left todo with
  | case1 => rfl
  | case2 seen left i todo new kind => simp [exact_.accept (known new.1 kind)]
  | case3 seen left i todo new next kind ih =>
    have kind := known new.1 kind
    have same := congrArg (left.reverse.findSome? later).or (exact_.choice kind).symm
    rw [ih (settled.advance (fun k member => .choice kind member) id same), replaced same]
  | case4 seen left i todo new condition next kind ih =>
    have kind := known new.1 kind
    have value := exact_.look kind
    rw [dite_eq_ite] at ih
    by_cases holds : condition.holds here
    · have same : (left.reverse.findSome? later).or ([next].findSome? worth) =
          (left.reverse.findSome? later).or (worth i) := by
        rw [value, if_pos holds, findSome?_cons_eq_or, List.findSome?_nil, Option.or_none]
      rw [if_pos holds] at ih ⊢
      have behind : ∀ k ∈ [next], Behind states k i := by simpa using Behind.look kind
      exact (ih (settled.advance behind id same)).trans (replaced same)
    · rw [if_neg holds] at value ih ⊢
      have same : (left.reverse.findSome? later).or (List.findSome? worth []) =
          (left.reverse.findSome? later).or (worth i) := by
        rw [value, List.findSome?_nil]
      exact (ih (settled.advance (List.forall_mem_nil _) id same)).trans (replaced same)
  | case5 seen left i todo new set next kind ih =>
    have value := exact_.take (known new.1 kind)
    rw [dite_eq_ite] at ih
    by_cases taken : here.after.any set.contains
    · rw [if_pos taken] at value ih ⊢
      have same : ((next :: left).reverse.findSome? later).or (List.findSome? worth []) =
          (left.reverse.findSome? later).or (worth i) := by
        rw [value, List.reverse_cons, List.findSome?_append, findSome?_cons_eq_or]
        simp
      have grows (some_ : left.reverse.findSome? later ≠ none) : (next :: left).reverse.findSome? later ≠ none := by
        rw [List.reverse_cons, List.findSome?_append]
        simp only [ne_eq, Option.or_eq_none_iff, not_and]
        exact fun none_ => absurd none_ some_
      exact (ih (settled.advance (List.forall_mem_nil _) grows same)).trans (replaced same)
    · rw [if_neg taken] at value ih ⊢
      have same : (left.reverse.findSome? later).or (List.findSome? worth []) =
          (left.reverse.findSome? later).or (worth i) := by
        rw [value, List.findSome?_nil]
      exact (ih (settled.advance (List.forall_mem_nil _) id same)).trans (replaced same)
  | case6 seen left i todo old ih =>
    have nothing := settled.adds_nothing forward exact_ old
    rw [ih (settled.skip nothing), findSome?_cons_eq_or]
    rcases nothing with some_ | none_
    · obtain ⟨value, some_⟩ := Option.ne_none_iff_exists'.mp some_
      rw [some_, Option.some_or, Option.some_or]
    · rw [none_, Option.none_or]

theorem follow_worth_of_new (forward : Forward states) (exact_ : Worth states here later ended worth)
    (current : List Nat) :
    ((follow states here [] [] current).1.findSome? later).or
        (if (follow states here [] [] current).2 then some ended else none) = current.findSome? worth := by
  have settled : Settled states later worth [] [] current := List.forall_mem_nil _
  simpa using follow_worth forward exact_ settled

end

/-- A place in a text: the character before it, the bytes before it, and what follows. -/
structure Cursor where
  before : Option Char
  offset : Nat
  rest : List Char

namespace Cursor

def place (p : Cursor) : Place := ⟨p.before, p.rest.head?⟩

def next? (p : Cursor) : Option Cursor :=
  match p.rest with
  | [] => none
  | c :: cs => some ⟨some c, p.offset + c.utf8Size, cs⟩

/-- The place behind the next character, if that is one of a set. -/
def take (set : CharSet) (p : Cursor) : Option Cursor := if p.place.after.any set.contains then p.next? else none

end Cursor

/-- Where the preferred match ends that a state leads to. -/
def outcome (states : Array State) (i : Nat) (p : Cursor) : Option Nat :=
  run states p.before [i] none p.offset p.rest

variable {states : Array State}

/-- At the end of a text a run has found what its states are worth there. -/
theorem run_nil (forward : Forward states) {before : Option Char} {offset : Nat} {worth : Nat → Option Nat}
    (exact_ : Worth states ⟨before, none⟩ (fun _ => none) offset worth) (current : List Nat) (best : Option Nat) :
    run states before current best offset [] = (current.findSome? worth).or best := by
  have value := follow_worth_of_new forward exact_ current
  have nothing (left : List Nat) : left.findSome? (fun _ => (none : Option Nat)) = none := by simp
  rw [nothing, Option.none_or] at value
  rw [run, ← value]
  split <;> rfl

/-- Before a character a run finds what its states are worth, if those behind the character do so too. -/
theorem run_cons (forward : Forward states) {before : Option Char} {offset : Nat} {worth : Nat → Option Nat} {c : Char}
    {cs : List Char} {later : Nat → Option Nat} (exact_ : Worth states ⟨before, some c⟩ later offset worth)
    (behind : ∀ current best, run states (some c) current best (offset + c.utf8Size) cs =
      (current.findSome? later).or best) (current : List Nat) (best : Option Nat) :
    run states before current best offset (c :: cs) = (current.findSome? worth).or best := by
  have kept (ended : Bool) : (if ended then some offset else best) = (if ended then some offset else none).or best := by
    cases ended <;> rfl
  rw [← follow_worth_of_new forward exact_ current, run, Option.or_assoc]
  simp only [kept]
  split
  · rename_i empty
    rw [List.isEmpty_iff.mp empty, List.findSome?_nil, Option.none_or]
  · exact behind _ _

/-- What its states lead to decides a run, and what a state leads to is decided by those behind it. -/
theorem outcome_worth (forward : Forward states) (p : Cursor) :
    Worth states p.place (fun i => p.next?.bind (outcome states i)) p.offset (outcome states · p) ∧
      ∀ current best, run states p.before current best p.offset p.rest =
        (current.findSome? (outcome states · p)).or best := by
  -- a run that finds what its states are worth shows that they are worth what they lead to
  have decided {p : Cursor} {worth : Nat → Option Nat} {later : Nat → Option Nat}
      (exact_ : Worth states p.place later p.offset worth)
      (found : ∀ current best, run states p.before current best p.offset p.rest = (current.findSome? worth).or best) :
      Worth states p.place later p.offset (outcome states · p) ∧
        ∀ current best, run states p.before current best p.offset p.rest =
          (current.findSome? (outcome states · p)).or best := by
    have same : (outcome states · p) = worth := by
      funext i
      rw [outcome, found, findSome?_cons_eq_or, List.findSome?_nil, Option.or_none, Option.or_none]
    rw [same]
    exact ⟨exact_, found⟩
  obtain ⟨before, offset, text⟩ := p
  induction text generalizing before offset with
  | nil =>
    obtain ⟨worth, exact_⟩ := forward.exists_worth ⟨before, none⟩ (fun _ => none) offset
    exact decided exact_ (run_nil forward exact_)
  | cons c cs ih =>
    obtain ⟨worth, exact_⟩ := forward.exists_worth ⟨before, some c⟩
      (outcome states · ⟨some c, offset + c.utf8Size, cs⟩) offset
    exact decided exact_ (run_cons forward exact_ (ih (some c) (offset + c.utf8Size)).2)

section

variable {i next : Nat}

theorem outcome_accept (forward : Forward states) (kind : states[i]? = some .accept) (p : Cursor) :
    outcome states i p = some p.offset :=
  (outcome_worth forward p).1.accept kind

theorem outcome_choice (forward : Forward states) {next : List Nat} (kind : states[i]? = some (.choice next))
    (p : Cursor) : outcome states i p = next.findSome? (outcome states · p) :=
  (outcome_worth forward p).1.choice kind

theorem outcome_look (forward : Forward states) {condition : Look} (kind : states[i]? = some (.look condition next))
    (p : Cursor) : outcome states i p = if condition.holds p.place then outcome states next p else none :=
  (outcome_worth forward p).1.look kind

theorem outcome_take (forward : Forward states) {set : CharSet} (kind : states[i]? = some (.take set next))
    (p : Cursor) : outcome states i p = (p.take set).bind (outcome states next) := by
  rw [(outcome_worth forward p).1.take kind, Cursor.take]
  split <;> rfl

end

end Highlighter.Pattern
