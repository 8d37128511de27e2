import Highlighter.Pattern
import Highlighter.Proofs.Except
import Highlighter.Proofs.Pattern.Ways

namespace Highlighter.Pattern

/-- Some states stand in an automaton from a number on. -/
def At (states : Array State) (base : Nat) (code : List State) : Prop :=
  ∀ n state, code[n]? = some state → states[base + n]? = some state

section

variable {states : Array State} {base next : Nat}

theorem At.head {state : State} {code : List State} (at_ : At states base (state :: code)) :
    states[base]? = some state :=
  at_ 0 state rfl

theorem At.tail {state : State} {code : List State} (at_ : At states base (state :: code)) :
    At states (base + 1) code := fun n other known => by
  rw [Nat.add_assoc, Nat.add_comm 1]
  exact at_ (n + 1) other known

theorem At.left {first second : List State} (at_ : At states base (first ++ second)) : At states base first :=
  fun n state known => at_ n state (List.getElem?_append_left (List.getElem?_eq_some_iff.mp known).1 ▸ known)

theorem At.right {first second : List State} {size : Nat} (at_ : At states base (first ++ second))
    (length : first.length = size) : At states (base + size) second := fun n state known => by
  subst length
  rw [Nat.add_assoc]
  exact at_ _ state (by rwa [List.getElem?_append_right (Nat.le_add_right ..), Nat.add_sub_cancel_left])

end

theorem Regex.stateCount_pos (r : Regex) : 0 < r.stateCount := by
  fun_induction Regex.stateCount r <;> omega

/-- The last of some copies stands behind the others. -/
theorem copies_succ (size : Nat) (copy : Nat → Nat → List State) (n base : Nat) :
    copies size copy (n + 1) base = copies size copy n base ++ copy (base + n * size) (base + n * size + size) := by
  induction n generalizing base with
  | zero => simp [copies]
  | succ n ih =>
    have place : base + size + n * size = base + (n + 1) * size := by rw [Nat.succ_mul]; omega
    rw [copies, ih, copies, List.append_assoc, place]

section

variable {states : Array State} {base next i : Nat}

theorem acc_choice {next : List Nat} (kind : states[i]? = some (.choice next))
    (below : ∀ j ∈ next, Acc (Behind states) j) : Acc (Behind states) i := by
  refine ⟨i, fun j behind => ?_⟩
  cases behind with
  | choice same member =>
    cases kind.symm.trans same
    exact below j member
  | look same => cases kind.symm.trans same

theorem acc_loop {greedy : Bool} {inside outside : Nat} (kind : states[i]? = some (.loop greedy inside outside))
    (first : Acc (Behind states) inside) (second : Acc (Behind states) outside) : Acc (Behind states) i := by
  refine acc_choice kind fun j member => ?_
  have either : j = inside ∨ j = outside := by
    cases greedy
    · simpa [or_comm] using member
    · simpa using member
  rcases either with rfl | rfl <;> assumption

theorem acc_look {condition : Look} (kind : states[i]? = some (.look condition next))
    (below : Acc (Behind states) next) : Acc (Behind states) i := by
  refine ⟨i, fun j behind => ?_⟩
  cases behind with
  | choice same _ => cases kind.symm.trans same
  | look same =>
    cases kind.symm.trans same
    exact below

theorem acc_take {set : CharSet} (kind : states[i]? = some (.take set next)) : Acc (Behind states) i := by
  refine ⟨i, fun j behind => ?_⟩
  cases behind with
  | choice same _ => cases kind.symm.trans same
  | look same => cases kind.symm.trans same

/-- From no state between two numbers it goes on without an end, unless characters are taken. -/
def Grounded (states : Array State) (first last : Nat) : Prop :=
  ∀ i, first ≤ i → i < last → Acc (Behind states) i

namespace Grounded

variable {first middle last : Nat}

theorem nil : Grounded states first first := fun _ low high => absurd high (Nat.not_lt.mpr low)

theorem single (here : Acc (Behind states) i) : Grounded states i (i + 1) := fun j low high => by
  obtain rfl : j = i := by omega
  exact here

theorem append (left : Grounded states first middle) (right : Grounded states middle last) :
    Grounded states first last := fun i low high => by
  by_cases before : i < middle
  · exact left i low before
  · exact right i (Nat.not_lt.mp before) high

/-- The first of some states, or the one behind them if there are none. -/
theorem head (grounded : Grounded states first last) (ordered : first ≤ last) (behind : Acc (Behind states) last) :
    Acc (Behind states) first := by
  rcases Nat.eq_or_lt_of_le ordered with rfl | before
  · exact behind
  · exact grounded first (Nat.le_refl _) before

theorem literal {chars : List Char} (at_ : At states base (literalStates base next chars))
    (behind : Acc (Behind states) next) : Grounded states base (base + max 1 chars.length) := by
  fun_induction literalStates base next chars with
  | case1 base => exact single (acc_choice at_.head (by simpa using behind))
  | case2 base c => exact single (acc_take at_.head)
  | case3 base c cs nonempty ih =>
    have more : max 1 cs.length = cs.length := by
      have := List.length_pos_iff.mpr nonempty
      omega
    have rest := ih at_.tail
    rw [more, Nat.add_assoc, Nat.add_comm 1] at rest
    rw [List.length_cons, Nat.max_eq_right (by omega)]
    exact (single (acc_take at_.head)).append rest

variable {r : Regex} (inner : ∀ {base next}, At states base (r.states base next) → Acc (Behind states) next →
  Grounded states base (base + r.stateCount))

include inner

theorem copies {n : Nat} (at_ : At states base (copies r.stateCount r.states n base))
    (behind : Acc (Behind states) (base + n * r.stateCount)) :
    Grounded states base (base + n * r.stateCount) := by
  induction n generalizing base with
  | zero => simpa using nil
  | succ n ih =>
    have place : base + (n + 1) * r.stateCount = base + r.stateCount + n * r.stateCount := by
      rw [Nat.succ_mul]
      omega
    rw [place] at behind ⊢
    have rest := ih (at_.right (r.length_states _ _)) behind
    exact (inner at_.left (rest.head (Nat.le_add_right ..) behind)).append rest

theorem optionalCopies {n : Nat} {greedy : Bool} {outside : Nat} (out : Acc (Behind states) outside)
    (at_ : At states base (optionalCopies greedy r.stateCount r.states outside n base))
    (behind : Acc (Behind states) (base + n * (r.stateCount + 1))) :
    Grounded states base (base + n * (r.stateCount + 1)) := by
  induction n generalizing base with
  | zero => simpa using nil
  | succ n ih =>
    have place : base + (n + 1) * (r.stateCount + 1) = base + 1 + r.stateCount + n * (r.stateCount + 1) := by
      rw [Nat.succ_mul]
      omega
    rw [place] at behind ⊢
    have rest := ih (at_.tail.right (r.length_states _ _)) behind
    have copy := (inner at_.tail.left (rest.head (Nat.le_add_right ..) behind)).append rest
    exact (single (acc_loop at_.head (copy.head (by omega) behind) out)).append copy

end Grounded

/-- The states of an expression go on to the state behind it, and where the expression needs text, the first of them
does not even do that. -/
theorem Regex.grounded (r : Regex) (steady : r.steady) {base next : Nat} (at_ : At states base (r.states base next)) :
    (r.needsText → Acc (Behind states) base) ∧
      (Acc (Behind states) next → Grounded states base (base + r.stateCount)) := by
  have first {s : Regex} {base : Nat} (grounded : Grounded states base (base + s.stateCount)) :
      Acc (Behind states) base := grounded base (Nat.le_refl _) (Nat.lt_add_of_pos_right s.stateCount_pos)
  induction r generalizing base next with
  | empty =>
    refine ⟨fun needs => absurd needs Bool.false_ne_true, fun behind => ?_⟩
    exact .single (acc_choice at_.head (by simpa using behind))
  | literal chars =>
    refine ⟨fun needs => ?_, Grounded.literal at_⟩
    rcases chars with _ | ⟨c, _ | ⟨d, chars⟩⟩
    · exact absurd needs Bool.false_ne_true
    · exact acc_take at_.head
    · exact acc_take at_.head
  | oneOf set => exact ⟨fun _ => acc_take at_.head, fun _ => .single (acc_take at_.head)⟩
  | look condition =>
    exact ⟨fun needs => absurd needs Bool.false_ne_true, fun behind => .single (acc_look at_.head behind)⟩
  | group _ r ih => exact ih steady at_
  | seq r s ihr ihs =>
    obtain ⟨steadyFirst, steadySecond⟩ := (Bool.and_eq_true _ _).mp steady
    have left := ihr steadyFirst at_.left
    have right := ihs steadySecond (at_.right (r.length_states _ _))
    refine ⟨fun needs => ?_, fun behind => ?_⟩
    -- if only the second part needs text, the first one may be gone through without any
    · rcases (Bool.or_eq_true _ _).mp needs with needs | needs
      · exact left.1 needs
      · exact first (left.2 (right.1 needs))
    · have rest := right.2 behind
      rw [stateCount, ← Nat.add_assoc]
      exact (left.2 (first rest)).append rest
  | alt r s ihr ihs =>
    obtain ⟨steadyFirst, steadySecond⟩ := (Bool.and_eq_true _ _).mp steady
    have left := ihr steadyFirst at_.tail.left
    have right := ihs steadySecond (at_.tail.right (r.length_states _ _))
    have here (one : Acc (Behind states) (base + 1)) (other : Acc (Behind states) (base + 1 + r.stateCount)) :
        Acc (Behind states) base := acc_loop (show states[base]? = some (.loop true _ _) from at_.head) one other
    refine ⟨fun needs => ?_, fun behind => ?_⟩
    · obtain ⟨one, other⟩ := (Bool.and_eq_true _ _).mp needs
      exact here (left.1 one) (right.1 other)
    · have one := left.2 behind
      have other := right.2 behind
      rw [stateCount, ← Nat.add_assoc, ← Nat.add_assoc]
      exact (Grounded.single (here (first one) (first other))).append (one.append other)
  | rep least extra greedy r ih =>
    cases extra with
    | none =>
      obtain ⟨needs, steadyInner⟩ := (Bool.and_eq_true _ _).mp steady
      cases least with
      | zero =>
        rw [Regex.states, if_pos needs] at at_
        have inside := ih steadyInner at_.tail
        -- the loop is come back to behind characters alone, so that what is inside holds before what is behind the loop
        refine ⟨fun needs => absurd needs Bool.false_ne_true, fun behind => ?_⟩
        have here := acc_loop at_.head (inside.1 needs) behind
        rw [stateCount, if_pos needs, ← Nat.add_assoc]
        exact (Grounded.single here).append (inside.2 here)
      | succ n =>
        have copied : At states base (Pattern.copies r.stateCount r.states (n + 1) base ++
            [.loop greedy (base + n * r.stateCount) next]) := by
          rw [copies_succ, List.append_assoc]
          exact at_
        have last := ih steadyInner (at_.right (length_copies (r.length_states) n base)).left
        refine ⟨fun _ => (ih steadyInner copied.left.left).1 needs, fun behind => ?_⟩
        have loop := copied.right (length_copies (r.length_states) (n + 1) base)
        have here := acc_loop loop.head (last.1 needs) behind
        rw [stateCount, ← Nat.add_assoc]
        exact (Grounded.copies (fun at_ => (ih steadyInner at_).2) copied.left here).append (.single here)
    | some extra =>
      rw [Regex.states] at at_
      have optional := at_.right (length_copies (r.length_states) least base)
      have choice := optional.right (length_optionalCopies (r.length_states) greedy _ extra _)
      refine ⟨fun needs => ?_, fun behind => ?_⟩
      · obtain ⟨positive, needs⟩ : 0 < least ∧ r.needsText := by simpa [needsText] using needs
        obtain ⟨n, rfl⟩ := Nat.exists_eq_succ_of_ne_zero (Nat.ne_of_gt positive)
        exact (ih steady at_.left.left).1 needs
      · have out := acc_choice choice.head (by simpa using behind)
        have rest := Grounded.optionalCopies (fun at_ => (ih steady at_).2) out optional.left out
        have copied := Grounded.copies (fun at_ => (ih steady at_).2) at_.left
          (rest.head (Nat.le_add_right ..) out)
        rw [stateCount, ← Nat.add_assoc, ← Nat.add_assoc]
        exact (copied.append rest).append (.single out)

end

theorem Regex.at_automaton (r : Regex) :
    At r.automaton 0 (r.states 0 r.stateCount ++ [State.accept]) := fun n state known => by
  rwa [Regex.automaton, List.getElem?_toArray, Nat.zero_add]

theorem Regex.automaton_accept (r : Regex) : r.automaton[r.stateCount]? = some .accept := by
  have accept := (r.at_automaton.right (r.length_states 0 _)).head
  rwa [Nat.zero_add] at accept

theorem Regex.forward {r : Regex} (steady : r.steady) : Forward r.automaton := by
  have behind {i : Nat} (kind : ∀ state, r.automaton[i]? = some state → state = .accept) :
      Acc (Behind r.automaton) i := by
    refine ⟨i, fun j behind => ?_⟩
    cases behind with
    | choice same _ => cases kind _ same
    | look same => cases kind _ same
  have accept : Acc (Behind r.automaton) r.stateCount := behind fun state known => by
    cases r.automaton_accept.symm.trans known
    rfl
  have inside := (r.grounded steady r.at_automaton.left).2 accept
  refine ⟨fun i => ?_⟩
  rcases Nat.lt_trichotomy i r.stateCount with before | rfl | after
  · exact inside i (Nat.zero_le _) (by omega)
  · exact accept
  · refine behind fun state known => ?_
    rw [Regex.automaton, List.getElem?_toArray, List.getElem?_eq_none (by simp [Regex.length_states]; omega)] at known
    cases known

theorem findSome?_flatMap {β γ δ : Type} (xs : List β) (f : β → List γ) (g : γ → Option δ) :
    (xs.flatMap f).findSome? g = xs.findSome? fun x => (f x).findSome? g := by
  induction xs with
  | nil => rfl
  | cons x xs ih =>
    rw [List.flatMap_cons, List.findSome?_append, ih, List.findSome?_cons]
    cases (f x).findSome? g <;> rfl

theorem findSome?_congr {β γ : Type} {xs : List β} {f g : β → Option γ} (same : ∀ x ∈ xs, f x = g x) :
    xs.findSome? f = xs.findSome? g := by
  induction xs with
  | nil => rfl
  | cons x xs ih =>
    obtain ⟨head, tail⟩ := List.forall_mem_cons.mp same
    rw [List.findSome?_cons, List.findSome?_cons, head, ih tail]

section

variable {states : Array State} (forward : Forward states) {base next : Nat} {p : Cursor}

include forward

theorem outcome_literal {chars : List Char} (at_ : At states base (literalStates base next chars)) (p : Cursor) :
    outcome states base p = (p.spell chars).bind (outcome states next) := by
  fun_induction literalStates base next chars generalizing p with
  | case1 base =>
    rw [outcome_choice forward at_.head, findSome?_cons_eq_or, List.findSome?_nil, Option.or_none]
    rfl
  | case2 base c =>
    rw [outcome_take forward at_.head]
    cases taken : p.take (.single c) <;> simp [Cursor.spell, taken]
  | case3 base c cs _ ih =>
    rw [outcome_take forward at_.head]
    cases taken : p.take (.single c) with
    | none => simp [Cursor.spell, taken]
    | some q => simpa [Cursor.spell, taken] using ih at_.tail q

theorem outcome_loop {greedy : Bool} {inside outside i : Nat}
    (kind : states[i]? = some (.loop greedy inside outside)) (p : Cursor) :
    outcome states i p = if greedy then (outcome states inside p).or (outcome states outside p)
      else (outcome states outside p).or (outcome states inside p) := by
  rw [outcome_choice forward kind]
  cases greedy <;> simp [findSome?_cons_eq_or]

/-- A loop goes through what is inside of it again and again. Each time it comes back further on in the text. -/
theorem outcome_manyTimes {r : Regex} {greedy : Bool} {inside outside i : Nat}
    (kind : states[i]? = some (.loop greedy inside outside)) (past : ∀ p, ∀ q ∈ r.ways p, p.Past q)
    (once : ∀ p, outcome states inside p = (r.ways p).findSome? (outcome states i)) (p : Cursor) :
    outcome states i p = (manyTimes greedy r.ways p).findSome? (outcome states outside) := by
  induction size : p.rest.length using Nat.strongRecOn generalizing p with
  | ind n ih =>
    subst size
    have again : outcome states inside p =
        ((r.ways p).flatMap (manyTimes greedy r.ways)).findSome? (outcome states outside) := by
      rw [once, findSome?_flatMap]
      exact findSome?_congr fun q reached => ih _ (past p q reached).2 q rfl
    rw [outcome_loop forward kind, manyTimes_eq past, again]
    cases greedy <;> simp [findSome?_cons_eq_or, List.findSome?_append]

variable {r : Regex} (inner : ∀ {base next}, At states base (r.states base next) → ∀ p,
  outcome states base p = (r.ways p).findSome? (outcome states next))

omit forward in
include inner in
theorem outcome_copies {n : Nat} (at_ : At states base (copies r.stateCount r.states n base)) (p : Cursor) :
    outcome states base p = (exactTimes r.ways n p).findSome? (outcome states (base + n * r.stateCount)) := by
  induction n generalizing base p with
  | zero => simp [exactTimes, findSome?_cons_eq_or]
  | succ n ih =>
    have place : base + (n + 1) * r.stateCount = base + r.stateCount + n * r.stateCount := by
      rw [Nat.succ_mul]
      omega
    rw [exactTimes, findSome?_flatMap, inner at_.left, place]
    exact findSome?_congr fun q _ => ih (at_.right (r.length_states _ _)) q

include inner in
theorem outcome_optionalCopies {n : Nat} {greedy : Bool} {outside : Nat}
    (at_ : At states base (optionalCopies greedy r.stateCount r.states outside n base))
    (out : base + n * (r.stateCount + 1) = outside) (p : Cursor) :
    outcome states base p = (upToTimes greedy r.ways n p).findSome? (outcome states outside) := by
  induction n generalizing base p with
  | zero =>
    obtain rfl : base = outside := by simpa using out
    simp [upToTimes, findSome?_cons_eq_or]
  | succ n ih =>
    have place : base + 1 + r.stateCount + n * (r.stateCount + 1) = outside := by
      rw [← out, Nat.succ_mul]
      omega
    have again : outcome states (base + 1) p =
        ((r.ways p).flatMap (upToTimes greedy r.ways n)).findSome? (outcome states outside) := by
      rw [inner at_.tail.left, findSome?_flatMap]
      exact findSome?_congr fun q _ => ih (at_.tail.right (r.length_states _ _)) place q
    rw [outcome_loop forward at_.head, upToTimes, again]
    cases greedy <;> simp [findSome?_cons_eq_or, List.findSome?_append]

/-- The states of an expression lead on to where its ways end, preferred ones first. -/
theorem Regex.outcome_states (r : Regex) (steady : r.steady) {base next : Nat}
    (at_ : At states base (r.states base next)) (p : Cursor) :
    outcome states base p = (r.ways p).findSome? (outcome states next) := by
  induction r generalizing base next p with
  | empty => simp [ways, outcome_choice forward at_.head, findSome?_cons_eq_or]
  | literal chars =>
    rw [outcome_literal forward at_, ways]
    cases p.spell chars <;> simp [findSome?_cons_eq_or]
  | oneOf set =>
    rw [outcome_take forward at_.head, ways]
    cases p.take set <;> simp [findSome?_cons_eq_or]
  | look condition =>
    rw [outcome_look forward at_.head, ways]
    split <;> simp [findSome?_cons_eq_or]
  | group _ r ih => exact ih steady at_ p
  | seq r s ihr ihs =>
    obtain ⟨first, second⟩ := (Bool.and_eq_true _ _).mp steady
    rw [ihr first at_.left, ways, findSome?_flatMap]
    exact findSome?_congr fun q _ => ihs second (at_.right (r.length_states _ _)) q
  | alt r s ihr ihs =>
    obtain ⟨first, second⟩ := (Bool.and_eq_true _ _).mp steady
    have choice : states[base]? = some (.loop true (base + 1) (base + 1 + r.stateCount)) := at_.head
    have loop := outcome_loop forward choice p
    rw [loop, if_pos rfl, ihr first at_.tail.left, ihs second (at_.tail.right (r.length_states _ _)), ways,
      List.findSome?_append]
  | rep least extra greedy r ih =>
    cases extra with
    | none =>
      obtain ⟨needs, steadyInner⟩ := (Bool.and_eq_true _ _).mp steady
      have past : ∀ p, ∀ q ∈ r.ways p, p.Past q := fun p q member => (r.onward_ways member).2 needs
      cases least with
      | zero =>
        rw [Regex.states, if_pos needs] at at_
        rw [outcome_manyTimes forward at_.head past (ih steadyInner at_.tail)]
        simp [ways, exactTimes]
      | succ n =>
        have copied : At states base (Pattern.copies r.stateCount r.states (n + 1) base ++
            [.loop greedy (base + n * r.stateCount) next]) := by
          rw [copies_succ, List.append_assoc]
          exact at_
        -- the copies are gone through once, and the loop behind them goes back to the last of them
        have last := ih steadyInner (at_.right (length_copies (r.length_states) n base)).left
        have loop := (copied.right (length_copies (r.length_states) (n + 1) base)).head
        have place : base + n * r.stateCount + r.stateCount = base + (n + 1) * r.stateCount := by
          rw [Nat.succ_mul]
          omega
        rw [place] at last
        rw [outcome_copies (fun at_ => ih steadyInner at_) copied.left, ways, findSome?_flatMap]
        exact findSome?_congr fun q _ => outcome_manyTimes forward loop past last q
    | some extra =>
      rw [Regex.states] at at_
      have optional := at_.right (length_copies (r.length_states) least base)
      have choice := optional.right (length_optionalCopies (r.length_states) greedy _ extra _)
      have out (q : Cursor) := outcome_choice forward choice.head q
      rw [outcome_copies (fun at_ => ih steady at_) at_.left, ways, findSome?_flatMap]
      refine findSome?_congr fun q _ => ?_
      rw [outcome_optionalCopies forward (fun at_ => ih steady at_) optional.left rfl]
      exact findSome?_congr fun t _ => by rw [out t, findSome?_cons_eq_or, List.findSome?_nil, Option.or_none]

end

/-- What an automaton finds at a place is where the preferred way of the expression ends. -/
theorem Regex.run_automaton {r : Regex} (steady : r.steady) (p : Cursor) :
    run r.automaton p.before [0] none p.offset p.rest = (r.ways p).head?.map Cursor.offset := by
  have forward := forward steady
  have ends (q : Cursor) := outcome_accept forward r.automaton_accept q
  have first : outcome r.automaton 0 p = (r.ways p).findSome? (outcome r.automaton r.stateCount) :=
    r.outcome_states forward steady r.at_automaton.left p
  rw [← outcome, first]
  cases r.ways p with
  | nil => rfl
  | cons q more => rw [List.findSome?_cons, ends]; rfl

section

variable {r : Regex} (steady : r.steady) {p : Cursor}

include steady

/-- A match begins where the expression has a way. -/
theorem Regex.search_here {q : Cursor} {others : List Cursor} (ways : r.ways p = q :: others) :
    search r.automaton p.before p.offset p.rest = some ⟨p.offset, q.offset⟩ := by
  have found := r.run_automaton steady p
  rw [ways] at found
  rw [search.eq_def, found]
  rfl

theorem Regex.search_end {before : Option Char} {offset : Nat} (nothing : r.ways ⟨before, offset, []⟩ = []) :
    search r.automaton before offset [] = none := by
  have found := r.run_automaton steady ⟨before, offset, []⟩
  rw [nothing] at found
  rw [search.eq_def, found]
  rfl

/-- Where it has none, the search goes on behind the next character. -/
theorem Regex.search_next {before : Option Char} {offset : Nat} {c : Char} {cs : List Char}
    (nothing : r.ways ⟨before, offset, c :: cs⟩ = []) :
    search r.automaton before offset (c :: cs) = search r.automaton (some c) (offset + c.utf8Size) cs := by
  have found := r.run_automaton steady ⟨before, offset, c :: cs⟩
  rw [nothing] at found
  rw [search.eq_def, found]
  rfl

theorem Regex.nonempty_of_search (needs : r.needsText) {before : Option Char} {offset : Nat} {text : List Char}
    {m : Match} (found : search r.automaton before offset text = some m) : m.start < m.stop := by
  induction text generalizing before offset with
  | nil =>
    cases ways : r.ways ⟨before, offset, []⟩ with
    | nil => cases (Regex.search_end steady ways).symm.trans found
    | cons q others =>
      cases (Regex.search_here steady ways).symm.trans found
      exact ((r.onward_ways (ways ▸ List.mem_cons_self)).2 needs).1
  | cons c cs ih =>
    cases ways : r.ways ⟨before, offset, c :: cs⟩ with
    | nil => exact ih ((Regex.search_next steady ways).symm.trans found)
    | cons q others =>
      cases (Regex.search_here steady ways).symm.trans found
      exact ((r.onward_ways (ways ▸ List.mem_cons_self)).2 needs).1

end

end Highlighter.Pattern

namespace Highlighter

/-- A pattern is compiled to the automaton of its expression. -/
theorem Pattern.compile_of_regex {source : String} {r : Pattern.Regex}
    (read : (do (← Pattern.Tree.read source).regex) = .ok r) (fits : r.fits) :
    Pattern.compile source = .ok ⟨source, r.automaton⟩ := by
  obtain ⟨tree, first, second⟩ := bind_eq_ok read
  rw [Pattern.compile, first, ok_bind, second, ok_bind, if_pos fits]
  rfl

/-- A pattern that needs text has no empty match. -/
theorem Pattern.nonempty_of_findAt {source : String} {r : Pattern.Regex} (steady : r.steady) (needs : r.needsText)
    {line : List Char} {offset : Nat} {m : Pattern.Match}
    (found : (⟨source, r.automaton⟩ : Pattern).findAt line offset = some m) : m.start < m.stop := by
  unfold Pattern.findAt at found
  split at found
  · cases found
  · exact Pattern.Regex.nonempty_of_search steady needs found

end Highlighter
