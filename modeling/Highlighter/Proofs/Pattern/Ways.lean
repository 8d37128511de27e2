import Mathlib.Data.List.Basic
import Highlighter.Proofs.Pattern.Threads

namespace Highlighter.Pattern

namespace Cursor

/-- The place behind some characters, if they come next. -/
def spell (chars : List Char) (p : Cursor) : Option Cursor := chars.foldlM (fun p c => p.take (.single c)) p

/-- The second place comes behind the first one in a text. -/
def Past (p q : Cursor) : Prop := p.offset < q.offset ∧ q.rest.length < p.rest.length

variable {p q t : Cursor}

theorem Past.trans (first : p.Past q) (second : q.Past t) : p.Past t :=
  ⟨Nat.lt_trans first.1 second.1, Nat.lt_trans second.2 first.2⟩

theorem past_of_take {set : CharSet} (taken : p.take set = some q) : p.Past q := by
  obtain ⟨before, offset, rest⟩ := p
  unfold take at taken
  split at taken
  · cases rest with
    | nil => cases taken
    | cons c cs =>
      cases taken
      exact ⟨Nat.lt_add_of_pos_right c.utf8Size_pos, Nat.lt_succ_self _⟩
  · cases taken

end Cursor

/-- The ends of any number of repetitions. One that takes no text is the last. -/
def manyTimes (greedy : Bool) (inner : Cursor → List Cursor) (p : Cursor) : List Cursor :=
  let more := (inner p).flatMap fun q =>
    if _further : q.rest.length < p.rest.length then manyTimes greedy inner q else []
  if greedy then more ++ [p] else p :: more
termination_by p.rest.length

def upToTimes (greedy : Bool) (inner : Cursor → List Cursor) : Nat → Cursor → List Cursor
  | 0, p => [p]
  | n + 1, p =>
    let more := (inner p).flatMap (upToTimes greedy inner n)
    if greedy then more ++ [p] else p :: more

def exactTimes (inner : Cursor → List Cursor) : Nat → Cursor → List Cursor
  | 0, p => [p]
  | n + 1, p => (inner p).flatMap (exactTimes inner n)

namespace Regex

/-- The places where a match can end that begins at a place, preferred ones first. -/
def ways : Regex → Cursor → List Cursor
  | .empty, p => [p]
  | .literal chars, p => (p.spell chars).toList
  | .oneOf set, p => (p.take set).toList
  | .look condition, p => if condition.holds p.place then [p] else []
  | .group _ r, p => r.ways p
  | .seq r s, p => (r.ways p).flatMap s.ways
  | .alt r s, p => r.ways p ++ s.ways p
  | .rep least none greedy r, p => (exactTimes r.ways least p).flatMap (manyTimes greedy r.ways)
  | .rep least (some extra) greedy r, p => (exactTimes r.ways least p).flatMap (upToTimes greedy r.ways extra)

/-- Whether nothing that can be empty is repeated without a bound. -/
def steady : Regex → Bool
  | .empty | .literal _ | .oneOf _ | .look _ => true
  | .group _ r => r.steady
  | .seq r s => r.steady && s.steady
  | .alt r s => r.steady && s.steady
  | .rep _ none _ r => r.needsText && r.steady
  | .rep _ (some _) _ r => r.steady

end Regex

section

variable {inner : Cursor → List Cursor} {greedy : Bool} {p q : Cursor}

theorem mem_manyTimes (member : q ∈ manyTimes greedy inner p) : q = p ∨ ∃ t ∈ inner p,
    t.rest.length < p.rest.length ∧ q ∈ manyTimes greedy inner t := by
  rw [manyTimes] at member
  have cases_ : q = p ∨ q ∈ (inner p).flatMap fun q =>
      if _further : q.rest.length < p.rest.length then manyTimes greedy inner q else [] := by
    split at member
    · simpa [or_comm] using member
    · simpa using member
  refine cases_.imp_right fun member => ?_
  obtain ⟨t, reached, member⟩ := List.mem_flatMap.mp member
  split at member
  · exact ⟨t, reached, ‹_›, member⟩
  · cases member

theorem mem_upToTimes {n : Nat} (member : q ∈ upToTimes greedy inner (n + 1) p) :
    q = p ∨ ∃ t ∈ inner p, q ∈ upToTimes greedy inner n t := by
  rw [upToTimes] at member
  split at member <;> simpa [or_comm] using member

/-- A place is the same or comes behind. -/
def Cursor.Onward (p q : Cursor) : Prop := q = p ∨ p.Past q

theorem Cursor.Onward.trans {t : Cursor} (first : p.Onward q) (second : q.Onward t) : p.Onward t := by
  rcases first with rfl | first
  · exact second
  · exact .inr (second.elim (fun same => same ▸ first) first.trans)

variable (onward : ∀ p, ∀ q ∈ inner p, p.Onward q)

include onward

theorem onward_manyTimes (member : q ∈ manyTimes greedy inner p) : p.Onward q := by
  induction size : p.rest.length using Nat.strongRecOn generalizing p with
  | ind n ih =>
    subst size
    rcases mem_manyTimes member with rfl | ⟨t, reached, further, member⟩
    · exact .inl rfl
    · exact (onward p t reached).trans (ih _ further member rfl)

theorem onward_upToTimes {n : Nat} (member : q ∈ upToTimes greedy inner n p) : p.Onward q := by
  induction n generalizing p with
  | zero => exact .inl (List.mem_singleton.mp member)
  | succ n ih =>
    rcases mem_upToTimes member with rfl | ⟨t, reached, member⟩
    · exact .inl rfl
    · exact (onward p t reached).trans (ih member)

theorem onward_exactTimes {n : Nat} (member : q ∈ exactTimes inner n p) : p.Onward q := by
  induction n generalizing p with
  | zero => exact .inl (List.mem_singleton.mp member)
  | succ n ih =>
    obtain ⟨t, reached, member⟩ := List.mem_flatMap.mp member
    exact (onward p t reached).trans (ih member)

end

theorem Cursor.Past.onward {p q t : Cursor} (first : p.Past q) (second : q.Onward t) : p.Past t :=
  second.elim (fun same => same ▸ first) first.trans

theorem Cursor.Onward.past {p q t : Cursor} (first : p.Onward q) (second : q.Past t) : p.Past t :=
  first.elim (fun same => same ▸ second) fun first => first.trans second

theorem Cursor.onward_of_spell {chars : List Char} {p q : Cursor} (spelled : p.spell chars = some q) :
    p.Onward q ∧ (chars ≠ [] → p.Past q) := by
  induction chars generalizing p with
  | nil =>
    cases spelled
    exact ⟨.inl rfl, fun nonempty => absurd rfl nonempty⟩
  | cons c cs ih =>
    obtain ⟨t, taken, rest⟩ := Option.bind_eq_some_iff.mp spelled
    have past := (Cursor.past_of_take taken).onward (ih rest).1
    exact ⟨.inr past, fun _ => past⟩

/-- No way ends before it begins, and where the expression needs text, it ends further on. -/
theorem Regex.onward_ways (r : Regex) {p q : Cursor} (member : q ∈ r.ways p) :
    p.Onward q ∧ (r.needsText → p.Past q) := by
  induction r generalizing p q with
  | empty => exact ⟨.inl (List.mem_singleton.mp member), nofun⟩
  | literal chars =>
    obtain ⟨onward, past⟩ := Cursor.onward_of_spell (Option.mem_toList.mp member)
    exact ⟨onward, fun needs => past (by simpa [needsText] using needs)⟩
  | oneOf set =>
    have past := Cursor.past_of_take (Option.mem_toList.mp member)
    exact ⟨.inr past, fun _ => past⟩
  | look condition =>
    rw [ways] at member
    split at member
    · exact ⟨.inl (List.mem_singleton.mp member), nofun⟩
    · cases member
  | group _ r ih => exact ih member
  | seq r s ihr ihs =>
    obtain ⟨t, reached, member⟩ := List.mem_flatMap.mp member
    refine ⟨(ihr reached).1.trans (ihs member).1, fun needs => ?_⟩
    rcases (Bool.or_eq_true _ _).mp needs with needs | needs
    · exact ((ihr reached).2 needs).onward (ihs member).1
    · exact (ihr reached).1.past ((ihs member).2 needs)
  | alt r s ihr ihs =>
    have both (needs : (r.alt s).needsText) : r.needsText ∧ s.needsText := (Bool.and_eq_true _ _).mp needs
    rcases List.mem_append.mp member with member | member
    · exact ⟨(ihr member).1, fun needs => (ihr member).2 (both needs).1⟩
    · exact ⟨(ihs member).1, fun needs => (ihs member).2 (both needs).2⟩
  | rep least extra greedy r ih =>
    have inner : ∀ p, ∀ q ∈ r.ways p, p.Onward q := fun p q known => (ih known).1
    obtain ⟨t, reached, rest⟩ : ∃ t ∈ exactTimes r.ways least p, t.Onward q := by
      cases extra with
      | none =>
        obtain ⟨t, reached, member⟩ := List.mem_flatMap.mp member
        exact ⟨t, reached, onward_manyTimes inner member⟩
      | some extra =>
        obtain ⟨t, reached, member⟩ := List.mem_flatMap.mp member
        exact ⟨t, reached, onward_upToTimes inner member⟩
    refine ⟨(onward_exactTimes inner reached).trans rest, fun needs => ?_⟩
    obtain ⟨positive, needs⟩ : 0 < least ∧ r.needsText := by simpa [needsText] using needs
    obtain ⟨n, rfl⟩ := Nat.exists_eq_succ_of_ne_zero (Nat.ne_of_gt positive)
    obtain ⟨u, first, reached⟩ := List.mem_flatMap.mp reached
    exact (((ih first).2 needs).onward (onward_exactTimes inner reached)).onward rest

/-- Where every repetition takes text, all of them go on until no further one matches. -/
theorem manyTimes_eq {inner : Cursor → List Cursor} (past : ∀ p, ∀ q ∈ inner p, p.Past q) (greedy : Bool) (p : Cursor) :
    manyTimes greedy inner p = if greedy then (inner p).flatMap (manyTimes greedy inner) ++ [p]
      else p :: (inner p).flatMap (manyTimes greedy inner) := by
  have same : ((inner p).flatMap fun q =>
      if _further : q.rest.length < p.rest.length then manyTimes greedy inner q else []) =
        (inner p).flatMap (manyTimes greedy inner) :=
    List.flatMap_congr fun q known => dif_pos (past p q known).2
  rw [manyTimes, same]

end Highlighter.Pattern
