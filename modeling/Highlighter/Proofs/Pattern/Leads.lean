import Highlighter.Proofs.Boundary
import Highlighter.Proofs.Pattern.Compiled

namespace Highlighter

namespace CharSet

theorem contains_single (c d : Char) : (single c).contains d = decide (d = c) := by
  rw [Bool.eq_iff_iff]
  simp only [contains, single, inRanges, Bool.or_false, Bool.and_eq_true, decide_eq_true_eq, ← Char.toNat_inj]
  omega

end CharSet

namespace Pattern

open Text

namespace Cursor

/-- The place of a line between what is done and what is left. -/
def behind (done rest : List Char) : Cursor := ⟨done.getLast?, byteLength done, rest⟩

variable {done rest : List Char} {c : Char} {set : CharSet}

theorem take_behind : (behind done (c :: rest)).take set =
    if set.contains c then some (behind (done ++ [c]) rest) else none := by
  simp [take, place, next?, behind, byteLength_append, byteLength]
  rfl

theorem spell_behind (done rest chars : List Char) :
    (behind done (chars ++ rest)).spell chars = some (behind (done ++ chars) rest) := by
  induction chars generalizing done with
  | nil => simp [spell]
  | cons c chars ih =>
    have taken :
        (behind done (c :: (chars ++ rest))).take (.single c) = some (behind (done ++ [c]) (chars ++ rest)) := by
      rw [take_behind, CharSet.contains_single, if_pos (by simp)]
    have later := ih (done ++ [c])
    simp only [spell, List.cons_append, List.foldlM_cons, taken] at later ⊢
    simpa using later

end Cursor

namespace Regex

/-- Whether a match can begin with a character. -/
def starts (c : Char) : Regex → Bool
  | .empty | .literal [] | .look _ => false
  | .literal (d :: _) => c = d
  | .oneOf set => set.contains c
  | .rep _ _ _ r => r.starts c
  | .group _ r => r.starts c
  | .seq r s => r.starts c || (!r.needsText && s.starts c)
  | .alt r s => r.starts c || s.starts c

variable {c : Char} {p q : Cursor}

theorem starts_of_exactTimes {inner : Cursor → List Cursor} {begins : Prop}
    (once : ∀ q ∈ inner p, q = p ∨ begins) {n : Nat} (member : q ∈ exactTimes inner n p) : q = p ∨ begins := by
  induction n with
  | zero => exact .inl (List.mem_singleton.mp member)
  | succ n ih =>
    obtain ⟨t, reached, rest⟩ := List.mem_flatMap.mp member
    rcases once t reached with rfl | begins
    · exact ih rest
    · exact .inr begins

theorem starts_of_upToTimes {inner : Cursor → List Cursor} {begins : Prop} {greedy : Bool}
    (once : ∀ q ∈ inner p, q = p ∨ begins) {n : Nat} (member : q ∈ upToTimes greedy inner n p) : q = p ∨ begins := by
  induction n with
  | zero => exact .inl (List.mem_singleton.mp member)
  | succ n ih =>
    rcases mem_upToTimes member with same | ⟨t, reached, rest⟩
    · exact .inl same
    · rcases once t reached with rfl | begins
      · exact ih rest
      · exact .inr begins

theorem starts_of_manyTimes {inner : Cursor → List Cursor} {begins : Prop} {greedy : Bool}
    (once : ∀ q ∈ inner p, q = p ∨ begins) (member : q ∈ manyTimes greedy inner p) : q = p ∨ begins := by
  rcases mem_manyTimes member with same | ⟨t, reached, further, _⟩
  · exact .inl same
  · rcases once t reached with rfl | begins
    · exact absurd further (Nat.lt_irrefl _)
    · exact .inr begins

theorem starts_of_take {set : CharSet} (before : p.rest.head? = some c) (taken : p.take set = some q) :
    set.contains c := by
  unfold Cursor.take at taken
  split at taken
  · rename_i contains
    simpa [Cursor.place, before] using contains
  · cases taken

/-- A way that goes on from a place begins with a character that a match can begin with. -/
theorem starts_of_ways (r : Regex) (before : p.rest.head? = some c) (member : q ∈ r.ways p) :
    q = p ∨ r.starts c := by
  induction r generalizing q with
  | empty => exact .inl (List.mem_singleton.mp member)
  | literal chars =>
    have spelled := Option.mem_toList.mp member
    cases chars with
    | nil => exact .inl (Option.some.inj spelled).symm
    | cons d chars =>
      obtain ⟨t, taken, _⟩ := Option.bind_eq_some_iff.mp spelled
      have same := starts_of_take before taken
      rw [CharSet.contains_single] at same
      exact .inr same
  | oneOf set => exact .inr (starts_of_take before (Option.mem_toList.mp member))
  | look condition =>
    rw [ways] at member
    split at member
    · exact .inl (List.mem_singleton.mp member)
    · cases member
  | group _ r ih => exact ih member
  | seq r s ihr ihs =>
    obtain ⟨t, reached, rest⟩ := List.mem_flatMap.mp member
    -- where the first part comes to nothing, it does not need text, and the second may begin with the character
    rcases ihr reached with rfl | begins
    · rcases ihs rest with rfl | begins
      · exact .inl rfl
      · by_cases needs : r.needsText
        · exact absurd ((r.onward_ways reached).2 needs).1 (Nat.lt_irrefl _)
        · exact .inr (by simp [starts, needs, begins])
    · exact .inr (by simp [starts, begins])
  | alt r s ihr ihs =>
    rcases List.mem_append.mp member with member | member
    · exact (ihr member).imp_right fun begins => (Bool.or_eq_true _ _).mpr (.inl begins)
    · exact (ihs member).imp_right fun begins => (Bool.or_eq_true _ _).mpr (.inr begins)
  | rep least extra greedy r ih =>
    have once : ∀ q ∈ r.ways p, q = p ∨ r.starts c := fun q known => ih known
    cases extra with
    | none =>
      obtain ⟨t, reached, rest⟩ := List.mem_flatMap.mp member
      rcases starts_of_exactTimes once reached with rfl | begins
      · exact starts_of_manyTimes once rest
      · exact .inr begins
    | some extra =>
      obtain ⟨t, reached, rest⟩ := List.mem_flatMap.mp member
      rcases starts_of_exactTimes once reached with rfl | begins
      · exact starts_of_upToTimes once rest
      · exact .inr begins

/-- An expression that needs text has no match before a character that none can begin with. -/
theorem ways_eq_nil {r : Regex} (needs : r.needsText) (before : p.rest.head? = some c) (other : r.starts c = false) :
    r.ways p = [] := by
  refine List.eq_nil_iff_forall_not_mem.mpr fun q member => ?_
  rcases r.starts_of_ways before member with rfl | begins
  · exact Nat.lt_irrefl _ ((r.onward_ways member).2 needs).1
  · rw [other] at begins
    cases begins

theorem ways_end {r : Regex} (needs : r.needsText) (ended : p.rest = []) : r.ways p = [] := by
  refine List.eq_nil_iff_forall_not_mem.mpr fun q member => ?_
  have further := ((r.onward_ways member).2 needs).2
  rw [ended] at further
  exact Nat.not_lt_zero _ further

/-- The preferred way from a place ends at another. -/
def Leads (r : Regex) (p q : Cursor) : Prop := ∃ others, r.ways p = q :: others

namespace Leads

variable {r s : Regex} {t : Cursor}

theorem seq (first : r.Leads p q) (second : s.Leads q t) : (Regex.seq r s).Leads p t := by
  obtain ⟨others, ways⟩ := first
  obtain ⟨more, rest⟩ := second
  exact ⟨more ++ others.flatMap s.ways, by rw [Regex.ways, ways, List.flatMap_cons, rest, List.cons_append]⟩

theorem alt_left (first : r.Leads p q) : (Regex.alt r s).Leads p q := by
  obtain ⟨others, ways⟩ := first
  exact ⟨others ++ s.ways p, by rw [Regex.ways, ways, List.cons_append]⟩

theorem alt_right (nothing : r.ways p = []) (second : s.Leads p q) : (Regex.alt r s).Leads p q := by
  obtain ⟨others, ways⟩ := second
  exact ⟨others, by rw [Regex.ways, nothing, ways, List.nil_append]⟩

theorem look {condition : Look} (holds : condition.holds p.place) : (Regex.look condition).Leads p p :=
  ⟨[], by rw [Regex.ways, if_pos holds]⟩

theorem literal (done rest : List Char) (chars : List Char) :
    (Regex.literal chars).Leads (.behind done (chars ++ rest)) (.behind (done ++ chars) rest) :=
  ⟨[], by rw [Regex.ways, Cursor.spell_behind]; rfl⟩

theorem oneOf {set : CharSet} (done rest : List Char) (member : set.contains c) :
    (Regex.oneOf set).Leads (.behind done (c :: rest)) (.behind (done ++ [c]) rest) :=
  ⟨[], by rw [Regex.ways, Cursor.take_behind, if_pos member]; rfl⟩

theorem ways_optional (r : Regex) (p : Cursor) : (Regex.rep 0 (some 1) true r).ways p = r.ways p ++ [p] := by
  simp [Regex.ways, exactTimes, upToTimes]

theorem taken (first : r.Leads p q) : (Regex.rep 0 (some 1) true r).Leads p q := by
  obtain ⟨others, ways⟩ := first
  exact ⟨others ++ [p], by rw [ways_optional, ways, List.cons_append]⟩

theorem leftOut (nothing : r.ways p = []) : (Regex.rep 0 (some 1) true r).Leads p p :=
  ⟨[], by rw [ways_optional, nothing, List.nil_append]⟩

end Leads

/-- What needs text is repeated as often as it can be, and then given up again one after another. -/
theorem ways_repeated {r : Regex} (needs : r.needsText) (p : Cursor) :
    (rep 0 none true r).ways p = (r.ways p).flatMap (rep 0 none true r).ways ++ [p] := by
  have again : (rep 0 none true r).ways = manyTimes true r.ways := by
    funext p
    simp [ways, exactTimes]
  rw [again, manyTimes_eq fun _ _ member => (r.onward_ways member).2 needs, if_pos rfl]

/-- As many characters of a set as there are: the preferred way ends behind the last, and the others before one of
them. -/
theorem ways_many {set : CharSet} (nonempty : !set.isEmpty) (done : List Char) {chars rest : List Char}
    (members : ∀ c ∈ chars, set.contains c) (ends : ∀ c ∈ rest.head?, set.contains c = false) :
    ∃ others,
      (rep 0 none true (oneOf set)).ways (.behind done (chars ++ rest)) = .behind (done ++ chars) rest :: others ∧
      ∀ q ∈ others, ∃ c, q.rest.head? = some c ∧ set.contains c := by
  have step := ways_repeated (r := .oneOf set) nonempty
  induction chars generalizing done with
  | nil =>
    have nothing : (oneOf set).ways (.behind done rest) = [] := by
      cases rest with
      | nil => exact ways_end nonempty rfl
      | cons c rest => exact ways_eq_nil nonempty rfl (ends c rfl)
    exact ⟨[], by rw [List.nil_append, List.append_nil, step, nothing]; rfl, nofun⟩
  | cons c chars ih =>
    obtain ⟨member, members⟩ := List.forall_mem_cons.mp members
    obtain ⟨others, ways, before⟩ := ih (done ++ [c]) members
    have one : (oneOf set).ways (.behind done (c :: (chars ++ rest))) = [.behind (done ++ [c]) (chars ++ rest)] := by
      rw [Regex.ways, Cursor.take_behind, if_pos member]
      rfl
    refine ⟨others ++ [.behind done (c :: (chars ++ rest))], ?_, fun q known => ?_⟩
    · rw [List.cons_append, step, one, List.flatMap_singleton, ways, List.append_assoc]
      rfl
    · rcases List.mem_append.mp known with known | known
      · exact before q known
      · rw [List.mem_singleton.mp known]
        exact ⟨c, rfl, member⟩

theorem Leads.many {set : CharSet} (nonempty : !set.isEmpty) (done : List Char) {chars rest : List Char}
    (members : ∀ c ∈ chars, set.contains c) (ends : ∀ c ∈ rest.head?, set.contains c = false) :
    (Regex.rep 0 none true (.oneOf set)).Leads (.behind done (chars ++ rest)) (.behind (done ++ chars) rest) := by
  obtain ⟨others, ways, _⟩ := ways_many nonempty done members ends
  exact ⟨others, ways⟩

/-- One character of a set, and then as many as there are. -/
theorem Leads.atLeastOne {set : CharSet} (nonempty : !set.isEmpty) (done : List Char) {c : Char}
    {chars rest : List Char} (members : ∀ d ∈ c :: chars, set.contains d)
    (ends : ∀ d ∈ rest.head?, set.contains d = false) :
    (Regex.rep 1 none true (.oneOf set)).Leads (.behind done (c :: chars ++ rest))
      (.behind (done ++ c :: chars) rest) := by
  obtain ⟨member, members⟩ := List.forall_mem_cons.mp members
  have again (p : Cursor) : (Regex.rep 1 none true (.oneOf set)).ways p =
      (Regex.seq (.oneOf set) (.rep 0 none true (.oneOf set))).ways p := by
    simp [ways, exactTimes]
  obtain ⟨others, ways⟩ := (Leads.oneOf done (chars ++ rest) member).seq (.many nonempty (done ++ [c]) members ends)
  exact ⟨others, by rw [again]; simpa using ways⟩

end Regex

variable {r : Regex} (steady : r.steady) (needs : r.needsText) {done rest chars : List Char}

/-- A search in a line from the place that is behind some characters of it. -/
theorem findAt_behind (p : Pattern) (done rest : List Char) :
    p.findAt (done ++ rest) (byteLength done) = search p.automaton done.getLast? (byteLength done) rest := by
  rw [findAt, seek_append_eq, Option.or_none]

include steady

theorem search_leads (leads : r.Leads (.behind done (chars ++ rest)) (.behind (done ++ chars) rest)) :
    search r.automaton done.getLast? (byteLength done) (chars ++ rest) =
      some ⟨byteLength done, byteLength (done ++ chars)⟩ := by
  obtain ⟨others, ways⟩ := leads
  exact r.search_here steady ways

theorem findAt_leads {source : String} (leads : r.Leads (.behind done (chars ++ rest)) (.behind (done ++ chars) rest)) :
    (⟨source, r.automaton⟩ : Pattern).findAt (done ++ (chars ++ rest)) (byteLength done) =
      some ⟨byteLength done, byteLength (done ++ chars)⟩ := by
  rw [findAt_behind, search_leads steady leads]

/-- Where there is no match at once, none begins there later on. -/
theorem search_later (nothing : r.ways (.behind done rest) = []) {m : Match}
    (found : search r.automaton done.getLast? (byteLength done) rest = some m) : byteLength done < m.start := by
  cases rest with
  | nil => cases (r.search_end steady nothing).symm.trans found
  | cons c rest =>
    have positive := c.utf8Size_pos
    have bounds := search_bounds ((r.search_next steady nothing).symm.trans found)
    omega

include needs

/-- Characters that no match can begin with are passed over. -/
theorem search_skip (other : ∀ c ∈ chars, r.starts c = false) (done rest : List Char) :
    search r.automaton done.getLast? (byteLength done) (chars ++ rest) =
      search r.automaton (done ++ chars).getLast? (byteLength (done ++ chars)) rest := by
  induction chars generalizing done with
  | nil => simp
  | cons c chars ih =>
    obtain ⟨head, tail⟩ := List.forall_mem_cons.mp other
    have nothing : r.ways (.behind done (c :: (chars ++ rest))) = [] := Regex.ways_eq_nil needs rfl head
    have later := ih tail (done ++ [c])
    rw [List.cons_append, r.search_next steady nothing]
    simpa [byteLength_append, byteLength] using later

theorem search_nothing (other : ∀ c ∈ chars, r.starts c = false) (done : List Char) :
    search r.automaton done.getLast? (byteLength done) chars = none := by
  have skipped := search_skip steady needs other done []
  rw [List.append_nil] at skipped
  rw [skipped]
  exact r.search_end steady (Regex.ways_end needs rfl)

theorem findAt_nothing {source : String} (other : ∀ c ∈ chars, r.starts c = false) (done : List Char) :
    (⟨source, r.automaton⟩ : Pattern).findAt (done ++ chars) (byteLength done) = none := by
  rw [findAt_behind, search_nothing steady needs other]

end Pattern

end Highlighter
