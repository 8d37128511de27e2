import Highlighter.Unicode.LowerCase

namespace Highlighter.Unicode

theorem CaseRun.mem_members {r : CaseRun} {n : Nat} (covered : r.covers n = true) : n ∈ r.members := by
  simp only [covers, Bool.and_eq_true, decide_eq_true_eq, beq_iff_eq] at covered
  obtain ⟨⟨above, below⟩, whole⟩ := covered
  have divided := Nat.div_mul_cancel (Nat.dvd_of_mod_eq_zero whole)
  have within : (n - r.lo) / r.step ≤ (r.hi - r.lo) / r.step := Nat.div_le_div_right (by omega)
  exact List.mem_map.mpr ⟨(n - r.lo) / r.step, List.mem_range.mpr (by omega), by omega⟩

theorem CaseRun.apply_bounds {r : CaseRun} {n : Nat} (covered : r.covers n = true) :
    r.apply r.lo ≤ r.apply n ∧ r.apply n ≤ r.apply r.hi := by
  simp only [covers, Bool.and_eq_true, decide_eq_true_eq] at covered
  simp only [apply]
  omega

/-- Whether the other run covers no character that this one leads to. Most runs are too far apart to look at each of
their characters. -/
def CaseRun.misses (r s : CaseRun) : Bool :=
  Nat.blt s.hi (r.apply r.lo) || Nat.blt (r.apply r.hi) s.lo || r.members.all fun n => !s.covers (r.apply n)

theorem CaseRun.not_covers_of_misses {r s : CaseRun} (misses : r.misses s = true) {n : Nat}
    (covered : r.covers n = true) : s.covers (r.apply n) = false := by
  have bounds := apply_bounds covered
  simp only [CaseRun.misses, Bool.or_eq_true, Nat.blt_eq, List.all_eq_true, Bool.not_eq_true'] at misses
  rcases misses with (below | above) | each
  · simp only [covers, Bool.and_eq_false_iff, decide_eq_false_iff_not]
    exact .inl (.inr (by omega))
  · simp only [covers, Bool.and_eq_false_iff, decide_eq_false_iff_not]
    exact .inl (.inl (by omega))
  · exact each n (mem_members covered)

theorem lowerRuns_miss : (lowerRuns.all fun r => lowerRuns.all r.misses) = true := by decide +kernel

/-- Every run leads to characters, none of which is the capital I with a dot. -/
theorem lowerRuns_lead : (lowerRuns.all fun r => r.members.all fun n =>
    decide (r.apply n).isValidChar && r.apply n != 0x130) = true := by decide +kernel

/-- Of the characters below 128 the capitals are covered, and no others. -/
theorem lowerRuns_ascii : (lowerRuns.tail.all fun r => Nat.ble 128 r.lo) = true := by decide +kernel

theorem lowerRuns_sigma : (lowerRuns.any fun r => r.covers '\u03A3'.toNat) = true := by decide +kernel

theorem toNat_toLower (c : Char) :
    c.toLower.toNat = if 0x41 ≤ c.toNat ∧ c.toNat ≤ 0x5A then c.toNat + 32 else c.toNat := by
  unfold Char.toLower
  split
  · rename_i capital
    have bounds : 0x41 ≤ c.toNat ∧ c.toNat ≤ 0x5A := capital
    have sum := UInt32.toNat_add c.val ('a'.val - 'A'.val)
    rw [if_pos bounds]
    exact sum.trans (Nat.mod_eq_of_lt (by simp only [Char.toNat_val]; simp; omega))
  · rename_i other
    exact (if_neg other).symm

/-- A character that no rule of lower case applies to. -/
structure IsLower (c : Char) : Prop where
  uncovered : ∀ r ∈ lowerRuns, r.covers c.toNat = false
  undotted : c ≠ '\u0130'

theorem IsLower.not_sigma {c : Char} (lower : IsLower c) : c ≠ '\u03A3' := by
  rintro rfl
  obtain ⟨r, member, covered⟩ := List.any_eq_true.mp lowerRuns_sigma
  cases (lower.uncovered r member).symm.trans covered

theorem IsLower.lowerChar_eq {c : Char} (lower : IsLower c) : lowerChar c = [c] := by
  have none_ : lowerRuns.find? (·.covers c.toNat) = none :=
    List.find?_eq_none.mpr fun r member => by simp [lower.uncovered r member]
  have capitals := lower.uncovered ⟨0x41, 0x5A, 1, 32⟩ List.mem_cons_self
  simp only [CaseRun.covers, Nat.mod_one, beq_self_eq_true, Bool.and_true, Bool.and_eq_false_iff,
    decide_eq_false_iff_not] at capitals
  have same : c.toLower = c := Char.toNat_inj.mp (by rw [toNat_toLower, if_neg (by omega)])
  rw [lowerChar, none_, if_neg lower.undotted, same, ite_self]

theorem isLower_of_ascii {c : Char} (ascii : c.toNat < 128) (small : ¬(0x41 ≤ c.toNat ∧ c.toNat ≤ 0x5A)) :
    IsLower c where
  uncovered := by
    intro r member
    have above := List.all_eq_true.mp lowerRuns_ascii
    simp only [CaseRun.covers, Bool.and_eq_false_iff, decide_eq_false_iff_not]
    rcases List.mem_cons.mp (show r ∈ (⟨0x41, 0x5A, 1, 32⟩ : CaseRun) :: lowerRuns.tail from member) with rfl | later
    · exact .inl (by simp only; omega)
    · have := Nat.le_of_ble_eq_true (above r later)
      exact .inl (.inl (by omega))
  undotted := by
    rintro rfl
    exact absurd ascii (by decide)

/-- What a run leads to is in lower case. -/
theorem isLower_of_covers {r : CaseRun} (member : r ∈ lowerRuns) {n : Nat} (covered : r.covers n = true) :
    IsLower (Char.ofNat (r.apply n)) := by
  have lead := List.all_eq_true.mp (List.all_eq_true.mp lowerRuns_lead r member) n (CaseRun.mem_members covered)
  simp only [Bool.and_eq_true, decide_eq_true_eq, bne_iff_ne] at lead
  have point : (Char.ofNat (r.apply n)).toNat = r.apply n := by
    rw [Char.ofNat, dif_pos lead.1]
    rfl
  refine ⟨fun s other => ?_, fun dotted => lead.2 ?_⟩
  · rw [point]
    exact CaseRun.not_covers_of_misses (List.all_eq_true.mp (List.all_eq_true.mp lowerRuns_miss r member) s other) covered
  · rw [← point, dotted]
    rfl

theorem isLower_of_mem_lowerChar {c d : Char} (member : d ∈ lowerChar c) : IsLower d := by
  unfold lowerChar at member
  split at member
  · rename_i ascii
    obtain rfl := List.mem_singleton.mp member
    have point := toNat_toLower c
    split at point <;> exact isLower_of_ascii (by omega) (by omega)
  · split at member
    · simp only [List.mem_cons, List.not_mem_nil, or_false] at member
      rcases member with rfl | rfl
      · exact isLower_of_ascii (by decide) (by decide)
      · -- the dot is what no run covers: it stands between two of them
        exact ⟨by decide +kernel, by decide⟩
    · rename_i undotted
      split at member
      · rename_i r found
        obtain rfl := List.mem_singleton.mp member
        have covered := List.find?_some (p := fun r : CaseRun => r.covers c.toNat) found
        exact isLower_of_covers (List.mem_of_find?_eq_some found) covered
      · rename_i found
        obtain rfl := List.mem_singleton.mp member
        exact ⟨fun r known => by simpa using List.find?_eq_none.mp found r known, undotted⟩

theorem isLower_of_mem_lowerFrom {before cs : List Char} {d : Char} (member : d ∈ lowerFrom before cs) : IsLower d := by
  induction cs generalizing before with
  | nil => exact absurd member List.not_mem_nil
  | cons c cs ih =>
    rcases List.mem_append.mp member with here | later
    · split at here
      · obtain rfl := List.mem_singleton.mp here
        split <;> exact ⟨by decide +kernel, by decide⟩
      · exact isLower_of_mem_lowerChar here
    · exact ih later

theorem lowerFrom_eq_self {cs : List Char} (lower : ∀ c ∈ cs, IsLower c) (before : List Char) :
    lowerFrom before cs = cs := by
  induction cs generalizing before with
  | nil => rfl
  | cons c cs ih =>
    obtain ⟨first, rest⟩ := List.forall_mem_cons.mp lower
    rw [lowerFrom, if_neg first.not_sigma, first.lowerChar_eq, ih rest, List.singleton_append]

/-- A text in lower case is its own lower case. -/
theorem lowerCase_lowerCase (text : String) : lowerCase (lowerCase text) = lowerCase text := by
  simp only [lowerCase, String.toList_ofList]
  rw [lowerFrom_eq_self fun c member => isLower_of_mem_lowerFrom member]

end Highlighter.Unicode
