import Mathlib.Data.List.Nodup
import Highlighter.Table

namespace Highlighter.Table

variable {κ α : Type}

theorem nodup_keys [LT κ] [LE κ] [Std.IsLinearOrder κ] [Std.LawfulOrderLT κ] (t : Table κ α) : t.keys.Nodup :=
  t.sorted.map Prod.fst fun _ _ before same => Std.lt_irrefl (same ▸ before)

section Extensional

variable [DecidableEq κ] [LT κ] [LE κ] [Std.IsLinearOrder κ] [Std.LawfulOrderLT κ]

/-- Tables that answer alike are the same. -/
theorem eq_of_get? {s t : Table κ α} (alike : ∀ key, s.get? key = t.get? key) : s = t := by
  have distinct (t : Table κ α) : t.entries.Nodup := .of_map Prod.fst t.nodup_keys
  refine ext (List.Perm.eq_of_pairwise (fun _ _ _ _ before after => ?_) s.sorted t.sorted ?_)
  · exact (Std.lt_irrefl (Std.lt_trans before after)).elim
  · refine (List.perm_ext_iff_of_nodup (distinct s) (distinct t)).mpr fun (key, value) => ?_
    rw [mem_entries, mem_entries, alike]

theorem insert_comm [DecidableLT κ] (t : Table κ α) {key other : κ} (different : key ≠ other) (value also : α) :
    (t.insert key value).insert other also = (t.insert other also).insert key value := by
  refine eq_of_get? fun asked => ?_
  simp only [get?_insert]
  by_cases first : asked = key <;> by_cases second : asked = other <;> simp_all

theorem erase_comm (t : Table κ α) (key other : κ) : (t.erase key).erase other = (t.erase other).erase key := by
  refine eq_of_get? fun asked => ?_
  simp only [get?_erase]
  split <;> split <;> rfl

end Extensional

section Listed

variable [DecidableEq κ] {entries others : List (κ × α)} (distinct : (entries.map Prod.fst).Nodup)

include distinct

theorem lookup_eq_some_iff_mem {key : κ} {value : α} :
    entries.lookup key = some value ↔ (key, value) ∈ entries := by
  induction entries with
  | nil => simp
  | cons entry entries ih =>
    obtain ⟨k, v⟩ := entry
    obtain ⟨fresh, rest⟩ := List.nodup_cons.mp distinct
    rw [lookup_cons, List.mem_cons, Prod.mk.injEq]
    by_cases same : key = k
    · subst same
      have absent : (key, value) ∉ entries := fun member => fresh (List.mem_map.mpr ⟨_, member, rfl⟩)
      simp [absent, eq_comm]
    · simp [same, ih rest]

theorem lookup_perm (order : entries.Perm others) (key : κ) : entries.lookup key = others.lookup key := by
  have distinctOthers : (others.map Prod.fst).Nodup := (order.map Prod.fst).nodup_iff.mp distinct
  refine Option.ext fun value => ?_
  rw [lookup_eq_some_iff_mem distinct, lookup_eq_some_iff_mem distinctOthers, order.mem_iff]

end Listed

section Filled

variable [DecidableEq κ] [LT κ] [LE κ] [Std.IsLinearOrder κ] [Std.LawfulOrderLT κ] [DecidableLT κ]

theorem get?_insertAll (entries : List (κ × α)) (t : Table κ α) (key : κ) :
    (entries.foldl (fun t e => t.insert e.1 e.2) t).get? key = (entries.reverse.lookup key).or (t.get? key) := by
  induction entries generalizing t with
  | nil => rfl
  | cons entry entries ih =>
    have one : (t.insert entry.1 entry.2).get? key = ([entry].lookup key).or (t.get? key) := by
      rw [get?_insert, lookup_cons]
      split <;> rfl
    rw [List.foldl_cons, ih, one, List.reverse_cons, List.lookup_append, Option.or_assoc]

theorem get?_ofList {entries : List (κ × α)} (distinct : (entries.map Prod.fst).Nodup) (key : κ) :
    (ofList entries).get? key = entries.lookup key := by
  rw [ofList, get?_insertAll, get?_empty, Option.or_none, lookup_perm distinct (List.reverse_perm entries).symm]

theorem get?_merge (s t : Table κ α) (key : κ) : (s.merge t).get? key = (t.get? key).or (s.get? key) := by
  rw [merge, get?_insertAll, ← lookup_perm t.nodup_keys (List.reverse_perm t.entries).symm]
  rfl

end Filled

end Highlighter.Table
