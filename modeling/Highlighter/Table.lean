namespace Highlighter

structure Table (κ α : Type) [LT κ] where
  entries : List (κ × α)
  sorted : entries.Pairwise fun a b => a.1 < b.1
deriving Repr

namespace Table

variable {κ α : Type} [LT κ]

theorem ext {s t : Table κ α} (h : s.entries = t.entries) : s = t := by
  cases s; cases t; cases h; rfl

instance [DecidableEq κ] [DecidableEq α] : DecidableEq (Table κ α) := fun s t =>
  decidable_of_iff (s.entries = t.entries) ⟨ext, fun h => h ▸ rfl⟩

def empty : Table κ α := ⟨[], .nil⟩

instance : EmptyCollection (Table κ α) := ⟨empty⟩

instance : Inhabited (Table κ α) := ⟨empty⟩

def keys (t : Table κ α) : List κ := t.entries.map Prod.fst

def values (t : Table κ α) : List α := t.entries.map Prod.snd

def size (t : Table κ α) : Nat := t.entries.length

/-- Puts an entry into its place, instead of the one with its key. -/
def put [DecidableLT κ] [DecidableEq κ] (key : κ) (value : α) : List (κ × α) → List (κ × α)
  | [] => [(key, value)]
  | (k, v) :: rest =>
    if key = k then (key, value) :: rest
    else if key < k then (key, value) :: (k, v) :: rest
    else (k, v) :: put key value rest

section Lookup

variable [DecidableEq κ]

def get? (t : Table κ α) (key : κ) : Option α := t.entries.lookup key

def contains (t : Table κ α) (key : κ) : Bool := (t.get? key).isSome

def erase (t : Table κ α) (key : κ) : Table κ α := ⟨t.entries.filter fun e => e.1 ≠ key, t.sorted.filter _⟩

theorem get?_empty (key : κ) : (empty : Table κ α).get? key = none := rfl

omit [LT κ] in
theorem lookup_cons (k : κ) (v : α) (entries : List (κ × α)) (key : κ) :
    ((k, v) :: entries).lookup key = if key = k then some v else entries.lookup key := by
  by_cases found : key = k
  · subst found; simp
  · rw [List.lookup_cons, beq_false_of_ne found, if_neg found]

omit [LT κ] in
theorem lookup_filter_ne (entries : List (κ × α)) (erased key : κ) :
    (entries.filter fun e => e.1 ≠ erased).lookup key = if key = erased then none else entries.lookup key := by
  induction entries with
  | nil => simp
  | cons entry entries ih =>
    obtain ⟨k, v⟩ := entry
    by_cases same : k = erased
    · subst same
      rw [List.filter_cons_of_neg (by simp), ih, lookup_cons]
      split <;> rfl
    · rw [List.filter_cons_of_pos (by simpa using same), lookup_cons, lookup_cons, ih]
      by_cases found : key = k
      · simp [found, same]
      · simp [found]

theorem get?_erase (t : Table κ α) (erased key : κ) :
    (t.erase erased).get? key = if key = erased then none else t.get? key :=
  lookup_filter_ne t.entries erased key

theorem lookup_put [DecidableLT κ] (entries : List (κ × α)) (key other : κ) (value : α) :
    (put key value entries).lookup other = if other = key then some value else entries.lookup other := by
  induction entries with
  | nil => exact lookup_cons key value [] other
  | cons entry entries ih =>
    obtain ⟨k, v⟩ := entry
    unfold put
    split
    · rename_i same
      subst same
      rw [lookup_cons, lookup_cons]
      split <;> rfl
    · rename_i different
      split
      · exact lookup_cons key value ((k, v) :: entries) other
      · rw [lookup_cons, lookup_cons, ih]
        by_cases found : other = k
        · simp [found, Ne.symm different]
        · simp [found]

theorem mem_put [DecidableLT κ] {key : κ} {value : α} {entries : List (κ × α)} {e : κ × α}
    (h : e ∈ put key value entries) :
    e = (key, value) ∨ e ∈ entries := by
  induction entries with
  | nil => exact .inl (by simpa [put] using h)
  | cons entry entries ih =>
    unfold put at h
    split at h
    · exact (List.mem_cons.mp h).imp_right (List.mem_cons_of_mem _)
    · split at h
      · exact List.mem_cons.mp h
      · obtain rfl | later := List.mem_cons.mp h
        · exact .inr (List.mem_cons_self ..)
        · exact (ih later).imp_right (List.mem_cons_of_mem _)

theorem mem_keys {t : Table κ α} {key : κ} : key ∈ t.keys ↔ (t.get? key).isSome := by
  simp only [keys, get?, List.mem_map, List.lookup_isSome_iff, beq_iff_eq]
  exact exists_congr fun entry => and_congr_right fun _ => eq_comm

end Lookup

section Insertion

variable [LE κ] [Std.IsLinearOrder κ] [Std.LawfulOrderLT κ] [DecidableLT κ] [DecidableEq κ]

theorem sorted_put {entries : List (κ × α)} (sorted : entries.Pairwise fun a b => a.1 < b.1) (key : κ) (value : α) :
    (put key value entries).Pairwise fun a b => a.1 < b.1 := by
  induction sorted with
  | nil => exact List.pairwise_singleton _ _
  | @cons entry entries first sorted ih =>
    unfold put
    split
    · rename_i same
      exact .cons (fun e member => same ▸ first e member) sorted
    · split
      · rename_i before
        refine .cons (fun e member => ?_) (.cons first sorted)
        obtain rfl | later := List.mem_cons.mp member
        · exact before
        · exact Std.lt_trans before (first e later)
      · rename_i different notBefore
        have after : entry.1 < key :=
          Std.lt_of_le_of_ne (Std.not_lt.mp notBefore) fun same => different same.symm
        refine .cons (fun e member => ?_) ih
        obtain rfl | later := mem_put member
        · exact after
        · exact first e later

def insert (t : Table κ α) (key : κ) (value : α) : Table κ α := ⟨put key value t.entries, sorted_put t.sorted key value⟩

theorem get?_insert (t : Table κ α) (key other : κ) (value : α) :
    (t.insert key value).get? other = if other = key then some value else t.get? other :=
  lookup_put t.entries key other value

omit [Std.IsLinearOrder κ] [DecidableLT κ] in
theorem mem_entries {t : Table κ α} {key : κ} {value : α} : (key, value) ∈ t.entries ↔ t.get? key = some value := by
  obtain ⟨entries, sorted⟩ := t
  simp only [get?]
  induction sorted with
  | nil => simp
  | @cons entry entries first _ ih =>
    obtain ⟨k, v⟩ := entry
    rw [lookup_cons, List.mem_cons, ih, Prod.mk.injEq]
    by_cases same : key = k
    · subst same
      have absent : entries.lookup key ≠ some value := fun found =>
        Std.lt_irrefl (first (key, value) (ih.mpr found))
      simp [absent, eq_comm]
    · simp [same]

/-- Of several entries with one key the last counts. -/
def ofList (entries : List (κ × α)) : Table κ α := entries.foldl (fun t e => t.insert e.1 e.2) empty

/-- The entries of both, where those of the second count. -/
def merge (s t : Table κ α) : Table κ α := t.entries.foldl (fun s e => s.insert e.1 e.2) s

end Insertion

end Table

end Highlighter
