import Mathlib.Data.List.Infix
import Highlighter.Proofs.Boundary
import Highlighter.Proofs.Tables
import Highlighter.Theme

namespace Highlighter.Theme

theorem size_le_of_precedes {a b : String × String} (before : precedes a b) :
    b.1.utf8ByteSize ≤ a.1.utf8ByteSize := by
  simp only [precedes, Bool.or_eq_true, Bool.and_eq_true, decide_eq_true_eq] at before
  omega

theorem precedes_trans (a b c : String × String) (first : precedes a b) (second : precedes b c) : precedes a c := by
  simp only [precedes, Bool.or_eq_true, Bool.and_eq_true, decide_eq_true_eq] at first second ⊢
  rcases first with longer | ⟨same, before⟩
  · exact .inl (by omega)
  · rcases second with longer | ⟨equal, after⟩
    · exact .inl (by omega)
    · exact .inr ⟨by omega, String.le_trans before after⟩

theorem precedes_total (a b : String × String) : precedes a b || precedes b a := by
  simp only [precedes, Bool.or_eq_true, Bool.and_eq_true, decide_eq_true_eq]
  rcases Nat.lt_trichotomy a.1.utf8ByteSize b.1.utf8ByteSize with shorter | same | longer
  · exact .inr (.inl shorter)
  · rcases String.le_total a.1 b.1 with before | after
    · exact .inl (.inr ⟨same.symm, before⟩)
    · exact .inr (.inr ⟨same, after⟩)
  · exact .inl (.inl longer)

/-- The rules of a theme stand by their length. -/
theorem ordered (entries : List (String × String)) :
    (ofEntries entries).rules.Pairwise fun a b => b.1.utf8ByteSize ≤ a.1.utf8ByteSize :=
  (List.pairwise_mergeSort precedes_trans precedes_total entries).imp size_le_of_precedes

/-- A text that a scope begins with, where no text with a group that the scope begins with is longer. -/
structure IsLongest (groups : String → Option String) (scope text : String) : Prop where
  begins : text.toList <+: scope.toList
  longest : ∀ {other group}, groups other = some group → other.toList <+: scope.toList →
    other.utf8ByteSize ≤ text.utf8ByteSize

/-- Two texts of one length can not both begin a scope. -/
theorem begin_unique {scope text other : String} (begins : text.toList <+: scope.toList)
    (otherBegins : other.toList <+: scope.toList) (length : text.utf8ByteSize = other.utf8ByteSize) : text = other := by
  obtain ⟨rest, whole⟩ := begins
  obtain ⟨otherRest, otherWhole⟩ := otherBegins
  rw [← Text.byteLength_toList, ← Text.byteLength_toList] at length
  obtain ⟨between, longer, _⟩ := Text.beginning_extends (whole.trans otherWhole.symm) (Nat.le_of_eq length)
  rw [longer, Text.byteLength_append] at length
  rw [Text.eq_nil_of_byteLength (by omega : Text.byteLength between = 0), List.append_nil] at longer
  exact String.toList_inj.mp longer.symm

section Listed

variable {table : Table String String} {entries : List (String × String)} (order : entries.Perm table.entries)

include order

theorem mem_rules {text group : String} : (text, group) ∈ (ofEntries entries).rules ↔ table.get? text = some group := by
  rw [← Table.mem_entries]
  exact ((List.mergeSort_perm entries precedes).trans order).mem_iff

/-- The first rule that is for a scope is the longest. -/
theorem longest_of_find {scope text group : String}
    (here : ((ofEntries entries).rules.find? fun rule => rule.1.toList.isPrefixOf scope.toList) = some (text, group)) :
    table.get? text = some group ∧ IsLongest table.get? scope text := by
  obtain ⟨begins, before, after, whole, passed⟩ := List.find?_eq_some_iff_append.mp here
  have sorted := ordered entries
  rw [whole] at sorted
  obtain ⟨_, rest, _⟩ := List.pairwise_append.mp sorted
  refine ⟨(mem_rules order).mp (whole ▸ List.mem_append_right before List.mem_cons_self),
    List.isPrefixOf_iff_prefix.mp begins, fun {other group} known otherBegins => ?_⟩
  have member := (mem_rules order).mpr known
  rw [whole, List.mem_append, List.mem_cons] at member
  rcases member with early | same | late
  · have mismatch := passed _ early
    rw [List.isPrefixOf_iff_prefix.mpr otherBegins] at mismatch
    cases mismatch
  · exact Nat.le_of_eq (congrArg (fun rule => rule.1.utf8ByteSize) same)
  · exact List.rel_of_pairwise_cons rest late

theorem groupOf?_eq_some {scope group : String} : (ofEntries entries).groupOf? scope = some group ↔
    ∃ text, table.get? text = some group ∧ IsLongest table.get? scope text := by
  simp only [groupOf?, Option.map_eq_some_iff, Prod.exists]
  constructor
  · rintro ⟨text, found, here, rfl⟩
    exact ⟨text, longest_of_find order here⟩
  · rintro ⟨text, known, longest⟩
    have any : ((ofEntries entries).rules.find? fun rule => rule.1.toList.isPrefixOf scope.toList).isSome :=
      List.find?_isSome.mpr ⟨_, (mem_rules order).mpr known, List.isPrefixOf_iff_prefix.mpr longest.begins⟩
    obtain ⟨⟨other, found⟩, here⟩ := Option.isSome_iff_exists.mp any
    obtain ⟨otherKnown, otherLongest⟩ := longest_of_find order here
    have same : other = text := begin_unique otherLongest.begins longest.begins
      (Nat.le_antisymm (longest.longest otherKnown otherLongest.begins) (otherLongest.longest known longest.begins))
    subst same
    cases known.symm.trans otherKnown
    exact ⟨other, group, here, rfl⟩

theorem groupOf?_eq_none {scope : String} : (ofEntries entries).groupOf? scope = none ↔
    ∀ text group, table.get? text = some group → ¬text.toList <+: scope.toList := by
  simp only [groupOf?, Option.map_eq_none_iff, List.find?_eq_none, Prod.forall, mem_rules order,
    List.isPrefixOf_iff_prefix]

end Listed

/-- The group that some rules give to scopes: that of the longest text which the innermost scope begins with of those
that begin with any. The first scope does not count. -/
def Gives (groups : String → Option String) (scopes : List String) (group : String) : Prop :=
  ∃ i scope text, 1 ≤ i ∧ scopes[i]? = some scope ∧ groups text = some group ∧ IsLongest groups scope text ∧
    ∀ {j : Nat} {inner}, i < j → scopes[j]? = some inner →
      ∀ {other group}, groups other = some group → ¬other.toList <+: inner.toList

theorem findSome?_reverse {β γ : Type} {f : β → Option γ} {xs : List β} {y : γ} :
    xs.reverse.findSome? f = some y ↔
      ∃ i x, xs[i]? = some x ∧ f x = some y ∧ ∀ {j : Nat} {z}, i < j → xs[j]? = some z → f z = none := by
  induction xs with
  | nil => simp
  | cons head xs ih =>
    rw [List.reverse_cons, List.findSome?_append, Option.or_eq_some_iff, ih]
    constructor
    · rintro (⟨i, x, here, found, later⟩ | ⟨none_, here⟩)
      · refine ⟨i + 1, x, here, found, fun {j z} after there => ?_⟩
        obtain ⟨j, rfl⟩ : ∃ k, j = k + 1 := ⟨j - 1, by omega⟩
        exact later (by omega) there
      · refine ⟨0, head, rfl, by simpa using here, fun {j z} after there => ?_⟩
        obtain ⟨j, rfl⟩ : ∃ k, j = k + 1 := ⟨j - 1, by omega⟩
        exact List.findSome?_eq_none_iff.mp none_ z (List.mem_reverse.mpr (List.mem_of_getElem? there))
    · rintro ⟨i, x, here, found, later⟩
      cases i with
      | succ i => exact .inl ⟨i, x, here, found, fun {j z} after there => later (Nat.succ_lt_succ after) there⟩
      | zero =>
        cases here
        refine .inr ⟨List.findSome?_eq_none_iff.mpr fun z member => ?_, by simpa using found⟩
        obtain ⟨j, there⟩ := List.mem_iff_getElem?.mp (List.mem_reverse.mp member)
        exact later (Nat.succ_pos j) there

theorem group?_eq_some {table : Table String String} {entries : List (String × String)}
    (order : entries.Perm table.entries) (scopes : List String) (group : String) :
    (ofEntries entries).group? scopes = some group ↔ Gives table.get? scopes group := by
  rw [group?, findSome?_reverse]
  simp only [List.getElem?_drop, groupOf?_eq_some order, groupOf?_eq_none order]
  constructor
  · rintro ⟨i, scope, here, ⟨text, known, longest⟩, later⟩
    refine ⟨1 + i, scope, text, Nat.le_add_right .., here, known, longest, fun {j inner} after there => ?_⟩
    obtain ⟨j, rfl⟩ : ∃ k, j = 1 + k := ⟨j - 1, by omega⟩
    exact later (by omega) there _ _
  · rintro ⟨i, scope, text, inside, here, known, longest, later⟩
    obtain ⟨i, rfl⟩ : ∃ k, i = 1 + k := ⟨i - 1, by omega⟩
    exact ⟨i, scope, here, ⟨text, known, longest⟩, fun {j inner} after there _ _ => later (by omega) there⟩

/-- The groups of the default rules with others added or in their place. -/
def groupsWithDefaults (rules : Table String String) (text : String) : Option String :=
  (rules.get? text).or (defaultRules.lookup text)

theorem get?_withDefaults (rules : Table String String) : (withDefaults rules).get? = groupsWithDefaults rules := by
  have distinct : (defaultRules.map Prod.fst).Nodup := by decide +kernel
  funext text
  rw [withDefaults, Table.get?_merge, Table.get?_ofList distinct, groupsWithDefaults]

theorem group?_gives (rules : Table String String) {entries : List (String × String)}
    (order : entries.Perm (withDefaults rules).entries) (scopes : List String) (group : String) :
    (ofEntries entries).group? scopes = some group ↔ Gives (groupsWithDefaults rules) scopes group := by
  rw [group?_eq_some order, get?_withDefaults]

/-- In whatever order rules and defaults are listed when they are merged, the longest text on the innermost scope
decides, and of the rules alone too. The first scope never makes a difference, and merging anew for one token comes to
the same. -/
theorem group?_longest_innermost (rules : Table String String) {entries : List (String × String)}
    (order : entries.Perm (withDefaults rules).entries) (scopes : List String) :
    (∀ group, (ofEntries entries).group? scopes = some group ↔ Gives (groupsWithDefaults rules) scopes group) ∧
      (∀ root, (ofEntries entries).group? (root :: scopes.drop 1) = (ofEntries entries).group? scopes) ∧
      (∀ {alone : List (String × String)}, alone.Perm rules.entries →
        ∀ group, (ofEntries alone).group? scopes = some group ↔ Gives rules.get? scopes group) ∧
      (ofRules rules).group? scopes = (ofEntries entries).group? scopes := by
  refine ⟨group?_gives rules order scopes, fun root => rfl, fun {alone} order => group?_eq_some order scopes,
    Option.ext fun group => ?_⟩
  rw [group?_gives rules order]
  exact group?_gives rules (List.Perm.refl _) scopes group

/-- A rule that is longer than the default ones for a scope, in a list that is not in the order of the texts. -/
theorem group?_longest_innermost_reversed :
    (ofEntries (withDefaults (.ofList [("string.quoted", "Quoted")])).entries.reverse).group?
      ["source", "comment", "string.quoted.double"] = some "Quoted" := by
  have law := (group?_longest_innermost (.ofList [("string.quoted", "Quoted")]) (List.reverse_perm _)
    ["source", "comment", "string.quoted.double"]).1 "Quoted"
  have short : ∀ text ∈ "string.quoted.double".toList.inits,
      (groupsWithDefaults (.ofList [("string.quoted", "Quoted")]) (String.ofList text)).isSome →
        (String.ofList text).utf8ByteSize ≤ "string.quoted".utf8ByteSize := by decide +kernel
  refine law.mpr ⟨2, "string.quoted.double", "string.quoted", by decide, rfl, by decide +kernel, ⟨by decide, ?_⟩, ?_⟩
  · intro other group known begins
    have here := short other.toList ((List.mem_inits _ _).mpr begins)
    rw [String.ofList_toList, known] at here
    exact here rfl
  · intro j inner after there
    obtain ⟨j, rfl⟩ : ∃ k, j = k + 3 := ⟨j - 3, by omega⟩
    cases there

end Highlighter.Theme
