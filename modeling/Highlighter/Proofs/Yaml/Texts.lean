import Mathlib.Data.List.Chain
import Mathlib.Data.List.TakeWhile
import Highlighter.Proofs.Yaml.Spots
import Highlighter.Yaml.Written

namespace Highlighter.Yaml

section Printable

variable {c : Char} (printable : isPrintable c = true)

include printable

theorem ne_of_isPrintable {d : Char} (unprintable : isPrintable d = false) : c ≠ d := by
  rintro rfl
  cases printable.symm.trans unprintable

theorem isAllowed_of_isPrintable : isAllowed c = true := by
  simp only [isPrintable, Bool.or_eq_true, Bool.and_eq_true, decide_eq_true_eq] at printable
  simp only [isAllowed, Bool.or_eq_true, Bool.and_eq_true, decide_eq_true_eq]
  tauto

theorem endsALine_eq : endsALine c = isLineBreak c := by
  have return_ : c ≠ '\r' := ne_of_isPrintable printable rfl
  have next : c ≠ '\u0085' := ne_of_isPrintable printable rfl
  simp [endsALine, return_, next]

theorem isWhiteSpace_eq : isWhiteSpace c = isSpaceOrBreak c := by
  have tab : c ≠ '\t' := ne_of_isPrintable printable rfl
  simp [isWhiteSpace, isSpaceOrBreak, isSpace, tab, endsALine_eq printable]

theorem isWhiteChar_eq : isWhiteChar c = isSpaceOrBreak c := by
  have tab : c ≠ '\t' := ne_of_isPrintable printable rfl
  simp [isWhiteChar, isSpaceOrBreak, isSpace, tab]

end Printable

/-- Characters that can be written and do not end the line. -/
def OnLine (text : List Char) : Prop := ∀ c ∈ text, isPrintable c = true ∧ endsALine c = false

instance (text : List Char) : Decidable (OnLine text) := List.decidableBAll _ text

theorem onLine_cons {c : Char} {text : List Char} :
    OnLine (c :: text) ↔ (isPrintable c = true ∧ endsALine c = false) ∧ OnLine text := List.forall_mem_cons

theorem onLine_append {text rest : List Char} : OnLine (text ++ rest) ↔ OnLine text ∧ OnLine rest :=
  List.forall_mem_append

theorem OnLine.any_isLineBreak {text : List Char} (onLine : OnLine text) : text.any isLineBreak = false :=
  List.any_eq_false.mpr fun c member => by
    rw [← endsALine_eq (onLine c member).1, (onLine c member).2]
    exact Bool.false_ne_true

theorem not_isLineBreak_of_isSpace {c : Char} (space : isSpace c = true) : isLineBreak c = false := by
  have same : c = ' ' := of_decide_eq_true space
  rw [same]
  rfl

theorem isWhiteSpace_of_isSpace {c : Char} (space : isSpace c = true) : isWhiteSpace c = true := by
  have same : c = ' ' := of_decide_eq_true space
  rw [same]
  rfl

theorem any_isLineBreak_spaces (n : Nat) : (spaces n).any isLineBreak = false := by
  simp [spaces, isLineBreak]

/-- Behind line breaks, so many spaces lead to that column. -/
theorem Spot.column_past_indent (s : Spot) {breaks : List Char} (nonempty : breaks ≠ [])
    (all : ∀ c ∈ breaks, isLineBreak c = true) (n : Nat) : (s.past (breaks ++ spaces n)).column = n := by
  rw [past_append, past_of_oneLine _ (any_isLineBreak_spaces n), s.column_past_breaks all nonempty, spaces,
    List.length_replicate, Nat.zero_add]

theorem Spot.column_past_line (s : Spot) (n : Nat) : (s.past ('\n' :: spaces n)).column = n :=
  s.column_past_indent (List.cons_ne_nil '\n' []) (List.forall_mem_singleton.mpr rfl) n

theorem hasAdjacent_eq_false {p q : Char → Bool} {text : List Char} :
    hasAdjacent p q text = false ↔ text.IsChain fun a b => ¬(p a = true ∧ q b = true) := by
  fun_induction hasAdjacent p q text with
  | case1 a b rest ih =>
    rw [Bool.or_eq_false_iff, ih, List.isChain_cons_cons, Bool.and_eq_false_iff]
    simp only [not_and_or, Bool.not_eq_true]
  | case2 text short =>
    rcases text with _ | ⟨a, _ | ⟨b, rest⟩⟩
    · simp
    · simp
    · exact absurd rfl (short a b rest)

theorem hasAdjacent_of_append {p q : Char → Bool} {text rest : List Char}
    (apart : hasAdjacent p q (text ++ rest) = false) : hasAdjacent p q text = false ∧ hasAdjacent p q rest = false := by
  simp only [hasAdjacent_eq_false] at apart ⊢
  exact ⟨apart.left_of_append, apart.right_of_append⟩

/-- In a run of spaces and line breaks that never meet, there are only spaces or only line breaks. -/
theorem spaces_or_breaks {run : List Char} (all : ∀ c ∈ run, isSpaceOrBreak c = true)
    (spaceBreak : hasAdjacent isSpace endsALine run = false) (breakSpace : hasAdjacent endsALine isSpace run = false) :
    (∀ c ∈ run, isSpace c = true) ∨ ∀ c ∈ run, endsALine c = true := by
  induction run with
  | nil => exact .inl nofun
  | cons c run ih =>
    obtain ⟨here, later⟩ := List.forall_mem_cons.mp all
    cases run with
    | nil =>
      rcases Bool.or_eq_true _ _ ▸ here with space | break_
      · exact .inl (List.forall_mem_singleton.mpr space)
      · exact .inr (List.forall_mem_singleton.mpr break_)
    | cons d run =>
      simp only [hasAdjacent, Bool.or_eq_false_iff, Bool.and_eq_false_iff] at spaceBreak breakSpace
      have next := ih later spaceBreak.2 breakSpace.2
      rcases Bool.or_eq_true _ _ ▸ here with space | break_
      · refine .inl (List.forall_mem_cons.mpr ⟨space, ?_⟩)
        refine next.resolve_right fun breaks => ?_
        have : endsALine d = true := breaks d List.mem_cons_self
        simp_all
      · refine .inr (List.forall_mem_cons.mpr ⟨break_, ?_⟩)
        refine next.resolve_left fun spaces => ?_
        have : isSpace d = true := spaces d List.mem_cons_self
        simp_all

theorem exists_leading (q : Char → Bool) (text : List Char) :
    ∃ run rest, run ++ rest = text ∧ (∀ c ∈ run, q c = true) ∧ rest.head?.any q = false := by
  refine ⟨text.takeWhile q, text.dropWhile q, List.takeWhile_append_dropWhile,
    fun c member => List.mem_takeWhile_imp member, ?_⟩
  have stop := List.head?_dropWhile_not q text
  rcases first : (text.dropWhile q).head? with _ | c
  · rfl
  · rw [first] at stop
    exact stop

/-- A text taken apart into characters of other kinds and whole runs of one kind. -/
theorem runs_induction {motive : List Char → Prop} (q : Char → Bool) (nil : motive [])
    (single : ∀ c text, q c = false → motive text → motive (c :: text))
    (run : ∀ front text, front ≠ [] → (∀ c ∈ front, q c = true) → text.head?.any q = false → motive text →
      motive (front ++ text)) (text : List Char) : motive text := by
  induction length : text.length using Nat.strongRecOn generalizing text with
  | ind n ih =>
    obtain ⟨front, rest, rfl, all, stops⟩ := exists_leading q text
    rcases front with _ | ⟨c, front⟩
    · rcases rest with _ | ⟨c, rest⟩
      · exact nil
      · exact single c rest stops (ih rest.length (by simp at length; omega) rest rfl)
    · exact run _ rest nofun all stops (ih rest.length (by simp at length; omega) rest rfl)

/-- Words with gaps of one kind of character between them, and maybe behind the last. -/
inductive Words (gaps : Char → Bool) : List Char → Prop
  | last {word gap} : word ≠ [] → (∀ c ∈ word, gaps c = false) → (∀ c ∈ gap, gaps c = true) → Words gaps (word ++ gap)
  | more {word gap text} : word ≠ [] → (∀ c ∈ word, gaps c = false) → gap ≠ [] → (∀ c ∈ gap, gaps c = true) →
      text ≠ [] → text.head?.any gaps = false → Words gaps text → Words gaps (word ++ (gap ++ text))

theorem words_of_starts {gaps : Char → Bool} {text : List Char} (nonempty : text ≠ [])
    (starts : text.head?.any gaps = false) : Words gaps text := by
  induction length : text.length using Nat.strongRecOn generalizing text with
  | ind n ih =>
    obtain ⟨word, back, rfl, letters, stops⟩ := exists_leading (fun c => !gaps c) text
    obtain ⟨gap, text, rfl, all, begins⟩ := exists_leading gaps back
    have dark : ∀ c ∈ word, gaps c = false := by simpa using letters
    have first : word ≠ [] := by
      rintro rfl
      rw [List.nil_append] at starts nonempty
      rcases front : (gap ++ text).head? with _ | c
      · exact nonempty (List.head?_eq_none_iff.mp front)
      · simp_all
    rcases text with _ | ⟨c, text⟩
    · rw [List.append_nil]
      exact .last first dark all
    · have between : gap ≠ [] := by
        rintro rfl
        simp_all
      refine .more first dark between all (List.cons_ne_nil c text) begins (ih _ ?_ (List.cons_ne_nil c text) begins rfl)
      have := List.length_pos_iff.mpr first
      simp at length ⊢
      omega

end Highlighter.Yaml
