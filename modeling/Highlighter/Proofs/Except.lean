import Mathlib.Data.List.Forall2

namespace Highlighter

variable {β γ ε : Type}

theorem ok_bind (x : β) (f : β → Except ε γ) : Except.ok x >>= f = f x := rfl

theorem eq_ok_of_toOption {x : Except ε β} {y : β} (some_ : x.toOption = some y) : x = .ok y := by
  cases x with
  | error _ => cases some_
  | ok _ => exact congrArg Except.ok (Option.some.inj some_)

theorem bind_eq_ok {x : Except ε β} {f : β → Except ε γ} {z : γ} (run : x >>= f = .ok z) :
    ∃ y, x = .ok y ∧ f y = .ok z := by
  cases x with
  | error fault => cases run
  | ok y => exact ⟨y, rfl, run⟩

theorem forall₂_of_mapM {f : β → Except ε γ} {xs : List β} {ys : List γ} (run : xs.mapM f = .ok ys) :
    List.Forall₂ (fun x y => f x = .ok y) xs ys := by
  induction xs generalizing ys with
  | nil =>
    cases run
    exact .nil
  | cons x xs ih =>
    rw [List.mapM_cons] at run
    obtain ⟨y, head, run⟩ := bind_eq_ok run
    obtain ⟨rest, tail, run⟩ := bind_eq_ok run
    cases run
    exact .cons head (ih tail)

theorem mapM_of_forall₂ {f : β → Except ε γ} {xs : List β} {ys : List γ}
    (each : List.Forall₂ (fun x y => f x = .ok y) xs ys) : xs.mapM f = .ok ys := by
  induction each with
  | nil => rfl
  | cons head _ ih => rw [List.mapM_cons, head, ok_bind, ih, ok_bind]; rfl

theorem mapM_total {f : β → Except ε γ} {xs : List β} (total : ∀ x ∈ xs, ∃ y, f x = .ok y) :
    ∃ ys, xs.mapM f = .ok ys := by
  induction xs with
  | nil => exact ⟨[], rfl⟩
  | cons x xs ih =>
    obtain ⟨y, head⟩ := total x (List.mem_cons_self ..)
    obtain ⟨ys, tail⟩ := ih fun x member => total x (List.mem_cons_of_mem _ member)
    exact ⟨y :: ys, by rw [List.mapM_cons, head, ok_bind, tail, ok_bind]; rfl⟩

/-- What is made of each item is taken back item by item. -/
theorem mapM_map_of_inverse {m : Type → Type} [Monad m] [LawfulMonad m] {f : β → γ} {g : γ → m β}
    (inverse : ∀ x, g (f x) = pure x) (xs : List β) : (xs.map f).mapM g = pure xs := by
  induction xs with
  | nil => rfl
  | cons x xs ih => simp [inverse, ih]

end Highlighter
