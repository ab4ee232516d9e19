import Mathlib.Logic.Basic

/-!
Relations of two computations on states that may raise which are kept where both are built
the same way of smaller ones. What holds of such a relation for the parts of a program holds
of it for the program.
-/
namespace AxolotyEmbedded.Congruence

variable {ε σ τ α β : Type}

structure Congruent
    (Rel : ∀ α : Type, StateT σ (Except ε) α → StateT τ (Except ε) α → Prop) : Prop where
  lift {α : Type} (result : Except ε α) : Rel α (liftM result) (liftM result)
  bind {α β : Type} {m : StateT σ (Except ε) α} {n : StateT τ (Except ε) α}
    {f : α → StateT σ (Except ε) β} {g : α → StateT τ (Except ε) β} (first : Rel α m n)
    (second : ∀ a, Rel β (f a) (g a)) : Rel β (m >>= f) (n >>= g)

namespace Congruent

variable {Rel : ∀ α : Type, StateT σ (Except ε) α → StateT τ (Except ε) α → Prop}
  (congruent : Congruent Rel)

include congruent

theorem pure (a : α) : Rel α (pure a) (pure a) := congruent.lift (.ok a)

omit congruent in
theorem ite {c : Prop} [Decidable c] {m m' : StateT σ (Except ε) α} {n n' : StateT τ (Except ε) α}
    (first : Rel α m n) (second : Rel α m' n') :
    Rel α (if c then m else m') (if c then n else n') := by
  split
  · exact first
  · exact second

theorem foldlM {step : β → α → StateT σ (Except ε) β} {step' : β → α → StateT τ (Except ε) β}
    (steps : ∀ b a, Rel β (step b a) (step' b a)) (list : List α) (b : β) :
    Rel β (list.foldlM step b) (list.foldlM step' b) := by
  induction list generalizing b with
  | nil => exact congruent.pure b
  | cons a rest ih => exact congruent.bind (steps b a) ih

end Congruent
end AxolotyEmbedded.Congruence
