import Mathlib.Order.Defs.PartialOrder
import AxolotyEmbedded.Library.Congruence

/-!
Computations on a state that only grows and that may raise. One that replays gives the
answer that it gave once in every later state too, as a lookup in a cache does.
-/
namespace AxolotyEmbedded.Replay

variable {σ ε α β : Type}

theorem bind_run_eq_ok {m : StateT σ (Except ε) α} {f : α → StateT σ (Except ε) β} {s t : σ} {b : β} :
    (m >>= f) s = .ok (b, t) ↔ ∃ a u, m s = .ok (a, u) ∧ f a u = .ok (b, t) := by
  change (m s >>= fun p => f p.1 p.2) = .ok (b, t) ↔ _
  cases m s with
  | error error => simp [bind, Except.bind]
  | ok p =>
      constructor
      · intro done
        exact ⟨p.1, p.2, rfl, done⟩
      · intro found
        obtain ⟨a, u, same, done⟩ := found
        cases same
        exact done

theorem pure_run_eq_ok {a b : α} {s t : σ} :
    (pure a : StateT σ (Except ε) α) s = .ok (b, t) ↔ a = b ∧ s = t := by
  change (Except.ok (a, s) : Except ε (α × σ)) = _ ↔ _
  simp

theorem lift_run_eq_ok {result : Except ε α} {s t : σ} {a : α} :
    (liftM result : StateT σ (Except ε) α) s = .ok (a, t) ↔ result = .ok a ∧ s = t := by
  cases result with
  | error error =>
      apply iff_of_false
      · exact fun done => nomatch done
      · exact fun done => nomatch done.1
  | ok b =>
      change (Except.ok (b, s) : Except ε (α × σ)) = _ ↔ _
      simp

variable [Preorder σ]

/-- The state grows, and from every later state on the answer is the same. -/
def Replays (m : StateT σ (Except ε) α) : Prop :=
  ∀ s a t, m s = .ok (a, t) → s ≤ t ∧ ∀ u, t ≤ u → ∃ v, m u = .ok (a, v) ∧ u ≤ v

theorem Replays.pure (a : α) : Replays (pure a : StateT σ (Except ε) α) := by
  intro s b t done
  obtain ⟨rfl, rfl⟩ := pure_run_eq_ok.mp done
  exact ⟨le_refl s, fun u _ => ⟨u, rfl, le_refl u⟩⟩

theorem Replays.bind {m : StateT σ (Except ε) α} {f : α → StateT σ (Except ε) β}
    (first : Replays m) (second : ∀ a, Replays (f a)) : Replays (m >>= f) := by
  intro s b t done
  obtain ⟨a, u, here, there⟩ := bind_run_eq_ok.mp done
  obtain ⟨grown, again⟩ := first s a u here
  obtain ⟨grown', again'⟩ := second a u b t there
  refine ⟨le_trans grown grown', fun later after => ?_⟩
  obtain ⟨middle, answer, above⟩ := again later (le_trans grown' after)
  obtain ⟨last, answer', above'⟩ := again' middle (le_trans after above)
  exact ⟨last, bind_run_eq_ok.mpr ⟨a, middle, answer, answer'⟩, le_trans above above'⟩

/-- A result that does not touch the state. -/
theorem Replays.lift (result : Except ε α) :
    Replays (liftM result : StateT σ (Except ε) α) := by
  intro s a t done
  cases result with
  | error error => cases done
  | ok b =>
      cases done
      exact ⟨le_refl s, fun u _ => ⟨u, rfl, le_refl u⟩⟩

/-- A part of the state that does not change when it grows. -/
theorem Replays.read {f : σ → α} (constant : ∀ s t, s ≤ t → f s = f t) :
    Replays (do return f (← get) : StateT σ (Except ε) α) := by
  intro s a t done
  cases done
  exact ⟨le_refl s, fun u later => ⟨u, by rw [constant s u later]; rfl, le_refl u⟩⟩

/-- A note that only adds to the state. -/
theorem Replays.modify {f : σ → σ} (grows : ∀ s, s ≤ f s) :
    Replays (modify f : StateT σ (Except ε) PUnit) := by
  intro s a t done
  cases done
  exact ⟨grows s, fun u _ => ⟨f u, rfl, grows u⟩⟩

theorem replays_congruent :
    Congruence.Congruent fun α (m : StateT σ (Except ε) α) (_ : StateT σ (Except ε) α) => Replays m where
  lift := Replays.lift
  bind := Replays.bind

end AxolotyEmbedded.Replay
