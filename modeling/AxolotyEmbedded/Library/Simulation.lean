import AxolotyEmbedded.Library.Congruence
import AxolotyEmbedded.Library.Loop

/-!
Two computations that may raise, where the state of one is what a map makes of the state of
the other. One that simulates gives the same answers and raises the same errors, and leaves
what a map, the same or another one, makes of the state that the other leaves.
-/
namespace AxolotyEmbedded.Simulation

variable {ε σ τ α β : Type} {view before middle after : τ → σ}

def Simulates (before after : τ → σ) (m : StateT σ (Except ε) α) (n : StateT τ (Except ε) α) :
    Prop :=
  ∀ t, m (before t) = (n t).map (Prod.map id after)

theorem Simulates.pure (a : α) :
    Simulates view view (pure a : StateT σ (Except ε) α) (pure a) := fun _ => rfl

theorem Simulates.bind {m : StateT σ (Except ε) α} {n : StateT τ (Except ε) α}
    {f : α → StateT σ (Except ε) β} {g : α → StateT τ (Except ε) β}
    (first : Simulates before middle m n) (second : ∀ a, Simulates middle after (f a) (g a)) :
    Simulates before after (m >>= f) (n >>= g) := by
  intro t
  change (m (before t) >>= fun p => f p.1 p.2) =
    Except.map (Prod.map id after) (n t >>= fun p => g p.1 p.2)
  rw [first t]
  cases n t with
  | error error => rfl
  | ok p => exact second p.1 p.2

/-- A result that does not touch the state. -/
theorem Simulates.lift (result : Except ε α) :
    Simulates view view (liftM result : StateT σ (Except ε) α) (liftM result) := by
  intro t
  cases result with
  | error error => rfl
  | ok a => rfl

/-- A part of the state that the map leaves alone. -/
theorem Simulates.read {f : σ → α} {g : τ → α} (same : ∀ t, f (view t) = g t) :
    Simulates view view (do return f (← get) : StateT σ (Except ε) α) (do return g (← get)) := by
  intro t
  change Except.ok (f (view t), view t) = Except.ok (g t, view t)
  rw [same]

/-- A step that only one of them makes. -/
theorem Simulates.modify_left (middle : τ → σ) {f : σ → σ} {m : StateT σ (Except ε) α}
    {n : StateT τ (Except ε) α} (moves : ∀ t, f (before t) = middle t) (rest : Simulates middle after m n) :
    Simulates before after (do modify f; m) n := by
  intro t
  change m (f (before t)) = _
  rw [moves]
  exact rest t

/-- A part of the state that only one of them reads. -/
theorem Simulates.read_left (a : α) {f : σ → α} {m : α → StateT σ (Except ε) β}
    {n : StateT τ (Except ε) β} (same : ∀ t, f (before t) = a)
    (rest : Simulates before after (m a) n) :
    Simulates before after ((do return f (← get)) >>= m) n := by
  intro t
  change m (f (before t)) (before t) = _
  rw [same]
  exact rest t

theorem Simulates.modify {f : σ → σ} {g : τ → τ} (same : ∀ t, f (before t) = after (g t)) :
    Simulates before after (modify f : StateT σ (Except ε) PUnit) (modify g) := by
  intro t
  change Except.ok (PUnit.unit, f (before t)) = Except.ok (PUnit.unit, after (g t))
  rw [same]

theorem simulates_congruent (view : τ → σ) :
    Congruence.Congruent fun α (m : StateT σ (Except ε) α) (n : StateT τ (Except ε) α) =>
      Simulates view view m n where
  lift := Simulates.lift
  bind := Simulates.bind

/-- Loops whose passes simulate each other. -/
theorem run_map {body : σ → Option (Except ε σ)} {other : τ → Option (Except ε τ)}
    (passes : ∀ t, body (view t) = (other t).map (Except.map view)) (fuel : Nat) (t : τ) :
    Loop.run body fuel (view t) = (Loop.run other fuel t).map (Except.map view) := by
  induction fuel generalizing t with
  | zero => rfl
  | succ fuel ih =>
      have pass := passes t
      cases turn : other t with
      | none =>
          rw [turn] at pass
          rw [Loop.run_of_none pass, Loop.run_of_none turn]
          rfl
      | some result =>
          rw [turn] at pass
          cases result with
          | error error =>
              rw [Loop.run_of_error pass, Loop.run_of_error turn]
              rfl
          | ok next =>
              rw [Loop.run_of_ok pass, Loop.run_of_ok turn]
              exact ih next

end AxolotyEmbedded.Simulation
