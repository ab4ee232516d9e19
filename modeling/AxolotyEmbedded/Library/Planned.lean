import AxolotyEmbedded.Library.Checked

/-!
A loop that may raise, whose turns are planned one by one: what a turn adds to the state is
decided by its member alone, and it passes where that is new to the state. The loop passes
where all members have a plan and each plan is new after the earlier ones.
-/
namespace AxolotyEmbedded.Planned

open Checked

variable {ε σ α ρ : Type}

/-- Each plan is new to the state that the earlier ones lead to. -/
def AllNew (add : σ → ρ → σ) (New : σ → ρ → Prop) : σ → List ρ → Prop
  | _, [] => True
  | state, plan :: plans => New state plan ∧ AllNew add New (add state plan) plans

variable {step : σ → α → Except ε σ} {plan : α → Option ρ} {add : σ → ρ → σ} {Clean : σ → Prop}
  {New : σ → ρ → Prop} {state last : σ} {list : List α}

/-- A loop that ends clean has added the plans of its members in order. -/
theorem foldlM_eq_ok
    (turn : ∀ s a t, Clean t →
      (step s a = .ok t ↔ Clean s ∧ ∃ r, plan a = some r ∧ New s r ∧ t = add s r))
    (kept : ∀ s r, Clean s → Clean (add s r)) (clean : Clean last) :
    list.foldlM step state = .ok last ↔
      Clean state ∧ (∀ a ∈ list, (plan a).isSome) ∧ AllNew add New state (list.filterMap plan) ∧
        last = (list.filterMap plan).foldl add state := by
  induction list generalizing state with
  | nil =>
      constructor
      · intro ended
        cases ended
        exact ⟨clean, fun _ member => absurd member List.not_mem_nil, trivial, rfl⟩
      · intro ended
        obtain ⟨_, _, _, rfl⟩ := ended
        rfl
  | cons a rest ih =>
      rw [List.foldlM_cons, bind_eq_ok]
      constructor
      · intro ended
        obtain ⟨middle, turned, ended⟩ := ended
        obtain ⟨cleanly, planned, new, rfl⟩ := ih.mp ended
        obtain ⟨start, r, found, here, rfl⟩ := (turn state a middle cleanly).mp turned
        rw [List.filterMap_cons_some found]
        refine ⟨start, ?_, ⟨here, new⟩, rfl⟩
        intro other member
        cases member with
        | head => rw [found]; rfl
        | tail _ member => exact planned other member
      · intro ended
        obtain ⟨start, planned, new, same⟩ := ended
        obtain ⟨r, found⟩ := Option.isSome_iff_exists.mp (planned a List.mem_cons_self)
        rw [List.filterMap_cons_some found] at new same
        have cleanly := kept state r start
        refine ⟨add state r, (turn state a _ cleanly).mpr ⟨start, r, found, new.1, rfl⟩, ?_⟩
        exact ih.mpr ⟨cleanly, fun other member => planned other (List.mem_cons_of_mem _ member),
          new.2, same⟩

end AxolotyEmbedded.Planned
