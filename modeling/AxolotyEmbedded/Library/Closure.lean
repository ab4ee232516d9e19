import Mathlib.Data.List.Basic

/-!
The least set of candidates that holds some seeds and every candidate near a chosen
element, by passes that add all new candidates at once until a pass adds none.
-/
namespace AxolotyEmbedded.Closure

variable {α : Type} [DecidableEq α]

/-- Chosen: a seed, or a candidate near something chosen. -/
inductive Reached (near : α → α → Bool) (candidates seeds : List α) : α → Prop
  | seed {a : α} (member : a ∈ seeds) : Reached near candidates seeds a
  | next {a chosen : α} (reached : Reached near candidates seeds chosen)
      (member : a ∈ candidates) (touches : near a chosen = true) :
      Reached near candidates seeds a

/-- The candidates one pass adds: those near what was chosen before the pass. -/
def fresh (near : α → α → Bool) (candidates chosen : List α) : List α :=
  candidates.filter fun a => decide (a ∉ chosen) && chosen.any (near a)

def close (near : α → α → Bool) (candidates : List α) : Nat → List α → List α
  | 0, chosen => chosen
  | fuel + 1, chosen =>
      match fresh near candidates chosen with
      | [] => chosen
      | added => close near candidates fuel (chosen ++ added)

variable {near : α → α → Bool} {candidates seeds chosen : List α} {a : α} {fuel : Nat}

omit [DecidableEq α] in
theorem Reached.mem (reached : Reached near candidates seeds a) :
    a ∈ seeds ∨ a ∈ candidates := by
  cases reached with
  | seed member => exact .inl member
  | next _ member _ => exact .inr member

omit [DecidableEq α] in
theorem not_reached_nil : ¬Reached near candidates [] a := by
  intro reached
  induction reached with
  | seed member => cases member
  | next _ _ _ ih => exact ih

theorem mem_fresh :
    a ∈ fresh near candidates chosen ↔
      a ∈ candidates ∧ a ∉ chosen ∧ ∃ other ∈ chosen, near a other = true := by
  simp [fresh]

theorem close_of_fresh_nil (done : fresh near candidates chosen = []) :
    close near candidates (fuel + 1) chosen = chosen := by
  rw [close, done]

theorem close_of_fresh_ne_nil (more : fresh near candidates chosen ≠ []) :
    close near candidates (fuel + 1) chosen =
      close near candidates fuel (chosen ++ fresh near candidates chosen) := by
  rw [close]
  split
  · next done => exact absurd done more
  · rfl

/-- Passes add reached elements only. -/
theorem reached_of_mem_close (sound : ∀ a ∈ chosen, Reached near candidates seeds a)
    (member : a ∈ close near candidates fuel chosen) : Reached near candidates seeds a := by
  induction fuel generalizing chosen with
  | zero => exact sound a member
  | succ fuel ih =>
      by_cases done : fresh near candidates chosen = []
      · rw [close_of_fresh_nil done] at member
        exact sound a member
      · rw [close_of_fresh_ne_nil done] at member
        apply ih _ member
        intro b added
        obtain held | added := List.mem_append.mp added
        · exact sound b held
        · obtain ⟨candidate, _, other, held, touches⟩ := mem_fresh.mp added
          exact .next (sound other held) candidate touches

theorem mem_close_of_mem (member : a ∈ chosen) : a ∈ close near candidates fuel chosen := by
  induction fuel generalizing chosen with
  | zero => exact member
  | succ fuel ih =>
      by_cases done : fresh near candidates chosen = []
      · rw [close_of_fresh_nil done]
        exact member
      · rw [close_of_fresh_ne_nil done]
        exact ih (List.mem_append_left _ member)

/-- The candidates not chosen yet, whose number bounds the passes that add something. -/
def left (candidates chosen : List α) : List α :=
  candidates.filter fun a => decide (a ∉ chosen)

theorem left_decreases (more : fresh near candidates chosen ≠ []) :
    (left candidates (chosen ++ fresh near candidates chosen)).length <
      (left candidates chosen).length := by
  obtain ⟨a, added⟩ := List.exists_mem_of_ne_nil _ more
  obtain ⟨candidate, new, _⟩ := mem_fresh.mp added
  have kept : left candidates (chosen ++ fresh near candidates chosen) =
      (left candidates chosen).filter fun b =>
        decide (b ∉ fresh near candidates chosen) := by
    simp only [left, List.filter_filter, List.mem_append, not_or, Bool.decide_and, Bool.and_comm]
  rw [kept, List.length_filter_lt_length_iff_exists]
  exact ⟨a, by simp [left, candidate, new], by simpa using added⟩

/-- With as many passes as candidates are left, what a last pass would add is chosen. -/
theorem fresh_close (enough : (left candidates chosen).length ≤ fuel) :
    fresh near candidates (close near candidates fuel chosen) = [] := by
  induction fuel generalizing chosen with
  | zero =>
      rw [Nat.le_zero, List.length_eq_zero_iff] at enough
      rw [close, List.eq_nil_iff_forall_not_mem]
      intro a added
      obtain ⟨candidate, new, _⟩ := mem_fresh.mp added
      have none : a ∉ left candidates chosen := by simp [enough]
      exact none (by simp [left, candidate, new])
  | succ fuel ih =>
      by_cases done : fresh near candidates chosen = []
      · rw [close_of_fresh_nil done]
        exact done
      · rw [close_of_fresh_ne_nil done]
        apply ih
        have fewer := left_decreases done
        omega

/-- What the passes choose is the least set that holds the seeds and is closed. -/
theorem mem_close (enough : candidates.length ≤ fuel) :
    a ∈ close near candidates fuel seeds ↔ Reached near candidates seeds a := by
  constructor
  · exact reached_of_mem_close fun _ member => .seed member
  · intro reached
    have bounded : (left candidates seeds).length ≤ fuel :=
      Nat.le_trans (List.length_filter_le ..) enough
    have closed : fresh near candidates (close near candidates fuel seeds) = [] :=
      fresh_close bounded
    induction reached with
    | seed member => exact mem_close_of_mem member
    | next _ member touches ih =>
        rename_i b other _
        by_contra new
        have added : b ∈ fresh near candidates (close near candidates fuel seeds) :=
          mem_fresh.mpr ⟨member, new, other, ih, touches⟩
        rw [closed] at added
        cases added

end AxolotyEmbedded.Closure
