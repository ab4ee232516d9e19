import Mathlib.Data.List.Basic

/-!
A `while` loop whose passes may raise, over the fuel that bounds their number, and the
weight of a stack from which a pass takes one item and puts a few deeper ones back.
-/
namespace AxolotyEmbedded.Loop

variable {ε σ α : Type}

/-- `body` is one pass, none where the loop is left. -/
def run (body : σ → Option (Except ε σ)) : Nat → σ → Option (Except ε σ)
  | 0, _ => none
  | fuel + 1, state =>
      match body state with
      | none => some (.ok state)
      | some (.error error) => some (.error error)
      | some (.ok next) => run body fuel next

variable {body : σ → Option (Except ε σ)} {Inv : σ → Prop} {state last : σ} {fuel : Nat}

theorem run_of_none (left : body state = none) : run body (fuel + 1) state = some (.ok state) := by
  rw [run, left]

theorem run_of_error {error : ε} (raised : body state = some (.error error)) :
    run body (fuel + 1) state = some (.error error) := by
  rw [run, raised]

theorem run_of_ok {next : σ} (passed : body state = some (.ok next)) :
    run body (fuel + 1) state = run body fuel next := by
  rw [run, passed]

/-- What every pass keeps holds where the loop is left. -/
theorem run_invariant (kept : ∀ s t, Inv s → body s = some (.ok t) → Inv t) (start : Inv state)
    (ended : run body fuel state = some (.ok last)) : Inv last ∧ body last = none := by
  induction fuel generalizing state with
  | zero => cases ended
  | succ fuel ih =>
      cases pass : body state with
      | none =>
          rw [run_of_none pass] at ended
          obtain rfl := Except.ok.inj (Option.some.inj ended)
          exact ⟨start, pass⟩
      | some result =>
          cases result with
          | error error =>
              rw [run_of_error pass] at ended
              cases ended
          | ok next =>
              rw [run_of_ok pass] at ended
              exact ih (kept state next start pass) ended

/-- A loop each of whose passes lowers a measure is left or raises. -/
theorem exists_run (measure : σ → Nat) (kept : ∀ s t, Inv s → body s = some (.ok t) → Inv t)
    (lower : ∀ s t, Inv s → body s = some (.ok t) → measure t < measure s) (start : Inv state) :
    ∃ fuel result, run body fuel state = some result := by
  induction bound : measure state using Nat.strongRecOn generalizing state with
  | ind size ih =>
      cases pass : body state with
      | none => exact ⟨1, _, run_of_none pass⟩
      | some result =>
          cases result with
          | error error => exact ⟨1, _, run_of_error pass⟩
          | ok next =>
              obtain ⟨fuel, result, ended⟩ := ih (measure next)
                (bound ▸ lower state next start pass) (kept state next start pass) rfl
              exact ⟨fuel + 1, result, (run_of_ok pass).trans ended⟩

/-- The states that passes lead to. -/
inductive Reaches (body : σ → Option (Except ε σ)) : σ → σ → Prop where
  | here {state : σ} : Reaches body state state
  | pass {state next last : σ} (passed : body state = some (.ok next))
      (later : Reaches body next last) : Reaches body state last

theorem Reaches.invariant (reaches : Reaches body state last)
    (kept : ∀ s t, Inv s → body s = some (.ok t) → Inv t) (start : Inv state) : Inv last := by
  induction reaches with
  | here => exact start
  | pass passed _ ih => exact ih (kept _ _ start passed)

/-- A loop raises what a pass from a state that it comes to raises. -/
theorem run_eq_error {error : ε} :
    (∃ fuel, run body fuel state = some (.error error)) ↔
      ∃ last, Reaches body state last ∧ body last = some (.error error) := by
  constructor
  · rintro ⟨fuel, ended⟩
    induction fuel generalizing state with
    | zero => cases ended
    | succ fuel ih =>
        cases pass : body state with
        | none =>
            rw [run_of_none pass] at ended
            cases ended
        | some result =>
            cases result with
            | error other =>
                rw [run_of_error pass] at ended
                exact ⟨state, .here, by rw [pass, Option.some.inj ended]⟩
            | ok next =>
                rw [run_of_ok pass] at ended
                obtain ⟨last, reaches, raised⟩ := ih ended
                exact ⟨last, .pass pass reaches, raised⟩
  · rintro ⟨last, reaches, raised⟩
    induction reaches with
    | here => exact ⟨1, run_of_error raised⟩
    | pass passed _ ih =>
        obtain ⟨fuel, ended⟩ := ih raised
        exact ⟨fuel + 1, (run_of_ok passed).trans ended⟩

/-! ## Stacks of bounded depth -/

/-- An item weighs more than two deeper ones. -/
def weight (depth : α → Nat) (bound : Nat) : List α → Nat
  | [] => 0
  | a :: rest => Nat.pow 3 (bound - depth a) + weight depth bound rest

variable {depth : α → Nat} {bound : Nat}

theorem weight_append (first second : List α) :
    weight depth bound (first ++ second) = weight depth bound first + weight depth bound second := by
  induction first with
  | nil => exact (Nat.zero_add _).symm
  | cons a rest ih => rw [List.cons_append, weight, weight, ih, Nat.add_assoc]

/-- At most two items, each one level deeper, weigh less than the item they replace. -/
theorem weight_lt {a : α} {added : List α} (few : added.length ≤ 2) (room : depth a < bound)
    (deeper : ∀ b ∈ added, depth b = depth a + 1) :
    weight depth bound added < Nat.pow 3 (bound - depth a) := by
  have level : ∀ b ∈ added, Nat.pow 3 (bound - depth b) = Nat.pow 3 (bound - depth a - 1) :=
    fun b held => by rw [deeper b held, Nat.sub_sub]
  have triple : Nat.pow 3 (bound - depth a) = Nat.pow 3 (bound - depth a - 1) * 3 := by
    conv_lhs => rw [show bound - depth a = bound - depth a - 1 + 1 by omega]
    rfl
  have positive : 0 < Nat.pow 3 (bound - depth a - 1) := Nat.pow_pos (by decide)
  match added with
  | [] => simp only [weight]; omega
  | [b] =>
      have := level b (by simp)
      simp only [weight]
      omega
  | [b, c] =>
      have := level b (by simp)
      have := level c (by simp)
      simp only [weight]
      omega
  | b :: c :: d :: rest =>
      simp only [List.length_cons] at few
      omega

end AxolotyEmbedded.Loop
