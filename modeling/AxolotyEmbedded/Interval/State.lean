import AxolotyEmbedded.FirstInit.LinkedInputs
import AxolotyEmbedded.Interval.Value
import AxolotyEmbedded.Library.Dict

/-!
The abstract states of the interval engine and `State.merge`, which is an upper bound in
the order of what a state leaves open.
-/
namespace AxolotyEmbedded.Interval

open PythonText

/-- What the engine raises. The texts that would print values keep the values. -/
inductive Failure where
  | unclosed (text : Str)
  | inconsistentSp (here other : Value) (edge : Option (Int × Int))
  | unknownTransfer (pc : Int) (text : Str) (r5 r6 r12 r13 : Value)
  | program (raised : FirstInit.Raised)
  | keyError (key : Int)
  | valueError
  | overflowError
  | indexError
  | typeError
  | stopIteration
  | recursionError

/-- `f"{value:#x}"`. -/
def hexInt (value : Int) : Str :=
  if value < 0 then "-0x".toList ++ hexText value.natAbs else "0x".toList ++ hexText value.natAbs

/-- `Unclosed` of a text that ends with an address. -/
def Failure.closedAt (text : String) (pc : Int) : Failure := .unclosed (text.toList ++ hexInt pc)

instance registersNonempty : NeZero 32 := ⟨by decide⟩

abbrev Regs := Fin 32 → Value

/-- Values by address and width. -/
abbrev Memory := Dict (Int × Nat) Value

structure State where
  regs : Regs
  memory : Memory
  phase : Nat

namespace State

/-- Of two states at one place. -/
def merge (state other : State) : Except Failure State :=
  if state.regs 2 ≠ other.regs 2 then
    .error (.inconsistentSp (state.regs 2) (other.regs 2) none)
  else
    .ok {
      regs := fun r => union (state.regs r) (other.regs r)
      memory := Dict.meet union state.memory other.memory
      phase := state.phase }

/-- `==`. -/
def Same (state other : State) : Prop :=
  state.regs = other.regs ∧ state.memory.SameItems other.memory ∧ state.phase = other.phase

instance decidableSame (state other : State) : Decidable (state.Same other) :=
  inferInstanceAs (Decidable (_ ∧ _))

end State

/-! ## The order -/

/-- A superset, or `TOP`. -/
def Within (value larger : Value) : Prop :=
  ∀ members, larger = some members → ∃ fewer, value = some fewer ∧ fewer ⊆ members

namespace Within

variable {a b c : Value}

theorem refl (a : Value) : Within a a := fun members same => ⟨members, same, Finset.Subset.refl _⟩

theorem trans (first : Within a b) (second : Within b c) : Within a c := by
  intro members same
  obtain ⟨middle, held, inside⟩ := second members same
  obtain ⟨fewer, own, within⟩ := first middle held
  exact ⟨fewer, own, within.trans inside⟩

theorem union_left (a b : Value) : Within a (union a b) := by
  intro members same
  match a, b with
  | none, _ => cases same
  | some a, none => cases same
  | some a, some b =>
      simp only [union] at same
      split at same
      · cases same
        exact ⟨a, rfl, Finset.subset_union_left⟩
      · cases same

theorem union_right (a b : Value) : Within b (union a b) := by
  intro members same
  match a, b with
  | none, _ => cases same
  | some a, none => cases same
  | some a, some b =>
      simp only [union] at same
      split at same
      · cases same
        exact ⟨b, rfl, Finset.subset_union_right⟩
      · cases same

end Within

theorem union_self (a : Value) : union a a = a ∨ union a a = none := by
  cases a with
  | none => exact .inl rfl
  | some members =>
      rw [union, Finset.union_self]
      split
      · exact .inl rfl
      · exact .inr rfl

/-- The larger state has supersets in its registers and in the memory facts that it has,
all of them facts of the smaller one. -/
structure State.Below (state larger : State) : Prop where
  regs : ∀ r, Within (state.regs r) (larger.regs r)
  memory : ∀ key value, larger.memory.get? key = some value →
    ∃ own, state.memory.get? key = some own ∧ Within own value

namespace State

variable {a b c : State}

theorem Below.refl (a : State) : a.Below a :=
  ⟨fun _ => Within.refl _, fun _ value held => ⟨value, held, Within.refl _⟩⟩

theorem Below.trans (first : a.Below b) (second : b.Below c) : a.Below c := by
  constructor
  · intro r
    exact (first.regs r).trans (second.regs r)
  · intro key value held
    obtain ⟨middle, inside, within⟩ := second.memory key value held
    obtain ⟨own, here, narrower⟩ := first.memory key middle inside
    exact ⟨own, here, narrower.trans within⟩

theorem Same.below (same : a.Same b) : a.Below b := by
  constructor
  · intro r
    rw [same.1]
    exact Within.refl _
  · intro key value held
    rw [← same.2.1.get?_eq] at held
    exact ⟨value, held, Within.refl _⟩

theorem merge_eq_ok {merged : State} (joined : a.merge b = .ok merged) :
    a.regs 2 = b.regs 2 ∧ merged.regs = (fun r => union (a.regs r) (b.regs r)) ∧
      merged.memory = Dict.meet union a.memory b.memory := by
  rw [merge] at joined
  split at joined
  · cases joined
  · next same =>
      cases joined
      exact ⟨not_not.mp same, rfl, rfl⟩

/-- A merged state is above both. -/
theorem below_merge {merged : State} (joined : a.merge b = .ok merged) :
    a.Below merged ∧ b.Below merged := by
  obtain ⟨_, regs, memory⟩ := merge_eq_ok joined
  have facts (key : Int × Nat) (value : Value) (held : merged.memory.get? key = some value) :
      ∃ first second, a.memory.get? key = some first ∧ b.memory.get? key = some second ∧
        union first second = value := by
    rw [memory, Dict.get?_meet] at held
    simpa [Option.bind_eq_some_iff] using held
  constructor
  · constructor
    · intro r
      rw [regs]
      exact Within.union_left _ _
    · intro key value held
      obtain ⟨first, second, own, _, rfl⟩ := facts key value held
      exact ⟨first, own, Within.union_left _ _⟩
  · constructor
    · intro r
      rw [regs]
      exact Within.union_right _ _
    · intro key value held
      obtain ⟨first, second, _, own, rfl⟩ := facts key value held
      exact ⟨second, own, Within.union_right _ _⟩

/-- The stack pointer of a merged state is that of both, or too large a set. -/
theorem merge_sp {merged : State} (joined : a.merge b = .ok merged) :
    merged.regs 2 = a.regs 2 ∨ merged.regs 2 = none := by
  obtain ⟨same, regs, _⟩ := merge_eq_ok joined
  rw [regs]
  change union (a.regs 2) (b.regs 2) = _ ∨ union (a.regs 2) (b.regs 2) = _
  rw [← same]
  exact union_self _

end State
end AxolotyEmbedded.Interval
