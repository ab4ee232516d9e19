import AxolotyEmbedded.Interval.Edges
import AxolotyEmbedded.Interval.Instructions

/-!
The rules by which the analysis computes with values, and the inputs on which each is
right: what a register write makes of its operands, the union of values, and what a branch
leaves on an edge.
-/
namespace AxolotyEmbedded.Interval

open PythonText

inductive Rule where
  | transfer (t : Transfer)
  | union (a b : Value)
  | zeroBranch (m : Str) (following target destination : Int) (value : Value)
  | pairBranch (m : Str) (following target destination : Int) (left right : Value)

/-- The words of the execution stay among those that the values stand for. -/
def Rule.Sound : Rule → Prop
  | .transfer t => t.Sound
  | .union a b =>
      ∀ (reading : Reading) u, reading.Stands a u ∨ reading.Stands b u →
        reading.Stands (Interval.union a b) u
  | .zeroBranch m following target destination value =>
      ZeroSound m following target destination value
  | .pairBranch m following target destination left right =>
      PairSound m following target destination left right

def Rule.Harmless : Rule → Prop
  | .transfer t => t.Harmless
  | .union _ _ => True
  | .zeroBranch m following target destination value =>
      ZeroHarmless m following target destination value
  | .pairBranch m following target destination left right =>
      PairHarmless m following target destination left right

/-- Register writes whose operands have one member each, and all other rules. -/
def Rule.Single : Rule → Prop
  | .transfer t => t.Single
  | .union .. | .zeroBranch .. | .pairBranch .. => True

theorem stands_union {reading : Reading} {a b : Value} {u : Word}
    (stands : reading.Stands a u ∨ reading.Stands b u) :
    reading.Stands (Interval.union a b) u := by
  match a, b with
  | none, _ => exact stands_none
  | some a, none => exact stands_none
  | some a, some b =>
      rw [Interval.union]
      split
      · rw [stands_some] at stands ⊢
        cases stands with
        | inl first =>
            obtain ⟨x, member, word⟩ := first
            exact ⟨x, Finset.mem_union_left b member, word⟩
        | inr second =>
            rw [stands_some] at second
            obtain ⟨x, member, word⟩ := second
            exact ⟨x, Finset.mem_union_right a member, word⟩
      · exact stands_none

/-- The rules are right on harmless inputs, and on no others unless members of an operand
cover for one another. -/
theorem sound_iff_harmless (rule : Rule) :
    (rule.Harmless → rule.Sound) ∧ (rule.Single → rule.Sound → rule.Harmless) := by
  cases rule with
  | transfer t => exact ⟨Transfer.sound, Transfer.harmless_of_sound⟩
  | union a b =>
      constructor
      · intro _ reading u stands
        exact stands_union stands
      · exact fun _ _ => trivial
  | zeroBranch m following target destination value =>
      constructor
      · exact zeroSound_iff_harmless.mpr
      · exact fun _ => zeroSound_iff_harmless.mp
  | pairBranch m following target destination left right =>
      constructor
      · exact pairSound_iff_harmless.mpr
      · exact fun _ => pairSound_iff_harmless.mp

/-- A branch to the address that follows drops the states that it is not taken in. -/
theorem not_every_rule_sound : ¬∀ rule : Rule, rule.Sound := by
  intro every
  have here := every (.zeroBranch "c.beqz".toList 4098 4098 4098 (const 5))
  obtain ⟨_, same, _⟩ := here ⟨0, fun _ => 0⟩ 5#32 false
    (stands_some.mpr ⟨5, Finset.mem_singleton_self 5, by decide⟩) (by decide) (by decide)
  have dropped : refineZero "c.beqz".toList (4098 == (4098 : Int)) (const 5) = none := by decide
  rw [dropped] at same
  cases same

end AxolotyEmbedded.Interval
