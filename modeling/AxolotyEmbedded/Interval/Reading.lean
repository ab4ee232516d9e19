import Mathlib.Data.Int.ModEq
import AxolotyEmbedded.Interval.Value
import AxolotyEmbedded.Library.Words

/-!
What abstract values stand for in an execution, and for each operation the pairs of
integers whose combination stands for the word that the RV32 instruction computes.
-/
namespace AxolotyEmbedded.Interval

open Words

abbrev Word := BitVec 32

/-- The words of one execution that the analysis has symbols for: the stack pointer at the
entry, and the return address and the saved registers under 0 and under their numbers. -/
structure Reading where
  entrySp : Word
  token : Nat → Word

/-- The integers at and above 2^32 are taken for stack addresses. -/
def IsStack (x : Int) : Prop := 2 ^ 32 ≤ x

instance decidableIsStack (x : Int) : Decidable (IsStack x) := inferInstanceAs (Decidable (_ ≤ _))

/-- `RETURN` and `RETURN - r` for the saved registers. -/
def IsToken (x : Int) : Prop := x ≤ returnToken ∧ (returnToken - x).toNat ∈ 0 :: saved

instance decidableIsToken (x : Int) : Decidable (IsToken x) := inferInstanceAs (Decidable (_ ∧ _))

/-- `STACK + k` stands for the stack pointer at the entry plus `k`, a token for an unknown
word, and any other integer for itself. -/
def Reading.word (reading : Reading) (x : Int) : Word :=
  if IsToken x then reading.token (returnToken - x).toNat
  else if IsStack x then reading.entrySp + BitVec.ofInt 32 (x - stackBase)
  else BitVec.ofInt 32 x

/-- The words that a value stands for. -/
def Reading.Stands (reading : Reading) (value : Value) (w : Word) : Prop :=
  ∀ values, value = some values → ∃ x ∈ values, reading.word x = w

section Stands

variable {reading : Reading} {values : Finset Int} {w : Word}

@[simp] theorem stands_none : reading.Stands none w := fun _ unknown => nomatch unknown

@[simp] theorem stands_some :
    reading.Stands (some values) w ↔ ∃ x ∈ values, reading.word x = w := by
  simp [Reading.Stands]

end Stands

/-! ## Kinds of integers -/

theorem not_isStack_of_isToken {x : Int} (token : IsToken x) : ¬IsStack x := by
  have := token.1
  simp only [returnToken] at this
  simp only [IsStack]
  omega

theorem word_of_isStack (reading : Reading) {x : Int} (stack : IsStack x) :
    reading.word x = reading.entrySp + BitVec.ofInt 32 x := by
  have ordinary : ¬IsToken x := fun token => not_isStack_of_isToken token stack
  rw [Reading.word, if_neg ordinary, if_pos stack, ofInt_sub]
  have base : BitVec.ofInt 32 stackBase = 0#32 := by decide
  rw [base, BitVec.sub_zero]

theorem word_of_plain (reading : Reading) {x : Int} (ordinary : ¬IsToken x) (low : ¬IsStack x) :
    reading.word x = BitVec.ofInt 32 x := by
  rw [Reading.word, if_neg ordinary, if_neg low]

theorem not_isToken_of_le {x : Int} (shallow : -(2 ^ 32) ≤ x) : ¬IsToken x := by
  intro token
  have := token.1
  simp only [returnToken] at this
  omega

/-- A word that depends on the stack pointer alone is no unknown word. -/
theorem word_eq_iff {x : Int} (f : Word → Word) :
    (∀ reading : Reading, reading.word x = f reading.entrySp) ↔
      if IsStack x then ∀ s, s + BitVec.ofInt 32 x = f s
      else ¬IsToken x ∧ ∀ s, BitVec.ofInt 32 x = f s := by
  split
  · next stack =>
      constructor
      · intro same s
        rw [← word_of_isStack ⟨s, fun _ => 0⟩ stack]
        exact same ⟨s, fun _ => 0⟩
      · intro same reading
        rw [word_of_isStack reading stack]
        exact same reading.entrySp
  · next plain =>
      constructor
      · intro same
        have ordinary : ¬IsToken x := by
          intro token
          have here := same ⟨0, fun _ => f 0 + 1⟩
          rw [Reading.word, if_pos token] at here
          have := one_ne_zero (w := 32) (by decide)
          grind
        refine ⟨ordinary, fun s => ?_⟩
        rw [← word_of_plain ⟨s, fun _ => 0⟩ ordinary plain]
        exact same ⟨s, fun _ => 0⟩
      · intro same reading
        rw [word_of_plain reading same.1 plain]
        exact same.2 reading.entrySp

end AxolotyEmbedded.Interval
