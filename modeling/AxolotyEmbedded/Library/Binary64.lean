import Mathlib.Data.Int.Log
import Mathlib.Data.Rat.Floor
import Mathlib.Tactic.Linarith
import Mathlib.Tactic.Positivity

/-!
Binary64 numbers by their values, without the sign of zero. A decimal number is read
as the nearest value with 53 significant bits, ties to even; up to `2 ^ 53` the
integers are exact, and from there on no result is below `2 ^ 53`.
-/
namespace AxolotyEmbedded

inductive Binary64 where
  | finite (value : ℚ)
  | infinite (negative : Bool)
  | nan
  deriving DecidableEq

namespace Binary64

def roundHalfEven (q : ℚ) : ℤ :=
  let rest := q - ⌊q⌋
  if rest < 1 / 2 then ⌊q⌋
  else if 1 / 2 < rest then ⌊q⌋ + 1
  else if ⌊q⌋ % 2 = 0 then ⌊q⌋
  else ⌊q⌋ + 1

/-- The exponent of the last bit of the numbers next to `q`. -/
def lastBit (q : ℚ) : ℤ := max (Int.log 2 |q| - 52) (-1074)

def nearest (q : ℚ) : Binary64 :=
  let value := (roundHalfEven (q / (2 : ℚ) ^ lastBit q) : ℚ) * (2 : ℚ) ^ lastBit q
  if 2 ^ 1024 ≤ |value| then .infinite (q < 0) else .finite value

def isInteger : Binary64 → Bool
  | .finite value => value.isInt
  | _ => false

/-- `ToUint32`: truncation modulo `2 ^ 32`. -/
def toUint32 : Binary64 → BitVec 32
  | .finite value => BitVec.ofInt 32 (value.num.tdiv value.den)
  | _ => 0

@[simp] theorem roundHalfEven_intCast (n : ℤ) : roundHalfEven n = n := by
  simp [roundHalfEven]

/-- Rounding keeps a multiple of its last bit. -/
theorem rounded_eq_self {q : ℚ} {n : ℤ} (whole : q / (2 : ℚ) ^ lastBit q = n) :
    (roundHalfEven (q / (2 : ℚ) ^ lastBit q) : ℚ) * (2 : ℚ) ^ lastBit q = q := by
  have nonzero : (2 : ℚ) ^ lastBit q ≠ 0 := zpow_ne_zero _ two_ne_zero
  rw [whole, roundHalfEven_intCast, ← whole, div_mul_cancel₀ q nonzero]

theorem lastBit_intCast {n : ℤ} (bound : |n| < 2 ^ 53) : lastBit n ≤ 0 := by
  have within : |(n : ℚ)| < ((2 : ℕ) : ℚ) ^ (53 : ℤ) := by exact_mod_cast bound
  by_cases zero : n = 0
  · simp [lastBit, zero]
  · have positive : 0 < |(n : ℚ)| := abs_pos.mpr (Int.cast_ne_zero.mpr zero)
    have small := (Int.lt_zpow_iff_log_lt Nat.one_lt_two positive).mp within
    rw [lastBit]
    omega

/-- Every integer of at most 53 bits is exact. -/
theorem nearest_intCast {n : ℤ} (bound : |n| < 2 ^ 53) : nearest n = .finite n := by
  obtain ⟨k, spare⟩ := Int.eq_ofNat_of_zero_le (neg_nonneg.mpr (lastBit_intCast bound))
  have scaled : lastBit n = -(k : ℤ) := by omega
  have whole : (n : ℚ) / (2 : ℚ) ^ lastBit n = ((n * 2 ^ k : ℤ) : ℚ) := by
    rw [scaled, zpow_neg, div_inv_eq_mul, zpow_natCast]
    push_cast
    rfl
  simp only [nearest, rounded_eq_self whole]
  refine if_neg fun overflow => ?_
  have wide : (2 : ℚ) ^ 53 ≤ |(n : ℚ)| :=
    le_trans (pow_le_pow_right₀ one_le_two (by norm_num)) overflow
  have large : (2 : ℤ) ^ 53 ≤ |n| := by exact_mod_cast wide
  exact absurd bound (not_lt.mpr large)

theorem nearest_natCast {n : ℕ} (bound : n < 2 ^ 53) : nearest n = .finite n := by
  have exact := nearest_intCast (n := n) (by rw [Nat.abs_cast]; exact_mod_cast bound)
  exact_mod_cast exact

end Binary64
end AxolotyEmbedded
