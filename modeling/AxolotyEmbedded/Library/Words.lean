import Mathlib.Data.Int.Bitwise

/-!
Integers read as machine words: what the operations on integers of any size, as Python has
them, are on their lowest bits, and which words an operation with a fixed one maps to a
translate of themselves.
-/
namespace AxolotyEmbedded.Words

variable {w : Nat}

/-! ## The lowest bits -/

theorem getLsbD_ofInt (x : Int) (i : Nat) :
    (BitVec.ofInt w x).getLsbD i = (decide (i < w) && x.testBit i) := by
  by_cases low : i < w
  · cases x with
    | ofNat n => simp [low, Int.testBit, -BitVec.getLsbD_eq_getElem, BitVec.getLsbD_ofNat]
    | negSucc n => simp [low, Int.testBit, -BitVec.getLsbD_eq_getElem, BitVec.getLsbD_ofNat]
  · simp [low, BitVec.getLsbD_of_ge _ _ (Nat.not_lt.mp low)]

theorem getElem_ofInt (x : Int) {i : Nat} (low : i < w) :
    (BitVec.ofInt w x)[i] = x.testBit i := by
  rw [← BitVec.getLsbD_eq_getElem, getLsbD_ofInt, decide_eq_true low, Bool.true_and]

theorem ofInt_land (x y : Int) :
    BitVec.ofInt w (x.land y) = BitVec.ofInt w x &&& BitVec.ofInt w y := by
  ext i low
  simp [getElem_ofInt]

theorem ofInt_lor (x y : Int) :
    BitVec.ofInt w (x.lor y) = BitVec.ofInt w x ||| BitVec.ofInt w y := by
  ext i low
  simp [getElem_ofInt]

theorem ofInt_xor (x y : Int) :
    BitVec.ofInt w (x.xor y) = BitVec.ofInt w x ^^^ BitVec.ofInt w y := by
  ext i low
  simp [getElem_ofInt]

theorem ofInt_sub (x y : Int) :
    BitVec.ofInt w (x - y) = BitVec.ofInt w x - BitVec.ofInt w y := by
  rw [Int.sub_eq_add_neg, BitVec.ofInt_add, BitVec.ofInt_neg, BitVec.sub_eq_add_neg]

theorem toNat_ofInt (x : Int) : ((BitVec.ofInt w x).toNat : Int) = x % 2 ^ w := by
  have positive : (0 : Int) < 2 ^ w := Int.pow_pos (by decide)
  have := Int.emod_nonneg x (Int.ne_of_gt positive)
  rw [BitVec.toNat_ofInt]
  push_cast
  omega

theorem ofInt_eq_iff {x y : Int} :
    BitVec.ofInt w x = BitVec.ofInt w y ↔ x % 2 ^ w = y % 2 ^ w := by
  rw [BitVec.toNat_eq, ← toNat_ofInt, ← toNat_ofInt, Int.natCast_inj]

theorem ofInt_shiftLeft (x : Int) (n : Nat) :
    BitVec.ofInt w (x <<< n) = BitVec.ofInt w x <<< n := by
  rw [Int.shiftLeft_eq, BitVec.ofInt_mul, BitVec.shiftLeft_eq_mul_twoPow]
  apply congrArg
  rw [BitVec.toNat_eq, BitVec.toNat_twoPow, ← Int.natCast_inj, toNat_ofInt]
  push_cast
  rfl

theorem ofInt_shiftRight (x : Int) (n : Nat) :
    BitVec.ofInt w ((x % 2 ^ w) >>> n) = BitVec.ofInt w x >>> n := by
  rw [← toNat_ofInt, ← Int.natCast_shiftRight, BitVec.ofInt_natCast, BitVec.toNat_eq,
    BitVec.toNat_ofNat, BitVec.toNat_ushiftRight]
  exact Nat.mod_eq_of_lt (Nat.lt_of_le_of_lt (Nat.shiftRight_le ..) (BitVec.isLt _))

theorem ult_ofInt (x y : Int) :
    (BitVec.ofInt w x).ult (BitVec.ofInt w y) = decide (x % 2 ^ w < y % 2 ^ w) := by
  rw [BitVec.ult, ← toNat_ofInt, ← toNat_ofInt, decide_eq_decide]
  exact Int.ofNat_lt.symm

theorem slt_ofInt (x y : Int) :
    (BitVec.ofInt w x).slt (BitVec.ofInt w y) = decide (x.bmod (2 ^ w) < y.bmod (2 ^ w)) := by
  rw [BitVec.slt, BitVec.toInt_ofInt, BitVec.toInt_ofInt]

theorem setWidth_ofInt (x : Int) {n : Nat} (narrow : n ≤ w) :
    (BitVec.ofInt w x).setWidth n = BitVec.ofInt n x := by
  rw [BitVec.toNat_eq, BitVec.toNat_setWidth, ← Int.natCast_inj, toNat_ofInt]
  push_cast
  rw [toNat_ofInt, Int.emod_emod_of_dvd _ (pow_dvd_pow 2 narrow)]

theorem signExtend_setWidth (x : Int) {n : Nat} (narrow : n ≤ w) :
    ((BitVec.ofInt w x).setWidth n).signExtend w = BitVec.ofInt w (x.bmod (2 ^ n)) := by
  rw [setWidth_ofInt x narrow, BitVec.signExtend, BitVec.toInt_ofInt]

theorem setWidth_setWidth (x : Int) {n : Nat} (narrow : n ≤ w) :
    ((BitVec.ofInt w x).setWidth n).setWidth w = BitVec.ofInt w (x % 2 ^ n) := by
  rw [setWidth_ofInt x narrow, ← toNat_ofInt, BitVec.ofInt_natCast]
  exact (BitVec.ofNat_toNat w _).symm

/-! ## All bits -/

theorem testBit_ofNat_ne_negSucc (m n : Nat) :
    ¬∀ i, (Int.ofNat m).testBit i = (Int.negSucc n).testBit i := by
  intro same
  have far (k : Nat) (below : k ≤ m + n) : k.testBit (m + n) = false :=
    Nat.testBit_lt_two_pow (Nat.lt_of_le_of_lt below Nat.lt_two_pow_self)
  have here := same (m + n)
  simp [Int.testBit, far m, far n] at here

theorem eq_of_testBit_eq {x y : Int} (same : ∀ i, x.testBit i = y.testBit i) : x = y := by
  cases x with
  | ofNat m =>
      cases y with
      | ofNat n => exact congrArg Int.ofNat (Nat.eq_of_testBit_eq same)
      | negSucc n => exact absurd same (testBit_ofNat_ne_negSucc m n)
  | negSucc m =>
      cases y with
      | ofNat n => exact absurd (fun i => (same i).symm) (testBit_ofNat_ne_negSucc n m)
      | negSucc n =>
          apply congrArg Int.negSucc
          apply Nat.eq_of_testBit_eq
          intro i
          simpa [Int.testBit] using same i

@[simp] theorem testBit_shiftRight (x : Int) (n i : Nat) :
    (x >>> n).testBit i = x.testBit (n + i) := by
  cases x with
  | ofNat m => exact Nat.testBit_shiftRight ..
  | negSucc m => exact congrArg not (Nat.testBit_shiftRight ..)

@[simp] theorem testBit_zero (i : Nat) : (0 : Int).testBit i = false := Nat.zero_testBit i

@[simp] theorem testBit_neg_one (i : Nat) : (-1 : Int).testBit i = true :=
  congrArg not (Nat.zero_testBit i)

section Bitwise

variable (x y : Int)

theorem shiftRight_land (n : Nat) : x.land y >>> n = (x >>> n).land (y >>> n) := by
  apply eq_of_testBit_eq
  simp

theorem shiftRight_lor (n : Nat) : x.lor y >>> n = (x >>> n).lor (y >>> n) := by
  apply eq_of_testBit_eq
  simp

theorem shiftRight_xor (n : Nat) : x.xor y >>> n = (x >>> n).xor (y >>> n) := by
  apply eq_of_testBit_eq
  simp

theorem land_comm : x.land y = y.land x := by
  apply eq_of_testBit_eq
  simp [Bool.and_comm]

theorem lor_comm : x.lor y = y.lor x := by
  apply eq_of_testBit_eq
  simp [Bool.or_comm]

theorem xor_comm : x.xor y = y.xor x := by
  apply eq_of_testBit_eq
  simp [Bool.xor_comm]

@[simp] theorem land_zero : x.land 0 = 0 := by
  apply eq_of_testBit_eq
  simp

@[simp] theorem land_neg_one : x.land (-1) = x := by
  apply eq_of_testBit_eq
  simp

@[simp] theorem lor_zero : x.lor 0 = x := by
  apply eq_of_testBit_eq
  simp

@[simp] theorem lor_neg_one : x.lor (-1) = -1 := by
  apply eq_of_testBit_eq
  simp

@[simp] theorem xor_zero : x.xor 0 = x := by
  apply eq_of_testBit_eq
  simp

@[simp] theorem xor_neg_one : x.xor (-1) = -x - 1 := by
  have complement : -x - 1 = x.lnot := by
    cases x with
    | ofNat n => simp [Int.lnot]; omega
    | negSucc n => simp [Int.lnot]
  rw [complement]
  apply eq_of_testBit_eq
  simp [Int.testBit_lnot]

variable {x y}

theorem xor_nonneg (first : 0 ≤ x) (second : 0 ≤ y) : 0 ≤ x.xor y := by
  cases x with
  | ofNat m =>
      cases y with
      | ofNat n => exact Int.natCast_nonneg (m ^^^ n)
      | negSucc n => omega
  | negSucc m => omega

theorem le_lor (first : 0 ≤ x) (second : 0 ≤ y) : x ≤ x.lor y := by
  cases x with
  | ofNat m =>
      cases y with
      | ofNat n => exact Int.ofNat_le.mpr Nat.left_le_or
      | negSucc n => omega
  | negSucc m => omega

end Bitwise

/-! ## The highest bit -/

theorem intMin_add_intMin : BitVec.intMin w + BitVec.intMin w = 0#w := by
  conv_lhs => arg 2; rw [← BitVec.neg_intMin]
  exact BitVec.add_right_neg _

theorem xor_intMin_of_clear {v : BitVec w} (clear : v.getLsbD (w - 1) = false) :
    v ^^^ BitVec.intMin w = v + BitVec.intMin w := by
  have apart : v &&& BitVec.intMin w = 0#w := by
    apply BitVec.eq_of_getLsbD_eq
    intro i low
    rw [BitVec.getLsbD_and, BitVec.getLsbD_intMin]
    by_cases top : i + 1 = w
    · subst top
      simpa using clear
    · simp [top]
  rw [BitVec.add_eq_or_of_and_eq_zero _ _ apart]
  apply BitVec.eq_of_getLsbD_eq
  intro i low
  have bits := congrArg (fun word => word.getLsbD i) apart
  rw [BitVec.getLsbD_and, BitVec.getLsbD_zero, Bool.and_eq_false_iff] at bits
  rw [BitVec.getLsbD_xor, BitVec.getLsbD_or]
  cases bits with
  | inl first => rw [first, Bool.false_xor, Bool.false_or]
  | inr second => rw [second, Bool.xor_false, Bool.or_false]

/-- Adding the highest bit flips it. -/
theorem xor_intMin (u : BitVec w) : u ^^^ BitVec.intMin w = u + BitVec.intMin w := by
  cases top : u.getLsbD (w - 1) with
  | false => exact xor_intMin_of_clear top
  | true =>
      have clear : (u ^^^ BitVec.intMin w).getLsbD (w - 1) = false := by
        have inside : w - 1 + 1 = w := by
          have := BitVec.lt_of_getLsbD top
          omega
        simp [BitVec.getLsbD_intMin, top, inside]
      have flipped := xor_intMin_of_clear clear
      rw [BitVec.xor_assoc, BitVec.xor_self, BitVec.xor_zero] at flipped
      conv_rhs => rw [flipped, BitVec.add_assoc, intMin_add_intMin, BitVec.add_zero]

theorem add_intMin_xor (u : BitVec w) : (u + BitVec.intMin w) ^^^ u = BitVec.intMin w := by
  rw [← xor_intMin, BitVec.xor_comm, ← BitVec.xor_assoc, BitVec.xor_self, BitVec.zero_xor]

theorem eq_zero_or_intMin {u : BitVec w} (double : u + u = 0#w) : u = 0#w ∨ u = BitVec.intMin w := by
  cases w with
  | zero => exact .inl BitVec.of_length_zero
  | succ w =>
      have value := congrArg BitVec.toNat double
      have small := u.isLt
      rw [BitVec.toNat_add, BitVec.toNat_zero] at value
      rw [BitVec.toNat_eq, BitVec.toNat_eq, BitVec.toNat_zero, BitVec.toNat_intMin_of_pos (by omega),
        Nat.add_sub_cancel]
      have divides := Nat.dvd_of_mod_eq_zero value
      cases divides with
      | intro k same =>
          rw [Nat.pow_succ] at same small
          match k with
          | 0 => omega
          | 1 => omega
          | k + 2 =>
              have := Nat.mul_le_mul_left (2 ^ w * 2) (Nat.le_add_left 2 k)
              omega

/-! ## Operations on a word that is not known

Where one operand ranges over all words, the result is the same word for all of them, or a
translate of the operand, only for few other operands. -/

variable {x y c : BitVec w}

theorem one_ne_zero (positive : 0 < w) : (1#w) ≠ 0#w := by
  intro same
  have := congrArg BitVec.toNat same
  simp [Nat.one_mod_two_pow positive] at this

theorem one_add_one_ne_zero (wide : 1 < w) : (1#w) + 1#w ≠ 0#w := by
  intro double
  have value := congrArg BitVec.toNat double
  rw [BitVec.toNat_add, BitVec.toNat_ofNat, BitVec.toNat_zero,
    Nat.one_mod_two_pow (Nat.lt_of_succ_lt wide)] at value
  have := Nat.pow_lt_pow_right (a := 2) (by omega) wide
  rw [Nat.mod_eq_of_lt (by omega)] at value
  cases value

theorem allOnes_ne_zero (positive : 0 < w) : BitVec.allOnes w ≠ 0#w := by
  intro same
  rw [← BitVec.neg_one_eq_allOnes, BitVec.neg_eq_zero_iff] at same
  exact one_ne_zero positive same

/-- A sum with an unknown word is not known. -/
theorem add_not_const (positive : 0 < w) : ¬∀ s : BitVec w, s + y = c := by
  intro known
  have first := known 0#w
  have second := known 1#w
  rw [BitVec.zero_add] at first
  subst first
  apply one_ne_zero positive
  simpa using second

theorem neg_not_const (positive : 0 < w) : ¬∀ s : BitVec w, y - s = c := by
  intro known
  apply add_not_const (y := y) (c := c) positive
  intro s
  simpa [BitVec.sub_eq_add_neg, BitVec.add_comm] using known (-s)

theorem neg_not_translate (wide : 1 < w) : ¬∀ s : BitVec w, y - s = s + c := by
  intro known
  have none := known 0#w
  have one := known 1#w
  have double : (1#w) + 1#w = 0#w := by grind
  exact one_add_one_ne_zero wide double

theorem and_const (known : ∀ u : BitVec w, u &&& y = c) : y = 0#w := by
  have none := known 0#w
  have all := known (BitVec.allOnes w)
  rw [BitVec.zero_and] at none
  rw [BitVec.allOnes_and] at all
  rw [all, none]

theorem and_translate (known : ∀ u : BitVec w, u &&& y = u + c) : y = BitVec.allOnes w := by
  have none := known 0#w
  have all := known (BitVec.allOnes w)
  rw [BitVec.zero_and, BitVec.zero_add] at none
  rw [BitVec.allOnes_and, ← none, BitVec.add_zero] at all
  exact all

theorem or_const (known : ∀ u : BitVec w, u ||| y = c) : y = BitVec.allOnes w := by
  have none := known 0#w
  have all := known (BitVec.allOnes w)
  rw [BitVec.zero_or] at none
  rw [BitVec.allOnes_or] at all
  rw [none, all]

theorem or_translate (known : ∀ u : BitVec w, u ||| y = u + c) : y = 0#w := by
  have none := known 0#w
  have all := known (BitVec.allOnes w)
  rw [BitVec.zero_or, BitVec.zero_add] at none
  rw [BitVec.allOnes_or, eq_comm, BitVec.add_right_eq_self] at all
  rw [none, all]

theorem xor_not_const (positive : 0 < w) : ¬∀ u : BitVec w, u ^^^ y = c := by
  intro known
  have none := known 0#w
  have own := known y
  rw [BitVec.zero_xor] at none
  rw [BitVec.xor_self] at own
  have all := known (BitVec.allOnes w)
  rw [none, ← own, BitVec.xor_zero] at all
  exact allOnes_ne_zero positive all

theorem xor_translate (known : ∀ u : BitVec w, u ^^^ y = u + c) :
    y = 0#w ∨ y = BitVec.intMin w := by
  have none := known 0#w
  have own := known y
  rw [BitVec.zero_xor, BitVec.zero_add] at none
  rw [BitVec.xor_self, ← none] at own
  exact eq_zero_or_intMin own.symm

theorem shiftLeft_translate {n : Nat} (positive : 0 < w)
    (known : ∀ u : BitVec w, u <<< n = u + c) : n = 0 := by
  have none := known 0#w
  have one := congrArg BitVec.toNat (known 1#w)
  rw [BitVec.zero_shiftLeft, BitVec.zero_add] at none
  rw [← none, BitVec.add_zero, BitVec.toNat_shiftLeft, BitVec.toNat_ofNat,
    Nat.one_mod_two_pow positive, Nat.one_shiftLeft] at one
  by_cases short : n < w
  · rw [Nat.mod_eq_of_lt (Nat.pow_lt_pow_right (by omega) short)] at one
    exact (Nat.pow_eq_one.mp one).resolve_left (by omega)
  · rw [Nat.mod_eq_zero_of_dvd (Nat.pow_dvd_pow 2 (Nat.not_lt.mp short))] at one
    cases one

theorem shiftRight_const {n : Nat} (known : ∀ u : BitVec w, u >>> n = c) : w ≤ n := by
  have none := known 0#w
  have all := congrArg (fun word => word.getLsbD 0) (known (BitVec.allOnes w))
  rw [BitVec.zero_ushiftRight] at none
  rw [← none] at all
  simpa using all

theorem ult_zero : x.ult 0#w = false := by
  rw [BitVec.ult, BitVec.toNat_zero, decide_eq_false_iff_not]
  omega

theorem allOnes_ult : (BitVec.allOnes w).ult y = false := by
  have small := y.isLt
  rw [BitVec.ult, BitVec.toNat_allOnes, decide_eq_false_iff_not]
  omega

theorem slt_intMin (positive : 0 < w) : x.slt (BitVec.intMin w) = false := by
  have := x.le_toInt
  rw [BitVec.slt, BitVec.toInt_intMin_of_pos positive, decide_eq_false_iff_not]
  omega

theorem intMax_slt : (BitVec.intMax w).slt y = false := by
  have := y.toInt_lt
  rw [BitVec.slt, BitVec.toInt_intMax, decide_eq_false_iff_not]
  omega

theorem ult_left_const {answer : Bool} (known : ∀ u : BitVec w, u.ult y = answer) :
    y = 0#w := by
  have all := known (BitVec.allOnes w)
  have none := known 0#w
  rw [allOnes_ult] at all
  rw [← all, BitVec.ult, BitVec.toNat_zero, decide_eq_false_iff_not] at none
  rw [BitVec.toNat_eq, BitVec.toNat_zero]
  omega

theorem ult_right_const {answer : Bool} (known : ∀ v : BitVec w, x.ult v = answer) :
    x = BitVec.allOnes w := by
  have all := known (BitVec.allOnes w)
  have none := known 0#w
  have small := x.isLt
  rw [ult_zero] at none
  rw [← none, BitVec.ult, BitVec.toNat_allOnes, decide_eq_false_iff_not] at all
  rw [BitVec.toNat_eq, BitVec.toNat_allOnes]
  omega

theorem slt_left_const {answer : Bool} (positive : 0 < w)
    (known : ∀ u : BitVec w, u.slt y = answer) : y = BitVec.intMin w := by
  have most := known (BitVec.intMax w)
  have least := known (BitVec.intMin w)
  have large := y.le_toInt
  rw [intMax_slt] at most
  rw [← most, BitVec.slt, BitVec.toInt_intMin_of_pos positive, decide_eq_false_iff_not] at least
  rw [← BitVec.toInt_inj, BitVec.toInt_intMin_of_pos positive]
  omega

theorem slt_right_const {answer : Bool} (positive : 0 < w)
    (known : ∀ v : BitVec w, x.slt v = answer) : x = BitVec.intMax w := by
  have most := known (BitVec.intMax w)
  have least := known (BitVec.intMin w)
  have small := x.toInt_lt
  rw [slt_intMin positive] at least
  rw [← least, BitVec.slt, BitVec.toInt_intMax, decide_eq_false_iff_not] at most
  rw [← BitVec.toInt_inj, BitVec.toInt_intMax]
  omega

/-! ## Operations on two words at a known distance -/

theorem add_translates (positive : 0 < w) : ¬∀ s : BitVec w, (s + x) + (s + y) = s + c := by
  intro known
  apply add_not_const (y := x + y) (c := c) positive
  intro s
  have here := known s
  grind

theorem and_translates (known : ∀ s : BitVec w, (s + x) &&& (s + y) = s + c) : x = y := by
  have first := known (-x)
  have second := known (-y)
  rw [BitVec.add_left_neg, BitVec.zero_and] at first
  rw [BitVec.add_left_neg, BitVec.and_zero] at second
  grind

theorem and_translates_not_const (wide : 1 < w) :
    ¬∀ s : BitVec w, (s + x) &&& (s + y) = c := by
  intro known
  have zero := known (-x)
  have first := known (BitVec.allOnes w - x)
  have second := known (BitVec.allOnes w - y)
  rw [BitVec.add_left_neg, BitVec.zero_and] at zero
  rw [BitVec.sub_add_cancel, BitVec.allOnes_and, ← zero, ← BitVec.neg_one_eq_allOnes] at first
  rw [BitVec.sub_add_cancel, BitVec.and_allOnes, ← zero, ← BitVec.neg_one_eq_allOnes] at second
  have double : (1#w) + 1#w = 0#w := by grind
  exact one_add_one_ne_zero wide double

theorem or_translates (known : ∀ s : BitVec w, (s + x) ||| (s + y) = s + c) : x = y := by
  have first := known (-x)
  have second := known (-y)
  rw [BitVec.add_left_neg, BitVec.zero_or] at first
  rw [BitVec.add_left_neg, BitVec.or_zero] at second
  grind

theorem xor_translates_not_translate (positive : 0 < w) :
    ¬∀ s : BitVec w, (s + x) ^^^ (s + y) = s + c := by
  intro known
  have first := known (-x)
  have second := known (-y)
  rw [BitVec.add_left_neg, BitVec.zero_xor] at first
  rw [BitVec.add_left_neg, BitVec.xor_zero] at second
  have same : x = y := by grind
  apply add_not_const (y := c) (c := 0#w) positive
  intro s
  rw [← known s, same, BitVec.xor_self]

theorem xor_translates_const (known : ∀ s : BitVec w, (s + x) ^^^ (s + y) = c) :
    x = y ∨ x = y + BitVec.intMin w := by
  have first := known (-x)
  have second := known (y - x - x)
  rw [BitVec.add_left_neg, BitVec.zero_xor] at first
  rw [← first, BitVec.sub_add_cancel, show y - x - x + y = (y - x) + (y - x) by grind,
    show -x + y = y - x by grind] at second
  have double : (y - x) + (y - x) = 0#w := by
    have cancelled := congrArg (fun word => (y - x) ^^^ word) second
    simpa [← BitVec.xor_assoc] using cancelled
  cases eq_zero_or_intMin double with
  | inl same => exact .inl (by grind)
  | inr half =>
      right
      have := intMin_add_intMin (w := w)
      grind

theorem ult_translates {answer : Bool}
    (known : ∀ s : BitVec w, (s + x).ult (s + y) = answer) : x = y := by
  have first := known (-x)
  have second := known (-y)
  rw [BitVec.add_left_neg] at first second
  rw [← second, ult_zero, BitVec.ult, BitVec.toNat_zero, decide_eq_false_iff_not] at first
  have same : -x + y = 0#w := by
    rw [BitVec.toNat_eq, BitVec.toNat_zero]
    omega
  grind

theorem slt_translates {answer : Bool} (positive : 0 < w)
    (known : ∀ s : BitVec w, (s + x).slt (s + y) = answer) : x = y := by
  have first := known (BitVec.intMin w - x)
  have second := known (BitVec.intMin w - y)
  have least := BitVec.toInt_intMin_of_pos positive
  rw [BitVec.sub_add_cancel] at first second
  have small := (BitVec.intMin w - x + y).le_toInt
  rw [← second, slt_intMin positive, BitVec.slt, least, decide_eq_false_iff_not] at first
  have same : BitVec.intMin w - x + y = BitVec.intMin w := by
    rw [← BitVec.toInt_inj, least]
    omega
  grind

end AxolotyEmbedded.Words
