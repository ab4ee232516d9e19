import Mathlib.Tactic.IntervalCases
import AxolotyEmbedded.Interval.Operations

/-!
The pairs of members that an operation combines to what its instruction computes, by
whether each of the two is a stack address.
-/
namespace AxolotyEmbedded.Interval

open Words

def byKind (x y : Int) (both left right neither : Prop) : Prop :=
  if IsStack x then if IsStack y then both else left
  else if IsStack y then right else neither

instance decidableByKind (x y : Int) (both left right neither : Prop) [Decidable both]
    [Decidable left] [Decidable right] [Decidable neither] :
    Decidable (byKind x y both left right neither) :=
  inferInstanceAs (Decidable (ite ..))

section Kinds

variable {x y : Int} {both left right neither : Prop}

theorem byKind_both (first : IsStack x) (second : IsStack y) :
    byKind x y both left right neither ↔ both := by
  rw [byKind, if_pos first, if_pos second]

theorem byKind_left (first : IsStack x) (second : ¬IsStack y) :
    byKind x y both left right neither ↔ left := by
  rw [byKind, if_pos first, if_neg second]

theorem byKind_right (first : ¬IsStack x) (second : IsStack y) :
    byKind x y both left right neither ↔ right := by
  rw [byKind, if_neg first, if_pos second]

theorem byKind_neither (first : ¬IsStack x) (second : ¬IsStack y) :
    byKind x y both left right neither ↔ neither := by
  rw [byKind, if_neg first, if_neg second]

end Kinds

/-- The pairs with a member that is not cut to a word. -/
def Operation.Faithful (op : Operation) (x y : Int) : Prop :=
  match op with
  | .add => byKind x y False (IsStack (x + y)) (IsStack (x + y)) True
  | .sub =>
      byKind x y (¬IsStack (x - y) ∧ ¬IsToken (x - y)) (IsStack (x - y)) False (¬IsStack (x - y))
  | .and => byKind x y (low x = low y ∧ IsStack (x.land y)) (y = 0 ∨ y = -1) (x = 0 ∨ x = -1) True
  | .or => byKind x y (low x = low y) (y = 0 ∨ y = -1) (x = 0 ∨ x = -1) True
  | .xor =>
      byKind x y ((low x = low y ∨ low x = low (y + 2 ^ 31)) ∧ ¬IsStack (x.xor y))
        (y = 0 ∨ y = 2 ^ 31) (x = 0 ∨ x = 2 ^ 31) True
  | .shiftLeft => byKind x y False (y = 0) False (x ≠ -(2 ^ 32) ∨ y ≠ 16)
  | .shiftRight => byKind x y False False False True
  | .less => byKind x y (low x = low y) (low y = 2 ^ 31) (low x = 2 ^ 31 - 1) True
  | .lessUnsigned => byKind x y (low x = low y) (low y = 0) (low x = 2 ^ 32 - 1) True

instance Operation.decidableFaithful (op : Operation) (x y : Int) :
    Decidable (op.Faithful x y) :=
  match op with
  | .add | .sub | .and | .or | .xor | .shiftLeft | .shiftRight | .less | .lessUnsigned =>
      inferInstanceAs (Decidable (byKind ..))

/-! ## Pages -/

theorem isStack_iff_page {x : Int} : IsStack x ↔ 1 ≤ x >>> (32 : Nat) := by
  rw [IsStack, Int.shiftRight_eq_div_pow]
  omega

theorem page_of_not_isStack {x : Int} (plain : ¬IsStack x) (shallow : -(2 ^ 32) ≤ x) :
    x >>> (32 : Nat) = 0 ∧ 0 ≤ x ∨ x >>> (32 : Nat) = -1 ∧ x < 0 := by
  simp only [IsStack] at plain
  rw [Int.shiftRight_eq_div_pow]
  omega

theorem low_eq_iff {x y : Int} : BitVec.ofInt 32 x = BitVec.ofInt 32 y ↔ low x = low y :=
  ofInt_eq_iff

theorem low_zero_iff {x : Int} : BitVec.ofInt 32 x = 0#32 ↔ low x = 0 :=
  low_eq_iff (y := 0)

theorem low_allOnes_iff {x : Int} : BitVec.ofInt 32 x = BitVec.allOnes 32 ↔ low x = 2 ^ 32 - 1 :=
  low_eq_iff (y := -1)

theorem low_intMin_iff {x : Int} : BitVec.ofInt 32 x = BitVec.intMin 32 ↔ low x = 2 ^ 31 :=
  low_eq_iff (y := 2 ^ 31)

theorem low_intMax_iff {x : Int} : BitVec.ofInt 32 x = BitVec.intMax 32 ↔ low x = 2 ^ 31 - 1 :=
  low_eq_iff (y := 2 ^ 31 - 1)

theorem exact_comm (op : Operation) {x y z : Int} (comm : ∀ u v, op.word u v = op.word v u) :
    op.Exact x y z ↔ op.Exact y x z := by
  apply forall_congr'
  intro reading
  rw [comm]

theorem exactOn_const {f : Word → Word} {offset : Word} {z : Int} (plain : ¬IsStack z)
    (shallow : -(2 ^ 32) ≤ z) (same : ∀ u, f u = BitVec.ofInt 32 z) : ExactOn f offset z := by
  rw [ExactOn, if_neg plain]
  exact ⟨not_isToken_of_le shallow, same⟩

theorem exactOn_translate {f : Word → Word} {offset : Word} {z : Int} (stack : IsStack z)
    (same : ∀ u, f u = u + (BitVec.ofInt 32 z - offset)) : ExactOn f offset z := by
  rw [ExactOn, if_pos stack]
  exact same

section One

variable {x y : Int} (first : IsStack x) (second : ¬IsStack y) (shallow : -(2 ^ 32) ≤ y)

include first second shallow

theorem add_left : Operation.add.Exact x y (x + y) ↔ IsStack (x + y) := by
  rw [exact_left _ first second shallow]
  constructor
  · intro exact
    by_contra plain
    rw [ExactOn, if_neg plain] at exact
    exact add_not_const (by decide) exact.2
  · intro stack
    apply exactOn_translate stack
    intro u
    rw [Operation.word, BitVec.ofInt_add]
    grind

theorem sub_left : Operation.sub.Exact x y (x - y) ↔ IsStack (x - y) := by
  rw [exact_left _ first second shallow]
  constructor
  · intro exact
    by_contra plain
    rw [ExactOn, if_neg plain] at exact
    apply add_not_const (w := 32) (by decide)
    intro u
    rw [← BitVec.sub_eq_add_neg]
    exact exact.2 u
  · intro stack
    apply exactOn_translate stack
    intro u
    rw [Operation.word, ofInt_sub]
    grind

theorem sub_right : ¬Operation.sub.Exact y x (y - x) := by
  rw [exact_right _ second shallow first, ExactOn]
  intro exact
  split at exact
  · exact neg_not_translate (by decide) exact
  · exact neg_not_const (by decide) exact.2

theorem and_left : Operation.and.Exact x y (x.land y) ↔ y = 0 ∨ y = -1 := by
  have page := shiftRight_land x y 32
  have pages := page_of_not_isStack second shallow
  rw [exact_left _ first second shallow]
  constructor
  · intro exact
    rw [ExactOn] at exact
    rw [isStack_iff_page] at first
    rw [IsStack] at second
    split at exact
    · next stack =>
        have ones := low_allOnes_iff.mp (and_translate exact)
        rw [isStack_iff_page, page] at stack
        cases pages with
        | inl zero => simp [zero.1] at stack
        | inr minus =>
            simp only [low] at ones
            omega
    · next plain =>
        have zeros := low_zero_iff.mp (and_const exact.2)
        rw [isStack_iff_page, page] at plain
        cases pages with
        | inl zero =>
            simp only [low] at zeros
            omega
        | inr minus => simp [minus.1, first] at plain
  · intro special
    cases special with
    | inl zero =>
        subst zero
        rw [land_zero]
        exact exactOn_const second shallow fun u => BitVec.and_zero
    | inr ones =>
        subst ones
        rw [land_neg_one]
        apply exactOn_translate first
        intro u
        change u &&& BitVec.allOnes 32 = _
        rw [BitVec.and_allOnes, BitVec.sub_self, BitVec.add_zero]

theorem or_left : Operation.or.Exact x y (x.lor y) ↔ y = 0 ∨ y = -1 := by
  have page := shiftRight_lor x y 32
  have pages := page_of_not_isStack second shallow
  rw [exact_left _ first second shallow]
  constructor
  · intro exact
    rw [ExactOn] at exact
    rw [isStack_iff_page] at first
    rw [IsStack] at second
    split at exact
    · next stack =>
        have zeros := low_zero_iff.mp (or_translate exact)
        rw [isStack_iff_page, page] at stack
        cases pages with
        | inl zero =>
            simp only [low] at zeros
            omega
        | inr minus => simp [minus.1] at stack
    · next plain =>
        have ones := low_allOnes_iff.mp (or_const exact.2)
        rw [isStack_iff_page, page] at plain
        cases pages with
        | inl zero => simp [zero.1, first] at plain
        | inr minus =>
            simp only [low] at ones
            omega
  · intro special
    cases special with
    | inl zero =>
        subst zero
        rw [lor_zero]
        apply exactOn_translate first
        intro u
        change u ||| 0#32 = _
        rw [BitVec.or_zero, BitVec.sub_self, BitVec.add_zero]
    | inr ones =>
        subst ones
        rw [lor_neg_one]
        exact exactOn_const second shallow fun u => BitVec.or_allOnes

theorem xor_left : Operation.xor.Exact x y (x.xor y) ↔ y = 0 ∨ y = 2 ^ 31 := by
  have page := shiftRight_xor x y 32
  have pages := page_of_not_isStack second shallow
  rw [exact_left _ first second shallow]
  constructor
  · intro exact
    rw [ExactOn] at exact
    split at exact
    · next stack =>
        have special := (xor_translate exact).imp low_zero_iff.mp low_intMin_iff.mp
        rw [isStack_iff_page, page] at stack
        cases pages with
        | inl zero =>
            simp only [low, IsStack] at special second
            omega
        | inr minus =>
            rw [isStack_iff_page] at first
            rw [minus.1, xor_neg_one] at stack
            omega
    · exact absurd exact.2 (xor_not_const (by decide))
  · intro special
    cases special with
    | inl zero =>
        subst zero
        rw [xor_zero]
        apply exactOn_translate first
        intro u
        change u ^^^ 0#32 = _
        rw [BitVec.xor_zero, BitVec.sub_self, BitVec.add_zero]
    | inr half =>
        subst half
        have stack : IsStack (x.xor (2 ^ 31)) := by
          have zero : (2 ^ 31 : Int) >>> (32 : Nat) = 0 := by decide
          rwa [isStack_iff_page, page, zero, xor_zero, ← isStack_iff_page]
        apply exactOn_translate stack
        intro u
        change u ^^^ BitVec.intMin 32 = _
        have own : BitVec.ofInt 32 (2 ^ 31) = BitVec.intMin 32 := by decide
        rw [ofInt_xor, own, xor_intMin, xor_intMin]
        grind

end One

/-! ## Comparisons -/

theorem flag_inj {first second : Bool} : flag first = flag second ↔ first = second := by
  cases first with
  | false => cases second with
    | false => simp
    | true => simp [flag]
  | true => cases second with
    | false => simp [flag]
    | true => simp

/-- The results of comparisons. -/
def IsBit (z : Int) : Prop := z = 0 ∨ z = 1

theorem isBit_ite (p : Prop) [Decidable p] : IsBit (if p then 1 else 0) := by
  by_cases holds : p
  · exact .inr (if_pos holds)
  · exact .inl (if_neg holds)

theorem IsBit.plain {z : Int} (bit : IsBit z) : ¬IsStack z ∧ -(2 ^ 32) ≤ z := by
  simp only [IsBit, IsStack] at bit ⊢
  omega

/-- A comparison is exact on an unknown word only if it does not depend on the word. -/
theorem exactOn_flag (test : Word → Bool) {offset : Word} {answer : Prop} [Decidable answer]
    (here : flag (test offset) = BitVec.ofInt 32 (if answer then 1 else 0)) :
    ExactOn (fun u => flag (test u)) offset (if answer then 1 else 0) ↔
      ∀ u, test u = test offset := by
  have plain := (isBit_ite answer).plain
  rw [ExactOn, if_neg plain.1, ← here]
  simp only [not_isToken_of_le plain.2, not_false_iff, true_and, flag_inj]

section Comparisons

variable {x y : Int}

theorem less_left (first : IsStack x) (second : ¬IsStack y) (shallow : -(2 ^ 32) ≤ y) :
    Operation.less.Exact x y (Operation.less.apply x y) ↔ low y = 2 ^ 31 := by
  rw [exact_left _ first second shallow, ← low_intMin_iff]
  apply (exactOn_flag (fun u => u.slt (BitVec.ofInt 32 y))
    (ofInt_apply .less x (Operation.encodes y (by decide))).symm).trans
  constructor
  · intro known
    exact slt_left_const (by decide) known
  · intro half u
    rw [half, slt_intMin (by decide), slt_intMin (by decide)]

theorem less_right (first : ¬IsStack x) (shallow : -(2 ^ 32) ≤ x) (second : IsStack y) :
    Operation.less.Exact x y (Operation.less.apply x y) ↔ low x = 2 ^ 31 - 1 := by
  rw [exact_right _ first shallow second, ← low_intMax_iff]
  apply (exactOn_flag (fun v => (BitVec.ofInt 32 x).slt v)
    (ofInt_apply .less x (Operation.encodes y (by decide))).symm).trans
  constructor
  · intro known
    exact slt_right_const (by decide) known
  · intro half u
    rw [half, intMax_slt, intMax_slt]

theorem less_both (first : IsStack x) (second : IsStack y) :
    Operation.less.Exact x y (Operation.less.apply x y) ↔ low x = low y := by
  have own := ofInt_apply .less x (Operation.encodes y (by decide))
  rw [exact_both _ first second, ← low_eq_iff]
  apply (exactOn_flag
    (fun s => (s + BitVec.ofInt 32 x).slt (s + BitVec.ofInt 32 y))
    (by simpa [Operation.word, Operation.apply] using own.symm)).trans
  constructor
  · intro known
    exact slt_translates (by decide) known
  · intro same s
    simp [same, BitVec.slt]

theorem lessUnsigned_left (first : IsStack x) (second : ¬IsStack y) (shallow : -(2 ^ 32) ≤ y) :
    Operation.lessUnsigned.Exact x y (Operation.lessUnsigned.apply x y) ↔ low y = 0 := by
  rw [exact_left _ first second shallow, ← low_zero_iff]
  apply (exactOn_flag (fun u => u.ult (BitVec.ofInt 32 y))
    (ofInt_apply .lessUnsigned x (Operation.encodes y (by decide))).symm).trans
  constructor
  · intro known
    exact ult_left_const known
  · intro zero u
    rw [zero, ult_zero, ult_zero]

theorem lessUnsigned_right (first : ¬IsStack x) (shallow : -(2 ^ 32) ≤ x) (second : IsStack y) :
    Operation.lessUnsigned.Exact x y (Operation.lessUnsigned.apply x y) ↔
      low x = 2 ^ 32 - 1 := by
  rw [exact_right _ first shallow second, ← low_allOnes_iff]
  apply (exactOn_flag (fun v => (BitVec.ofInt 32 x).ult v)
    (ofInt_apply .lessUnsigned x (Operation.encodes y (by decide))).symm).trans
  constructor
  · intro known
    exact ult_right_const known
  · intro ones u
    rw [ones, allOnes_ult, allOnes_ult]

theorem lessUnsigned_both (first : IsStack x) (second : IsStack y) :
    Operation.lessUnsigned.Exact x y (Operation.lessUnsigned.apply x y) ↔ low x = low y := by
  have own := ofInt_apply .lessUnsigned x (Operation.encodes y (by decide))
  rw [exact_both _ first second, ← low_eq_iff]
  apply (exactOn_flag
    (fun s => (s + BitVec.ofInt 32 x).ult (s + BitVec.ofInt 32 y))
    (by simpa [Operation.word, Operation.apply] using own.symm)).trans
  constructor
  · intro known
    exact ult_translates known
  · intro same s
    simp [same, BitVec.ult]

end Comparisons

/-! ## Two stack addresses -/

section Two

variable {x y : Int} (first : IsStack x) (second : IsStack y)

include first second

theorem add_both : ¬Operation.add.Exact x y (x + y) := by
  have stack : IsStack (x + y) := by
    simp only [IsStack] at first second ⊢
    omega
  rw [exact_both _ first second, ExactOn, if_pos stack]
  exact add_translates (by decide)

theorem sub_both : Operation.sub.Exact x y (x - y) ↔ ¬IsStack (x - y) ∧ ¬IsToken (x - y) := by
  have same (s : Word) : (s + BitVec.ofInt 32 x) - (s + BitVec.ofInt 32 y) =
      BitVec.ofInt 32 (x - y) := by
    rw [ofInt_sub]
    grind
  rw [exact_both _ first second, ExactOn]
  simp only [Operation.word, same]
  split
  · next stack =>
      apply iff_of_false
      · intro known
        apply add_not_const (w := 32) (by decide)
        intro s
        exact (known s).symm
      · intro plain
        exact plain.1 stack
  · next plain => simp [plain]

theorem and_both :
    Operation.and.Exact x y (x.land y) ↔ low x = low y ∧ IsStack (x.land y) := by
  rw [exact_both _ first second, ExactOn]
  split
  · next stack =>
      constructor
      · intro known
        exact ⟨low_eq_iff.mp (and_translates known), stack⟩
      · intro same s
        simp only [Operation.word, ofInt_land, low_eq_iff.mpr same.1, BitVec.and_self]
        grind
  · next plain =>
      apply iff_of_false
      · intro known
        exact and_translates_not_const (by decide) known.2
      · intro same
        exact plain same.2

theorem or_both : Operation.or.Exact x y (x.lor y) ↔ low x = low y := by
  have stack : IsStack (x.lor y) := by
    simp only [IsStack] at first second ⊢
    have := le_lor (show 0 ≤ x by omega) (show 0 ≤ y by omega)
    omega
  rw [exact_both _ first second, ExactOn, if_pos stack]
  constructor
  · intro known
    exact low_eq_iff.mp (or_translates known)
  · intro same s
    simp only [Operation.word, ofInt_lor, low_eq_iff.mpr same, BitVec.or_self]
    grind

theorem xor_both :
    Operation.xor.Exact x y (x.xor y) ↔
      (low x = low y ∨ low x = low (y + 2 ^ 31)) ∧ ¬IsStack (x.xor y) := by
  have half : BitVec.ofInt 32 (y + 2 ^ 31) = BitVec.ofInt 32 y + BitVec.intMin 32 := by
    rw [BitVec.ofInt_add]
    rfl
  rw [exact_both _ first second, ExactOn, ← low_eq_iff, ← low_eq_iff, half]
  split
  · next stack =>
      apply iff_of_false
      · exact xor_translates_not_translate (by decide)
      · intro same
        exact same.2 stack
  · next plain =>
      have positive : -(2 ^ 32) ≤ x.xor y := by
        simp only [IsStack] at first second
        have := xor_nonneg (show 0 ≤ x by omega) (show 0 ≤ y by omega)
        omega
      constructor
      · intro known
        exact ⟨xor_translates_const known.2, plain⟩
      · intro same
        refine ⟨not_isToken_of_le positive, fun s => ?_⟩
        rw [ofInt_xor, Operation.word]
        cases same.1 with
        | inl equal => rw [equal, BitVec.xor_self, BitVec.xor_self]
        | inr apart =>
            rw [apart, ← BitVec.add_assoc, add_intMin_xor, add_intMin_xor]

end Two

/-! ## Shifts -/

theorem low_shiftRight (x : Int) (n : Nat) : 0 ≤ low x >>> n ∧ low x >>> n < 2 ^ 32 := by
  rw [Int.shiftRight_eq_div_pow]
  constructor
  · exact Int.ediv_nonneg (low_nonneg x) (Int.natCast_nonneg _)
  · exact Int.lt_of_le_of_lt (Int.ediv_le_self _ (low_nonneg x)) (low_lt x)

section Shifts

variable {x y : Int} (first : IsStack x) (amount : 0 ≤ y ∧ y < 32)

include first amount

theorem shiftLeft_left : Operation.shiftLeft.Exact x y (x <<< y.toNat) ↔ y = 0 := by
  have stack : IsStack (x <<< y.toNat) := by
    have positive := Nat.pow_pos (n := y.toNat) (show 0 < 2 by decide)
    rw [IsStack] at first ⊢
    rw [Int.shiftLeft_eq]
    have := Int.mul_le_mul_of_nonneg_left (show (1 : Int) ≤ 2 ^ y.toNat by exact_mod_cast positive)
      (show 0 ≤ x by omega)
    omega
  rw [exact_left _ first (by simp only [IsStack]; omega) (by omega), ExactOn, if_pos stack]
  simp only [Operation.word, toNat_ofInt_amount amount]
  constructor
  · intro known
    have := shiftLeft_translate (by decide) known
    omega
  · intro zero u
    subst zero
    simp

theorem shiftRight_left : ¬Operation.shiftRight.Exact x y (low x >>> y.toNat) := by
  have plain : ¬IsStack (low x >>> y.toNat) := by
    have := low_shiftRight x y.toNat
    rw [IsStack]
    omega
  rw [exact_left _ first (by simp only [IsStack]; omega) (by omega), ExactOn, if_neg plain]
  simp only [Operation.word, toNat_ofInt_amount amount]
  intro known
  have := shiftRight_const known.2
  omega

end Shifts

/-! ## No stack address -/

theorem plain_of_page {z : Int} (page : z >>> (32 : Nat) = 0 ∨ z >>> (32 : Nat) = -1) :
    ¬IsStack z ∧ ¬IsToken z := by
  constructor
  · rw [isStack_iff_page]
    omega
  · rw [Int.shiftRight_eq_div_pow] at page
    apply not_isToken_of_le
    omega

theorem faithful_neither (op : Operation) {x y : Int} (first : ¬IsStack x)
    (shallow : -(2 ^ 32) ≤ x) (second : ¬IsStack y) (shallow' : -(2 ^ 32) ≤ y)
    (encodes : op.Encodes y) (bottom : x = -(2 ^ 32) ∨ y = -(2 ^ 32)) :
    op.Exact x y (op.apply x y) ↔ op.Faithful x y := by
  rw [exact_neither op first shallow second shallow' encodes]
  have pages := page_of_not_isStack first shallow
  have pages' := page_of_not_isStack second shallow'
  cases op with
  | add =>
      simp only [Operation.apply, Operation.Faithful, byKind_neither first second, iff_true]
      simp only [IsStack] at first second
      constructor
      · simp only [IsStack]
        omega
      · intro token
        have := token.1
        simp only [returnToken] at this
        omega
  | sub =>
      simp only [Operation.apply, Operation.Faithful, byKind_neither first second]
      apply and_iff_left
      intro token
      have := token.1
      simp only [IsStack] at second
      simp only [returnToken] at this
      omega
  | and =>
      simp only [Operation.apply, Operation.Faithful, byKind_neither first second, iff_true]
      apply plain_of_page
      rw [shiftRight_land]
      cases pages' with
      | inl zero => simp [zero.1]
      | inr minus => simp only [minus.1, land_neg_one]; omega
  | or =>
      simp only [Operation.apply, Operation.Faithful, byKind_neither first second, iff_true]
      apply plain_of_page
      rw [shiftRight_lor]
      cases pages' with
      | inl zero => simp only [zero.1, lor_zero]; omega
      | inr minus => simp [minus.1]
  | xor =>
      simp only [Operation.apply, Operation.Faithful, byKind_neither first second, iff_true]
      apply plain_of_page
      rw [shiftRight_xor]
      cases pages' with
      | inl zero => simp only [zero.1, xor_zero]; omega
      | inr minus => simp only [minus.1, xor_neg_one]; omega
  | shiftLeft =>
      have amount := encodes (.inl rfl)
      simp only [Operation.apply, Operation.Faithful, byKind_neither first second]
      have deepest : x = -(2 ^ 32) := by omega
      subst deepest
      have lower := amount.1
      have upper := amount.2
      clear encodes bottom pages pages' shallow shallow' first second amount
      interval_cases y <;> decide
  | shiftRight =>
      have := low_shiftRight x y.toNat
      simp only [Operation.apply, Operation.Faithful, byKind_neither first second, iff_true]
      constructor
      · simp only [IsStack]
        omega
      · apply not_isToken_of_le
        omega
  | less =>
      have bit := (isBit_ite (signed x < signed y)).plain
      simp only [Operation.apply, Operation.Faithful, byKind_neither first second, iff_true]
      exact ⟨bit.1, not_isToken_of_le bit.2⟩
  | lessUnsigned =>
      have bit := (isBit_ite (low x < low y)).plain
      simp only [Operation.apply, Operation.Faithful, byKind_neither first second, iff_true]
      exact ⟨bit.1, not_isToken_of_le bit.2⟩

theorem faithful_left (op : Operation) {x y : Int} (first : IsStack x) (second : ¬IsStack y)
    (shallow : -(2 ^ 32) ≤ y) (encodes : op.Encodes y) :
    op.Exact x y (op.apply x y) ↔ op.Faithful x y := by
  cases op with
  | add => exact (add_left first second shallow).trans (byKind_left first second).symm
  | sub => exact (sub_left first second shallow).trans (byKind_left first second).symm
  | and => exact (and_left first second shallow).trans (byKind_left first second).symm
  | or => exact (or_left first second shallow).trans (byKind_left first second).symm
  | xor => exact (xor_left first second shallow).trans (byKind_left first second).symm
  | shiftLeft =>
      exact (shiftLeft_left first (encodes (.inl rfl))).trans (byKind_left first second).symm
  | shiftRight =>
      exact iff_of_false (shiftRight_left first (encodes (.inr rfl))) (byKind_left first second).mp
  | less => exact (less_left first second shallow).trans (byKind_left first second).symm
  | lessUnsigned =>
      exact (lessUnsigned_left first second shallow).trans (byKind_left first second).symm

theorem not_isStack_of_amount {y : Int} (amount : 0 ≤ y ∧ y < 32) : ¬IsStack y := by
  simp only [IsStack]
  omega

theorem faithful_right (op : Operation) {x y : Int} (first : ¬IsStack x)
    (shallow : -(2 ^ 32) ≤ x) (second : IsStack y) (encodes : op.Encodes y) :
    op.Exact x y (op.apply x y) ↔ op.Faithful x y := by
  have right (swapped : Operation.Exact op y x (op.apply x y) ↔ op.Faithful x y)
      (comm : ∀ u v, op.word u v = op.word v u) : op.Exact x y (op.apply x y) ↔ op.Faithful x y :=
    (exact_comm op comm).trans swapped
  cases op with
  | add =>
      apply right _ BitVec.add_comm
      rw [Operation.apply, Int.add_comm]
      exact (add_left second first shallow).trans
        ((byKind_right first second).trans (by rw [Int.add_comm])).symm
  | sub => exact iff_of_false (sub_right second first shallow) (byKind_right first second).mp
  | and =>
      apply right _ BitVec.and_comm
      rw [Operation.apply, land_comm]
      exact (and_left second first shallow).trans (byKind_right first second).symm
  | or =>
      apply right _ BitVec.or_comm
      rw [Operation.apply, lor_comm]
      exact (or_left second first shallow).trans (byKind_right first second).symm
  | xor =>
      apply right _ BitVec.xor_comm
      rw [Operation.apply, Words.xor_comm]
      exact (xor_left second first shallow).trans (byKind_right first second).symm
  | shiftLeft => exact absurd second (not_isStack_of_amount (encodes (.inl rfl)))
  | shiftRight => exact absurd second (not_isStack_of_amount (encodes (.inr rfl)))
  | less => exact (less_right first shallow second).trans (byKind_right first second).symm
  | lessUnsigned =>
      exact (lessUnsigned_right first shallow second).trans (byKind_right first second).symm

theorem faithful_both (op : Operation) {x y : Int} (first : IsStack x) (second : IsStack y)
    (encodes : op.Encodes y) : op.Exact x y (op.apply x y) ↔ op.Faithful x y := by
  cases op with
  | add => exact iff_of_false (add_both first second) (byKind_both first second).mp
  | sub => exact (sub_both first second).trans (byKind_both first second).symm
  | and => exact (and_both first second).trans (byKind_both first second).symm
  | or => exact (or_both first second).trans (byKind_both first second).symm
  | xor => exact (xor_both first second).trans (byKind_both first second).symm
  | shiftLeft => exact absurd second (not_isStack_of_amount (encodes (.inl rfl)))
  | shiftRight => exact absurd second (not_isStack_of_amount (encodes (.inr rfl)))
  | less => exact (less_both first second).trans (byKind_both first second).symm
  | lessUnsigned => exact (lessUnsigned_both first second).trans (byKind_both first second).symm

/-- Pairs of words are combined as the instruction does, and of the others exactly the
faithful ones. -/
theorem combine_exact (op : Operation) {x y : Int} (shallow : -(2 ^ 32) ≤ x)
    (shallow' : -(2 ^ 32) ≤ y) (encodes : op.Encodes y) :
    op.Exact x y (combine op.apply x y) ↔
      ¬IsLarge x ∧ ¬IsLarge y ∨ op.Faithful x y := by
  by_cases small : ¬IsLarge x ∧ ¬IsLarge y
  · exact iff_of_true (exact_of_small op encodes small.1 small.2) (.inl small)
  · have large : IsLarge x ∨ IsLarge y := by
      simpa [not_and_or, -not_and] using small
    rw [combine_of_isLarge large, or_iff_right small]
    rw [isLarge_iff shallow, isLarge_iff shallow'] at large
    by_cases first : IsStack x
    · by_cases second : IsStack y
      · exact faithful_both op first second encodes
      · exact faithful_left op first second shallow' encodes
    · by_cases second : IsStack y
      · exact faithful_right op first shallow second encodes
      · apply faithful_neither op first shallow second shallow' encodes
        simpa [first, second] using large

end AxolotyEmbedded.Interval
