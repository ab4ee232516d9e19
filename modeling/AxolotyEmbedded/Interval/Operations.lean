import AxolotyEmbedded.Interval.Reading

/-!
The RV32 instructions of the operations, and for each operation the pairs of members whose
combination stands for the word that the instruction computes.
-/
namespace AxolotyEmbedded.Interval

open Words

def flag (answer : Bool) : Word := if answer then 1#32 else 0#32

theorem ofInt_flag (p : Prop) [Decidable p] :
    BitVec.ofInt 32 (if p then 1 else 0) = flag (decide p) := by
  by_cases holds : p
  · simp [flag, holds]
  · simp [flag, holds]

/-- The RV32 instruction of an operation. A shift is by less than 32. -/
def Operation.word : Operation → Word → Word → Word
  | .add, u, v => u + v
  | .sub, u, v => u - v
  | .and, u, v => u &&& v
  | .or, u, v => u ||| v
  | .xor, u, v => u ^^^ v
  | .shiftLeft, u, v => u <<< v.toNat
  | .shiftRight, u, v => u >>> v.toNat
  | .less, u, v => flag (u.slt v)
  | .lessUnsigned, u, v => flag (u.ult v)

def Operation.Shifts (op : Operation) : Prop := op = .shiftLeft ∨ op = .shiftRight

/-- A shift is by an amount that the instruction can encode. -/
def Operation.Encodes (op : Operation) (y : Int) : Prop := op.Shifts → 0 ≤ y ∧ y < 32

instance Operation.decidableShifts (op : Operation) : Decidable op.Shifts :=
  inferInstanceAs (Decidable (_ ∨ _))

theorem Operation.encodes {op : Operation} (y : Int) (free : ¬op.Shifts) : op.Encodes y :=
  fun shifts => absurd shifts free

theorem low_nonneg (x : Int) : 0 ≤ low x := Int.emod_nonneg x (by decide)

theorem low_lt (x : Int) : low x < 2 ^ 32 := Int.emod_lt_of_pos x (by decide)

theorem signed_eq_bmod (x : Int) : signed x = x.bmod (2 ^ 32) := by
  by_cases small : low x < 0x80000000
  · rw [signed, if_pos small, Int.bmod_def, if_pos (by simp only [low] at small; omega)]
    rfl
  · rw [signed, if_neg small, Int.bmod_def, if_neg (by simp only [low] at small; omega)]
    rfl

theorem toNat_ofInt_amount {y : Int} (amount : 0 ≤ y ∧ y < 32) :
    (BitVec.ofInt 32 y).toNat = y.toNat := by
  have := toNat_ofInt (w := 32) y
  omega

/-- On words an operation of the analysis is the instruction. -/
theorem ofInt_apply (op : Operation) (x : Int) {y : Int} (encodes : op.Encodes y) :
    BitVec.ofInt 32 (op.apply x y) = op.word (BitVec.ofInt 32 x) (BitVec.ofInt 32 y) := by
  cases op with
  | add => exact BitVec.ofInt_add x y
  | sub => exact ofInt_sub x y
  | and => exact ofInt_land x y
  | or => exact ofInt_lor x y
  | xor => exact ofInt_xor x y
  | shiftLeft =>
      simp only [Operation.apply, Operation.word, toNat_ofInt_amount (encodes (.inl rfl))]
      exact ofInt_shiftLeft x y.toNat
  | shiftRight =>
      simp only [Operation.apply, Operation.word, toNat_ofInt_amount (encodes (.inr rfl))]
      exact ofInt_shiftRight x y.toNat
  | less =>
      simp only [Operation.apply, Operation.word, ofInt_flag, slt_ofInt, signed_eq_bmod]
  | lessUnsigned =>
      simp only [Operation.apply, Operation.word, ofInt_flag]
      exact congrArg flag (ult_ofInt x y).symm

/-! ## Members that are no words -/

/-- The results of one operation on two members are the words that `z` stands for. -/
def Operation.Exact (op : Operation) (x y z : Int) : Prop :=
  ∀ reading : Reading, reading.word z = op.word (reading.word x) (reading.word y)

/-- The word of a member that is no token. -/
def atEntry (x : Int) (s : Word) : Word :=
  if IsStack x then s + BitVec.ofInt 32 x else BitVec.ofInt 32 x

theorem word_of_shallow (reading : Reading) {x : Int} (shallow : -(2 ^ 32) ≤ x) :
    reading.word x = atEntry x reading.entrySp := by
  rw [atEntry]
  split
  · next stack => exact word_of_isStack reading stack
  · next plain => exact word_of_plain reading (not_isToken_of_le shallow) plain

theorem exact_iff (op : Operation) {x y : Int} (z : Int) (first : -(2 ^ 32) ≤ x)
    (second : -(2 ^ 32) ≤ y) :
    op.Exact x y z ↔
      if IsStack z then ∀ s, s + BitVec.ofInt 32 z = op.word (atEntry x s) (atEntry y s)
      else ¬IsToken z ∧ ∀ s, BitVec.ofInt 32 z = op.word (atEntry x s) (atEntry y s) := by
  rw [← word_eq_iff fun s => op.word (atEntry x s) (atEntry y s)]
  apply forall_congr'
  intro reading
  rw [word_of_shallow reading first, word_of_shallow reading second]

/-- Both operands that are words are combined without being cut to a word. -/
theorem combine_of_isLarge {operation : Int → Int → Int} {x y : Int}
    (large : IsLarge x ∨ IsLarge y) : combine operation x y = operation x y := if_pos large

theorem isLarge_iff {x : Int} (shallow : -(2 ^ 32) ≤ x) :
    IsLarge x ↔ IsStack x ∨ x = -(2 ^ 32) := by
  simp only [IsLarge, IsStack]
  omega

theorem exact_of_small (op : Operation) {x y : Int} (encodes : op.Encodes y)
    (first : ¬IsLarge x) (second : ¬IsLarge y) : op.Exact x y (combine op.apply x y) := by
  have ordinary {z : Int} (small : ¬IsLarge z) : ¬IsToken z ∧ ¬IsStack z := by
    simp only [IsLarge] at small
    exact ⟨not_isToken_of_le (by omega), by simp only [IsStack]; omega⟩
  have inside : ¬IsLarge (low (op.apply x y)) := by
    have := low_nonneg (op.apply x y)
    have := low_lt (op.apply x y)
    simp only [IsLarge]
    omega
  intro reading
  rw [combine, if_neg (not_or.mpr ⟨first, second⟩),
    word_of_plain reading (ordinary inside).1 (ordinary inside).2,
    word_of_plain reading (ordinary first).1 (ordinary first).2,
    word_of_plain reading (ordinary second).1 (ordinary second).2, ← ofInt_apply op x encodes,
    ofInt_eq_iff]
  exact Int.emod_emod_of_dvd _ (Int.dvd_refl _)

section Kinds

variable (op : Operation) {x y z : Int}

/-- On an unknown word and a known one. -/
def ExactOn (f : Word → Word) (offset : Word) (z : Int) : Prop :=
  if IsStack z then ∀ u, f u = u + (BitVec.ofInt 32 z - offset)
  else ¬IsToken z ∧ ∀ u, f u = BitVec.ofInt 32 z

theorem exactOn_iff (f : Word → Word) (offset : Word) :
    ExactOn f offset z ↔
      if IsStack z then ∀ s, s + BitVec.ofInt 32 z = f (s + offset)
      else ¬IsToken z ∧ ∀ s, BitVec.ofInt 32 z = f (s + offset) := by
  have every {p : Word → Prop} : (∀ u, p u) ↔ ∀ s, p (s + offset) := by
    constructor
    · intro all s
      exact all (s + offset)
    · intro all u
      have here := all (u - offset)
      rwa [BitVec.sub_add_cancel] at here
  rw [ExactOn]
  split
  · rw [every]
    apply forall_congr'
    intro s
    rw [eq_comm]
    apply Eq.congr_left
    grind
  · rw [every]
    apply and_congr_right'
    apply forall_congr'
    intro s
    exact eq_comm

theorem exact_left (first : IsStack x) (second : ¬IsStack y) (shallow : -(2 ^ 32) ≤ y) :
    op.Exact x y z ↔
      ExactOn (fun u => op.word u (BitVec.ofInt 32 y)) (BitVec.ofInt 32 x) z := by
  have above : -(2 ^ 32) ≤ x := by
    simp only [IsStack] at first
    omega
  simp only [exact_iff op z above shallow, exactOn_iff, atEntry, if_pos first, if_neg second]

theorem exact_right (first : ¬IsStack x) (shallow : -(2 ^ 32) ≤ x) (second : IsStack y) :
    op.Exact x y z ↔
      ExactOn (fun v => op.word (BitVec.ofInt 32 x) v) (BitVec.ofInt 32 y) z := by
  have above : -(2 ^ 32) ≤ y := by
    simp only [IsStack] at second
    omega
  simp only [exact_iff op z shallow above, exactOn_iff, atEntry, if_neg first, if_pos second]

theorem exact_both (first : IsStack x) (second : IsStack y) :
    op.Exact x y z ↔
      ExactOn (fun s => op.word (s + BitVec.ofInt 32 x) (s + BitVec.ofInt 32 y)) 0 z := by
  have above {n : Int} (stack : IsStack n) : -(2 ^ 32) ≤ n := by
    simp only [IsStack] at stack
    omega
  simp only [exact_iff op z (above first) (above second), exactOn_iff, atEntry, if_pos first,
    if_pos second, BitVec.ofNat_eq_ofNat, BitVec.add_zero]

theorem exact_neither (first : ¬IsStack x) (shallow : -(2 ^ 32) ≤ x) (second : ¬IsStack y)
    (shallow' : -(2 ^ 32) ≤ y) (encodes : op.Encodes y) :
    op.Exact x y (op.apply x y) ↔ ¬IsStack (op.apply x y) ∧ ¬IsToken (op.apply x y) := by
  simp only [exact_iff op _ shallow shallow', atEntry, if_neg first, if_neg second,
    ofInt_apply op x encodes]
  split
  · next stack =>
      apply iff_of_false
      · exact add_not_const (by decide)
      · intro plain
        exact plain.1 stack
  · next plain => simp [plain]

end Kinds

end AxolotyEmbedded.Interval
