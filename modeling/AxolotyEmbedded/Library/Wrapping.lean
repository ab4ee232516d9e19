import Mathlib.Data.Nat.ModEq

/-!
Counters that wrap. A `BitVec w` counter stands for the natural number of
times it was advanced, and two such numbers that are less than `2 ^ w` apart
are told apart, and their distance read off, by the wrapped words alone.
Positions of a ring of `2 ^ k` slots with `k ≤ w` are read off a word too.
-/
namespace AxolotyEmbedded.Wrapping

theorem ofNat_succ (w a : Nat) :
    BitVec.ofNat w (a + 1) = BitVec.ofNat w a + 1 := by
  rw [BitVec.ofNat_add]; rfl

/-- The wrapped difference is the true distance while it fits the word. -/
theorem toNat_ofNat_sub {w a b : Nat} (le : b ≤ a) (near : a - b < 2 ^ w) :
    (BitVec.ofNat w a - BitVec.ofNat w b).toNat = a - b := by
  have hsum : BitVec.ofNat w a = BitVec.ofNat w (a - b) + BitVec.ofNat w b := by
    rw [BitVec.ofNat_add_ofNat, Nat.sub_add_cancel le]
  rw [hsum, BitVec.add_sub_cancel, BitVec.toNat_ofNat, Nat.mod_eq_of_lt near]

/-- Two counts that are less than `2 ^ w` apart and show the same word are equal. -/
theorem eq_of_ofNat_eq {w a b : Nat} (le : b ≤ a) (near : a < b + 2 ^ w)
    (same : BitVec.ofNat w a = BitVec.ofNat w b) : a = b := by
  have hdist : (BitVec.ofNat w a - BitVec.ofNat w b).toNat = a - b :=
    toNat_ofNat_sub le (by omega)
  rw [same, BitVec.sub_self] at hdist
  simp only [BitVec.toNat_zero] at hdist
  omega

theorem ofNat_eq_iff {w a b : Nat} (le : b ≤ a) (near : a < b + 2 ^ w) :
    BitVec.ofNat w a = BitVec.ofNat w b ↔ a = b :=
  ⟨eq_of_ofNat_eq le near, fun same => by rw [same]⟩

/-- The slot a wrapped count selects in a ring whose size divides `2 ^ w`. -/
theorem toNat_ofNat_mod {w k : Nat} (le : k ≤ w) (a : Nat) :
    (BitVec.ofNat w a).toNat % 2 ^ k = a % 2 ^ k := by
  rw [BitVec.toNat_ofNat, Nat.mod_mod_of_dvd _ (Nat.pow_dvd_pow 2 le)]

/-- Distinct positions of one window no longer than the ring use distinct slots. -/
theorem slot_ne {n base p q : Nat} (hp : base ≤ p ∧ p < base + n)
    (hq : base ≤ q ∧ q < base + n) (ne : p ≠ q) : p % n ≠ q % n := by
  intro same
  have hdvd : ∀ {a b : Nat}, a ≤ b → a % n = b % n → n ∣ b - a :=
    fun le eq => (Nat.modEq_iff_dvd' le).mp eq
  rcases Nat.lt_or_gt_of_ne ne with lt | lt
  · have := Nat.le_of_dvd (by omega) (hdvd (Nat.le_of_lt lt) same)
    omega
  · have := Nat.le_of_dvd (by omega) (hdvd (Nat.le_of_lt lt) same.symm)
    omega

theorem toNat_succ_lt {w : Nat} {word : BitVec w} (ne : word ≠ BitVec.allOnes w) :
    word.toNat + 1 < 2 ^ w := by
  have bound := word.isLt
  refine Nat.lt_of_le_of_ne bound fun last => ne (BitVec.eq_of_toNat_eq ?_)
  rw [BitVec.toNat_allOnes]
  omega

/-- Only the largest word wraps. -/
theorem toNat_succ {w : Nat} {word : BitVec w} (ne : word ≠ BitVec.allOnes w) :
    (word + 1).toNat = word.toNat + 1 := by
  have room := toNat_succ_lt ne
  have one : (1 : BitVec w).toNat = 1 % 2 ^ w := BitVec.toNat_ofNat ..
  rw [BitVec.toNat_add, one, Nat.add_mod_mod, Nat.mod_eq_of_lt room]

end AxolotyEmbedded.Wrapping
