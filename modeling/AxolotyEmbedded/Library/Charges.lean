import Mathlib.Algebra.BigOperators.Group.Finset.Basic
import Mathlib.Algebra.GroupWithZero.Nat
import AxolotyEmbedded.Library.Ranges

/-!
A pass that charges each key once: the first member of a key carries its weight, the later
ones carry nothing. The sum of the charges is the sum of the weights of the keys, in whatever
order the members come.
-/
namespace AxolotyEmbedded.Charges

variable {α κ : Type} [DecidableEq κ] (key : α → κ) (weight : κ → Nat)

/-- The charges of a list whose keys `seen` are charged already. -/
def charges (seen : List κ) : List α → List Nat
  | [] => []
  | a :: rest => (if key a ∈ seen then 0 else weight (key a)) :: charges (key a :: seen) rest

theorem sum_charges (seen : List κ) (list : List α) :
    (charges key weight seen list).sum =
      ∑ k ∈ (list.map key).toFinset \ seen.toFinset, weight k := by
  induction list generalizing seen with
  | nil => simp [charges]
  | cons a rest ih =>
      rw [charges, List.sum_cons, ih, List.map_cons, List.toFinset_cons, List.toFinset_cons]
      by_cases charged : key a ∈ seen
      · have old : key a ∈ seen.toFinset := List.mem_toFinset.mpr charged
        rw [if_pos charged, Nat.zero_add, Finset.insert_eq_of_mem old,
          Finset.insert_sdiff_of_mem _ old]
      · have new : key a ∉ seen.toFinset := fun old => charged (List.mem_toFinset.mp old)
        have apart : key a ∉ (rest.map key).toFinset \ insert (key a) seen.toFinset := by simp
        rw [if_neg charged, ← Finset.sum_insert apart]
        apply Finset.sum_congr _ fun _ _ => rfl
        ext k
        simp only [Finset.mem_insert, Finset.mem_sdiff]
        by_cases same : k = key a
        · simp [same, new]
        · simp [same]

/-! ## Sets of bytes -/

section Bytes

variable {ι β : Type} [DecidableEq ι] [DecidableEq β] {keys : Finset ι} {bytes : ι → Finset β}

/-- The sizes of some sets add up to the size of their union only where no two meet. -/
theorem sum_card_eq_card_biUnion :
    ∑ k ∈ keys, (bytes k).card = (keys.biUnion bytes).card ↔
      ∀ first ∈ keys, ∀ second ∈ keys, first ≠ second → Disjoint (bytes first) (bytes second) := by
  constructor
  · intro exactly first firstHeld second secondHeld differ
    rw [Finset.disjoint_left]
    intro byte inFirst inSecond
    have rest : second ∈ keys.erase first := Finset.mem_erase.mpr ⟨differ.symm, secondHeld⟩
    have split : keys.biUnion bytes = bytes first ∪ (keys.erase first).biUnion bytes := by
      rw [← Finset.biUnion_insert, Finset.insert_erase firstHeld]
    have shared : byte ∈ bytes first ∩ (keys.erase first).biUnion bytes :=
      Finset.mem_inter.mpr ⟨inFirst, Finset.mem_biUnion.mpr ⟨second, rest, inSecond⟩⟩
    have counted := Finset.card_union_add_card_inter (bytes first) ((keys.erase first).biUnion bytes)
    have positive := Finset.card_pos.mpr ⟨byte, shared⟩
    have bound : ((keys.erase first).biUnion bytes).card ≤ ∑ k ∈ keys.erase first, (bytes k).card :=
      Finset.card_biUnion_le
    rw [← Finset.add_sum_erase keys _ firstHeld, split] at exactly
    omega
  · intro apart
    exact (Finset.card_biUnion apart).symm

end Bytes

end AxolotyEmbedded.Charges
