import Mathlib.Data.List.Sort

/-!
Sorting by a number, where equal members keep their order: what is left of the sorted list
under one number stands as it stood before.
-/
namespace AxolotyEmbedded.StableSort

variable {α : Type} {key : α → Nat} {list : List α} {p : α → Bool}

/-! ## Lists that hold their good members first -/

theorem takeWhile_eq_filter (first : list.Pairwise fun a b => p b = true → p a = true) :
    list.takeWhile p = list.filter p := by
  induction list with
  | nil => rfl
  | cons a rest ih =>
      obtain ⟨below, later⟩ := List.pairwise_cons.mp first
      by_cases good : p a = true
      · rw [List.takeWhile_cons_of_pos good, List.filter_cons_of_pos good, ih later]
      · rw [List.takeWhile_cons_of_neg good, List.filter_cons_of_neg good, eq_comm,
          List.filter_eq_nil_iff]
        exact fun b held bad => good (below b held bad)

theorem dropWhile_eq_filter (first : list.Pairwise fun a b => p b = true → p a = true) :
    list.dropWhile p = list.filter fun a => !p a := by
  induction list with
  | nil => rfl
  | cons a rest ih =>
      obtain ⟨below, later⟩ := List.pairwise_cons.mp first
      by_cases good : p a = true
      · rw [List.dropWhile_cons_of_pos good, List.filter_cons_of_neg (by simp [good]), ih later]
      · rw [List.dropWhile_cons_of_neg good, List.filter_cons_of_pos (by simpa using good),
          List.filter_eq_self.mpr]
        exact fun b held => by simpa using fun bad => good (below b held bad)

/-! ## Sorting -/

theorem pairwise_insertionSort (key : α → Nat) (list : List α) :
    (list.insertionSort fun a b => key a ≤ key b).Pairwise fun a b => key a ≤ key b := by
  have total : Std.Total fun a b : α => key a ≤ key b := ⟨fun a b => Nat.le_total _ _⟩
  have trans : IsTrans α fun a b => key a ≤ key b := ⟨fun a b c => Nat.le_trans⟩
  exact List.pairwise_insertionSort _ list

theorem insertionSort_eq_self (sorted : list.Pairwise fun a b => key a ≤ key b) :
    (list.insertionSort fun a b => key a ≤ key b) = list :=
  List.Pairwise.insertionSort_eq sorted

/-- Members under one number keep their order. -/
theorem filter_insertionSort (key : α → Nat) (list : List α) (value : Nat) :
    (list.insertionSort fun a b => key a ≤ key b).filter (fun a => key a = value) =
      list.filter fun a => key a = value := by
  have equalKeys : (list.filter fun a => key a = value).Pairwise fun a b => key a ≤ key b :=
    List.pairwise_of_forall_mem_list fun a inA b inB => by
      have first := of_decide_eq_true (List.mem_filter.mp inA).2
      have second := of_decide_eq_true (List.mem_filter.mp inB).2
      omega
  have kept := (List.sublist_insertionSort equalKeys List.filter_sublist).filter
    fun a => key a = value
  simp only [List.filter_filter, Bool.and_self] at kept
  have count := ((List.perm_insertionSort (fun a b => key a ≤ key b) list).filter
    fun a => key a = value).length_eq
  exact (kept.eq_of_length count.symm).symm

end AxolotyEmbedded.StableSort
