import AxolotyEmbedded.Library.Checked

/-!
Passes that collect: when nothing is collected, a pass that keeps the members that pass a
check which may raise, and a pass that yields at most one value for a member.
-/
namespace AxolotyEmbedded.Checked

variable {ε α β : Type} {yield : α → Except ε (List β)} {list : List α}

theorem collect_eq_nil : collect yield list = .ok [] ↔ ∀ a ∈ list, yield a = .ok [] := by
  induction list with
  | nil => simp [collect]
  | cons a rest ih =>
      rw [collect_cons, List.forall_mem_cons, ← ih]
      constructor
      · intro collected
        obtain ⟨here, yielded, later, more, joined⟩ := collected
        obtain ⟨rfl, rfl⟩ := List.append_eq_nil_iff.mp joined
        exact ⟨yielded, more⟩
      · intro both
        exact ⟨[], both.1, [], both.2, rfl⟩

/-- What a member yields is collected. -/
theorem subset_of_collect {a : α} {all : List β} (collected : collect yield list = .ok all)
    (member : a ∈ list) : ∃ here, yield a = .ok here ∧ here ⊆ all := by
  induction list generalizing all with
  | nil => exact absurd member List.not_mem_nil
  | cons first rest ih =>
      obtain ⟨here, yielded, later, more, rfl⟩ := collect_cons.mp collected
      obtain rfl | member := List.mem_cons.mp member
      · exact ⟨here, yielded, List.subset_append_left _ _⟩
      · obtain ⟨there, yields, inside⟩ := ih more member
        exact ⟨there, yields, List.subset_append_of_subset_right _ inside⟩

/-- The members that pass a check, or the exception of the first one that raises. -/
def filterChecked (passes : α → Except ε Bool) (list : List α) : Except ε (List α) :=
  collect (fun a => do return if ← passes a then [a] else []) list

variable {passes : α → Except ε Bool} {kept : List α}

theorem filterChecked_cons {a : α} :
    filterChecked passes (a :: list) = .ok kept ↔
      ∃ passed later, passes a = .ok passed ∧ filterChecked passes list = .ok later ∧
        kept = if passed then a :: later else later := by
  unfold filterChecked
  rw [collect_cons]
  constructor
  · intro collected
    obtain ⟨here, yielded, later, more, rfl⟩ := collected
    obtain ⟨passed, checked, same⟩ := bind_eq_ok.mp yielded
    cases same
    refine ⟨passed, later, checked, more, ?_⟩
    cases passed <;> rfl
  · intro found
    obtain ⟨passed, later, checked, more, rfl⟩ := found
    refine ⟨_, bind_eq_ok.mpr ⟨passed, checked, rfl⟩, later, more, ?_⟩
    cases passed <;> rfl

theorem length_le_of_filterChecked (filtered : filterChecked passes list = .ok kept) :
    kept.length ≤ list.length := by
  induction list generalizing kept with
  | nil =>
      cases filtered
      exact Nat.le_refl _
  | cons a rest ih =>
      obtain ⟨passed, later, _, more, rfl⟩ := filterChecked_cons.mp filtered
      have := ih more
      cases passed
      · simp only [Bool.false_eq_true, if_false, List.length_cons]
        omega
      · simp only [if_true, List.length_cons]
        omega

/-- A filter keeps as many members as there are only where all pass. -/
theorem filterChecked_all :
    (∃ kept, filterChecked passes list = .ok kept ∧ kept.length = list.length) ↔
      ∀ a ∈ list, passes a = .ok true := by
  induction list with
  | nil => exact ⟨fun _ _ member => absurd member List.not_mem_nil, fun _ => ⟨[], rfl, rfl⟩⟩
  | cons a rest ih =>
      rw [List.forall_mem_cons, ← ih]
      constructor
      · intro filtered
        obtain ⟨kept, filtered, length⟩ := filtered
        obtain ⟨passed, later, checked, more, rfl⟩ := filterChecked_cons.mp filtered
        have bound := length_le_of_filterChecked more
        cases passed
        · simp only [Bool.false_eq_true, if_false, List.length_cons] at length
          omega
        · exact ⟨checked, later, more, by simpa using length⟩
      · intro both
        obtain ⟨checked, later, more, length⟩ := both
        exact ⟨a :: later, filterChecked_cons.mpr ⟨true, later, checked, more, rfl⟩, by simp [length]⟩

theorem eq_of_filterChecked (filtered : filterChecked passes list = .ok kept)
    (length : kept.length = list.length) : kept = list := by
  induction list generalizing kept with
  | nil => exact List.eq_nil_of_length_eq_zero length
  | cons a rest ih =>
      obtain ⟨passed, later, _, more, rfl⟩ := filterChecked_cons.mp filtered
      have bound := length_le_of_filterChecked more
      cases passed
      · simp only [Bool.false_eq_true, if_false, List.length_cons] at length
        omega
      · simp only [if_true]
        rw [ih more (by simpa using length)]

/-- A pass that yields for each member nothing or the one value of `f`. -/
theorem collect_eq_filterMap {f : α → Option β} {all : List β}
    (yields : ∀ a ∈ list, ∀ here, yield a = .ok here → here = (f a).toList)
    (collected : collect yield list = .ok all) : all = list.filterMap f := by
  induction list generalizing all with
  | nil =>
      cases collected
      rfl
  | cons a rest ih =>
      obtain ⟨here, yielded, later, more, rfl⟩ := collect_cons.mp collected
      have rest := ih (fun b member => yields b (List.mem_cons_of_mem _ member)) more
      rw [yields a List.mem_cons_self here yielded, rest, List.filterMap_cons]
      cases f a <;> rfl

end AxolotyEmbedded.Checked
