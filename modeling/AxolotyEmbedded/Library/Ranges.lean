import Mathlib.Data.List.Sort
import Mathlib.Order.Interval.Finset.Nat

/-!
Half-open ranges of natural numbers, as pairs of a start and a stop: what a list of them
covers, the length of their union by one pass over the sorted list, and coverage of an
interval by a cursor that meets no gap.
-/
namespace AxolotyEmbedded.Ranges

abbrev Range := Nat × Nat

/-- The numbers some range holds. -/
def covered (ranges : List Range) : Finset Nat :=
  ranges.foldr (fun range rest => Finset.Ico range.1 range.2 ∪ rest) ∅

variable {ranges : List Range} {range : Range} {a : Nat}

@[simp] theorem covered_nil : covered [] = ∅ := rfl

@[simp] theorem covered_cons (range : Range) (ranges : List Range) :
    covered (range :: ranges) = Finset.Ico range.1 range.2 ∪ covered ranges := rfl

theorem mem_covered : a ∈ covered ranges ↔ ∃ range ∈ ranges, range.1 ≤ a ∧ a < range.2 := by
  induction ranges with
  | nil => simp
  | cons range ranges ih => simp [ih]

theorem covered_perm {other : List Range} (same : ranges.Perm other) :
    covered ranges = covered other := by
  ext a
  simp [mem_covered, same.mem_iff]

theorem covered_append (first second : List Range) :
    covered (first ++ second) = covered first ∪ covered second := by
  ext a
  simp [mem_covered, or_and_right, exists_or]

def length (range : Range) : Nat := range.2 - range.1

/-- The sum of some sizes. -/
def total (sizes : List Nat) : Nat := sizes.foldr (· + ·) 0

/-- What is covered counts at most the lengths of the ranges. -/
theorem card_covered_le (ranges : List Range) :
    (covered ranges).card ≤ total (ranges.map length) := by
  induction ranges with
  | nil => simp
  | cons range ranges ih =>
      have joined := Finset.card_union_le (Finset.Ico range.1 range.2) (covered ranges)
      rw [Nat.card_Ico] at joined
      rw [covered_cons, List.map_cons]
      change _ ≤ length range + total (ranges.map length)
      rw [length]
      omega

/-! ## The length of a union -/

/-- The order of pairs, the first component first. -/
def Before (first second : Range) : Prop :=
  first.1 < second.1 ∨ first.1 = second.1 ∧ first.2 ≤ second.2

instance decidableBefore (first second : Range) : Decidable (Before first second) :=
  inferInstanceAs (Decidable (_ ∨ _ ∧ _))

instance totalBefore : Std.Total Before :=
  ⟨fun first second => by simp only [Before]; omega⟩

instance transBefore : IsTrans Range Before :=
  ⟨fun first second third => by simp only [Before]; omega⟩

def sorted (ranges : List Range) : List Range := ranges.insertionSort Before

theorem sorted_perm (ranges : List Range) : (sorted ranges).Perm ranges :=
  List.perm_insertionSort Before ranges

/-- One range in the pass: the length so far and the last stop, if there was a range. -/
def mergeStep : Nat × Option Nat → Range → Nat × Option Nat
  | (total, none), (start, stop) => (total + (stop - start), some stop)
  | (total, some last), (start, stop) =>
      if last < start then (total + (stop - start), some stop)
      else if last < stop then (total + (stop - last), some stop)
      else (total, some last)

/-- The length of the union of the ranges. -/
def merged (ranges : List Range) : Nat := ((sorted ranges).foldl mergeStep (0, none)).1

/-- The three cases of the pass add what reaches past the last stop. -/
theorem mergeStep_some {total last : Nat} (valid : range.1 ≤ range.2) :
    mergeStep (total, some last) range =
      (total + (range.2 - max range.1 last), some (max last range.2)) := by
  obtain ⟨start, stop⟩ := range
  simp only at valid
  simp only [mergeStep]
  split
  · next gap => rw [Nat.max_eq_left (by omega), Nat.max_eq_right (by omega)]
  · split
    · next longer => rw [Nat.max_eq_right (by omega), Nat.max_eq_right (by omega)]
    · next within =>
        have nothing : stop - max start last = 0 := by omega
        rw [nothing, Nat.max_eq_left (by omega), Nat.add_zero]

/-- What the pass has seen of the ranges: all stop by `last`, and one of them there. -/
structure Merged (seen : List Range) (total : Nat) (last : Nat) : Prop where
  total : total = (covered seen).card
  bound : ∀ range ∈ seen, range.2 ≤ last
  reached : ∃ range ∈ seen, range.2 = last

/-- A range that starts no earlier than the others adds the part past their last stop. -/
theorem covered_snoc {seen : List Range} {total last : Nat} (inv : Merged seen total last)
    (later : ∀ before ∈ seen, before.1 ≤ range.1) :
    covered (seen ++ [range]) = covered seen ∪ Finset.Ico (max range.1 last) range.2 := by
  obtain ⟨open', held, stops⟩ := inv.reached
  have behind := later open' held
  rw [covered_append]
  ext a
  simp only [covered_cons, covered_nil, Finset.union_empty, Finset.mem_union, Finset.mem_Ico,
    max_le_iff]
  constructor
  · rintro (inside | ⟨start, stop⟩)
    · exact .inl inside
    · by_cases within : a < last
      · exact .inl (mem_covered.mpr ⟨open', held, by omega, by omega⟩)
      · exact .inr ⟨⟨start, by omega⟩, stop⟩
  · rintro (inside | ⟨⟨start, _⟩, stop⟩)
    · exact .inl inside
    · exact .inr ⟨start, stop⟩

theorem disjoint_past {seen : List Range} {total last : Nat} (inv : Merged seen total last)
    (start stop : Nat) : Disjoint (covered seen) (Finset.Ico (max start last) stop) := by
  rw [Finset.disjoint_left]
  intro a inside
  obtain ⟨before, member, _, above⟩ := mem_covered.mp inside
  have stopped := inv.bound before member
  rw [Finset.mem_Ico, max_le_iff]
  omega

theorem Merged.step {seen : List Range} {total last : Nat} (inv : Merged seen total last)
    (later : ∀ before ∈ seen, before.1 ≤ range.1) :
    Merged (seen ++ [range]) (total + (range.2 - max range.1 last)) (max last range.2) where
  total := by
    rw [covered_snoc inv later, Finset.card_union_of_disjoint (disjoint_past inv ..),
      Nat.card_Ico, inv.total]
  bound := by
    intro before member
    rw [List.mem_append, List.mem_singleton] at member
    obtain member | rfl := member
    · exact Nat.le_trans (inv.bound before member) (Nat.le_max_left ..)
    · exact Nat.le_max_right ..
  reached := by
    obtain ⟨open', held, stops⟩ := inv.reached
    by_cases longer : last ≤ range.2
    · exact ⟨range, by simp, (Nat.max_eq_right longer).symm⟩
    · exact ⟨open', by simp [held], by rw [stops, Nat.max_eq_left (by omega)]⟩

theorem Merged.run {rest seen : List Range} {total last : Nat} (inv : Merged seen total last)
    (valid : ∀ range ∈ rest, range.1 ≤ range.2)
    (later : ∀ before ∈ seen, ∀ range ∈ rest, before.1 ≤ range.1)
    (inOrder : rest.Pairwise Before) :
    (rest.foldl mergeStep (total, some last)).1 = (covered (seen ++ rest)).card := by
  induction rest generalizing seen total last with
  | nil => simpa using inv.total
  | cons range rest ih =>
      rw [List.pairwise_cons] at inOrder
      rw [List.foldl_cons, mergeStep_some (valid range List.mem_cons_self),
        List.append_cons seen range rest]
      apply ih (inv.step fun before held => later before held range List.mem_cons_self)
      · exact fun other member => valid other (List.mem_cons_of_mem _ member)
      · intro before held other member
        rw [List.mem_append, List.mem_singleton] at held
        obtain held | rfl := held
        · exact later before held other (List.mem_cons_of_mem _ member)
        · have order := inOrder.1 other member
          simp only [Before] at order
          omega
      · exact inOrder.2

/-- The pass over the sorted ranges counts the covered numbers once each. -/
theorem merged_eq_card (valid : ∀ range ∈ ranges, range.1 ≤ range.2) :
    merged ranges = (covered ranges).card := by
  have same := sorted_perm ranges
  have inOrder : (sorted ranges).Pairwise Before := List.pairwise_insertionSort Before ranges
  rw [← covered_perm same, merged]
  cases shape : sorted ranges with
  | nil => rfl
  | cons first rest =>
      rw [shape] at inOrder same
      rw [List.pairwise_cons] at inOrder
      have start : Merged [first] (first.2 - first.1) first.2 :=
        ⟨by simp, by simp, by simp⟩
      have run : (rest.foldl mergeStep (first.2 - first.1, some first.2)).1 =
          (covered ([first] ++ rest)).card := by
        refine start.run (fun range member => ?_) (fun before held range member => ?_) inOrder.2
        · exact valid range (same.mem_iff.mp (List.mem_cons_of_mem _ member))
        · obtain rfl := List.mem_singleton.mp held
          have order := inOrder.1 range member
          simp only [Before] at order
          omega
      simpa [mergeStep] using run

/-! ## Coverage of an interval -/

/-- The cursor after the ranges, in the order given: an error once one starts past it. -/
def sweep : Nat → List Range → Except Nat Nat
  | cursor, [] => .ok cursor
  | cursor, (start, stop) :: rest =>
      if cursor < start then .error cursor else sweep (max cursor stop) rest

/-- A cursor that meets no gap has passed covered numbers only. -/
theorem covered_of_sweep {cursor reached : Nat} (swept : sweep cursor ranges = .ok reached)
    (begun : cursor ≤ a) (below : a < reached) : a ∈ covered ranges := by
  induction ranges generalizing cursor with
  | nil =>
      simp only [sweep, Except.ok.injEq] at swept
      omega
  | cons range ranges ih =>
      obtain ⟨start, stop⟩ := range
      simp only [sweep] at swept
      split at swept
      · cases swept
      · next met =>
        rw [covered_cons, Finset.mem_union, Finset.mem_Ico]
        by_cases within : a < stop
        · exact .inl ⟨by omega, within⟩
        · exact .inr (ih swept (by omega))

end AxolotyEmbedded.Ranges
