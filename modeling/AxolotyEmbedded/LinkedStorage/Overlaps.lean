import Mathlib.Data.Set.Card
import AxolotyEmbedded.LinkedStorage.Measure

/-!
The two sweeps of the audit: `merged_bytes` over ranges of any integers, of which
`Ranges.merged` is the case of addresses, and `conflicting_overlaps` over the symbols of
each section.
-/
namespace AxolotyEmbedded.LinkedStorage

open PythonText

/-! ## `merged_bytes` -/

/-- The order of tuples of two integers. -/
def TupleLe (first second : Int × Int) : Prop :=
  first.1 < second.1 ∨ first.1 = second.1 ∧ first.2 ≤ second.2

instance decidableTupleLe (first second : Int × Int) : Decidable (TupleLe first second) :=
  inferInstanceAs (Decidable (_ ∨ _ ∧ _))

/-- One range: `total` and `end` before it and after it. -/
def mergeRange : Int × Option Int → Int × Int → Int × Option Int
  | (total, none), (start, stop) => (total + (stop - start), some stop)
  | (total, some last), (start, stop) =>
      if last < start then (total + (stop - start), some stop)
      else if last < stop then (total + (stop - last), some stop)
      else (total, some last)

def mergedBytes (ranges : List (Int × Int)) : Int :=
  ((ranges.insertionSort TupleLe).foldl mergeRange (0, none)).1

/-- The integers that lie in a range. -/
def held (ranges : List (Int × Int)) : Set Int :=
  {n | ∃ range ∈ ranges, range.1 ≤ n ∧ n < range.2}

/-- A range of addresses moved by an integer. -/
def shift (offset : Int) (range : Ranges.Range) : Int × Int :=
  (range.1 + offset, range.2 + offset)

variable {ranges : List Ranges.Range} {offset : Int}

theorem insertionSort_map_shift :
    (ranges.map (shift offset)).insertionSort TupleLe =
      (Ranges.sorted ranges).map (shift offset) := by
  refine (List.map_insertionSort _ _ _ _ fun first _ second _ => ?_).symm
  simp only [Ranges.Before, TupleLe, shift]
  omega

/-- What the pass holds after moved ranges. -/
def moved (offset : Int) (state : Nat × Option Nat) : Int × Option Int :=
  (state.1, state.2.map fun stop : Nat => (stop : Int) + offset)

theorem mergeRange_moved {range : Ranges.Range} (valid : range.1 ≤ range.2)
    (state : Nat × Option Nat) :
    mergeRange (moved offset state) (shift offset range) =
      moved offset (Ranges.mergeStep state range) := by
  cases state with
  | mk total last =>
      cases last with
      | none =>
          apply Prod.ext
          · simp only [moved, mergeRange, Ranges.mergeStep, shift, Option.map_none]
            omega
          · rfl
      | some last =>
          have gap : (last : Int) + offset < range.1 + offset ↔ last < range.1 := by omega
          have longer : (last : Int) + offset < range.2 + offset ↔ last < range.2 := by omega
          simp only [moved, mergeRange, Ranges.mergeStep, shift, Option.map_some, gap, longer]
          split
          · apply Prod.ext
            · simp only
              omega
            · rfl
          · split
            · apply Prod.ext
              · simp only
                omega
              · rfl
            · rfl

theorem foldl_mergeRange_moved (valid : ∀ range ∈ ranges, range.1 ≤ range.2)
    (state : Nat × Option Nat) :
    (ranges.map (shift offset)).foldl mergeRange (moved offset state) =
      moved offset (ranges.foldl Ranges.mergeStep state) := by
  induction ranges generalizing state with
  | nil => rfl
  | cons range rest ih =>
      rw [List.map_cons, List.foldl_cons, List.foldl_cons,
        mergeRange_moved (valid range List.mem_cons_self)]
      exact ih (fun other member => valid other (List.mem_cons_of_mem _ member)) _

/-- Moved ranges merge to as many bytes as the ranges. -/
theorem mergedBytes_shift (valid : ∀ range ∈ ranges, range.1 ≤ range.2) :
    mergedBytes (ranges.map (shift offset)) = (Ranges.merged ranges : Int) := by
  have same := Ranges.sorted_perm ranges
  rw [mergedBytes, insertionSort_map_shift, Ranges.merged]
  exact congrArg Prod.fst
    (foldl_mergeRange_moved (fun range member => valid range (same.mem_iff.mp member)) (0, none))

theorem held_shift :
    held (ranges.map (shift offset)) =
      (fun n : Nat => (n : Int) + offset) '' (Ranges.covered ranges : Set Nat) := by
  ext n
  simp only [held, List.mem_map, Set.mem_ofPred_eq, Set.mem_image, Finset.mem_coe,
    Ranges.mem_covered]
  constructor
  · rintro ⟨_, ⟨range, member, rfl⟩, start, stop⟩
    simp only [shift] at start stop
    exact ⟨(n - offset).toNat, ⟨range, member, by omega, by omega⟩, by omega⟩
  · rintro ⟨a, ⟨range, member, start, stop⟩, rfl⟩
    exact ⟨_, ⟨range, member, rfl⟩, by simp only [shift]; omega, by simp only [shift]; omega⟩

/-- Ranges of integers are ranges of addresses moved below all their starts. -/
theorem exists_shift {ranges : List (Int × Int)} (valid : ∀ range ∈ ranges, range.1 ≤ range.2) :
    ∃ (offset : Int) (naturals : List Ranges.Range), naturals.map (shift offset) = ranges ∧
      ∀ range ∈ naturals, range.1 ≤ range.2 := by
  obtain ⟨offset, below⟩ : ∃ offset : Int, ∀ range ∈ ranges, offset ≤ range.1 := by
    induction ranges with
    | nil => exact ⟨0, by simp⟩
    | cons range rest ih =>
        obtain ⟨offset, below⟩ := ih fun other member => valid other (List.mem_cons_of_mem _ member)
        refine ⟨min range.1 offset, List.forall_mem_cons.mpr ⟨min_le_left .., ?_⟩⟩
        exact fun other member => (min_le_right ..).trans (below other member)
  refine ⟨offset, ranges.map fun range => ((range.1 - offset).toNat, (range.2 - offset).toNat),
    ?_, ?_⟩
  · rw [List.map_map]
    refine (List.map_congr_left fun range member => ?_).trans (List.map_id ranges)
    have := below range member
    have := valid range member
    simp only [Function.comp, shift, id]
    ext <;> simp only <;> omega
  · intro range member
    obtain ⟨source, source_mem, rfl⟩ := List.mem_map.mp member
    have := below source source_mem
    have := valid source source_mem
    simp only
    omega

theorem mergedBytes_eq_ncard {ranges : List (Int × Int)}
    (valid : ∀ range ∈ ranges, range.1 ≤ range.2) :
    (held ranges).Finite ∧ mergedBytes ranges = (held ranges).ncard := by
  obtain ⟨offset, naturals, rfl, natural⟩ := exists_shift valid
  have injective : Function.Injective fun n : Nat => (n : Int) + offset := fun a b same => by
    simp only at same
    omega
  rw [held_shift, mergedBytes_shift natural, Set.ncard_image_of_injective _ injective,
    Set.ncard_coe_finset, Ranges.merged_eq_card natural]
  exact ⟨(Finset.finite_toSet _).image _, rfl⟩

/-! ## `conflicting_overlaps` -/

/-- Two symbols meet and differ in address or size. -/
structure Conflicting (first second : ElfSymbol) : Prop where
  meet : ∃ byte, first.address ≤ byte ∧ byte < first.address + first.size ∧
    second.address ≤ byte ∧ byte < second.address + second.size
  differ : first.address ≠ second.address ∨ first.size ≠ second.size

theorem Conflicting.symm {first second : ElfSymbol} (conflict : Conflicting first second) :
    Conflicting second first := by
  obtain ⟨⟨byte, low, high, low', high'⟩, differ⟩ := conflict
  exact ⟨⟨byte, low', high', low, high⟩, differ.imp Ne.symm Ne.symm⟩

/-- What the sweep asks of an earlier and a later symbol. -/
def Compatible (prior symbol : ElfSymbol) : Prop :=
  symbol.address < prior.address + prior.size →
    (prior.address, prior.size) = (symbol.address, symbol.size)

/-- A symbol leaves `active` only where it reaches none of the later ones. -/
theorem groupConflicts_eq_nil {active group : List ElfSymbol}
    (sorted : group.Pairwise fun first second => first.address ≤ second.address) :
    groupConflicts active group = [] ↔
      (∀ prior ∈ active, ∀ symbol ∈ group, Compatible prior symbol) ∧
        group.Pairwise Compatible := by
  induction group generalizing active with
  | nil => simp [groupConflicts]
  | cons symbol group ih =>
      obtain ⟨first, later⟩ := List.pairwise_cons.mp sorted
      have silent : (active.filter fun item => symbol.address < item.address + item.size).filter
            (fun prior => (prior.address, prior.size) != (symbol.address, symbol.size)) = [] ↔
          ∀ prior ∈ active, Compatible prior symbol := by
        simp only [List.filter_eq_nil_iff, List.mem_filter, decide_eq_true_eq, bne_iff_ne,
          ne_eq, not_not, and_imp, Compatible]
      have past : ∀ prior ∈ active, ¬symbol.address < prior.address + prior.size →
          ∀ other ∈ group, Compatible prior other := by
        intro prior _ left other member reached
        have := first other member
        omega
      simp only [groupConflicts, List.append_eq_nil_iff, List.map_eq_nil_iff, silent, ih later,
        List.mem_append, List.mem_filter, List.mem_singleton, decide_eq_true_eq,
        List.forall_mem_cons, List.pairwise_cons]
      constructor
      · rintro ⟨here, active', rest⟩
        refine ⟨fun prior member => ⟨here prior member, fun other held => ?_⟩,
          active' symbol (.inr rfl), rest⟩
        by_cases reaches : symbol.address < prior.address + prior.size
        · exact active' prior (.inl ⟨member, reaches⟩) other held
        · exact past prior member reaches other held
      · rintro ⟨all, here, rest⟩
        refine ⟨fun prior member => (all prior member).1, ?_, rest⟩
        rintro prior (⟨member, -⟩ | rfl) other held
        · exact (all prior member).2 other held
        · exact here other held

theorem compatible_iff {prior symbol : ElfSymbol} (ordered : prior.address ≤ symbol.address)
    (sized : 0 < symbol.size) : Compatible prior symbol ↔ ¬Conflicting prior symbol := by
  constructor
  · rintro compatible ⟨⟨byte, _, high, low, _⟩, differ⟩
    obtain ⟨address, size⟩ := Prod.mk.inj (compatible (by omega))
    exact differ.elim (· address) (· size)
  · intro apart reached
    by_contra differ
    refine apart ⟨⟨symbol.address, ordered, reached, Nat.le_refl _, by omega⟩, ?_⟩
    by_contra same
    simp only [not_or, ne_eq, not_not] at same
    exact differ (Prod.ext same.1 same.2)

section Sorting

variable {key : ElfSymbol → Nat × Nat × Str}

theorem keyBefore_total : Std.Total (KeyBefore key) :=
  ⟨fun first second => by
    simp only [KeyBefore]
    have names := strLe_total (key first).2.2 (key second).2.2
    grind⟩

theorem keyBefore_trans : IsTrans ElfSymbol (KeyBefore key) :=
  ⟨fun first second third => by
    simp only [KeyBefore]
    have names := @strLe_trans (key first).2.2 (key second).2.2 (key third).2.2
    grind⟩

/-- The sorted symbols are in the order of the first components of their keys. -/
theorem pairwise_sortSymbols (key : ElfSymbol → Nat × Nat × Str) (symbols : List ElfSymbol) :
    (sortSymbols key symbols).Pairwise fun first second => (key first).1 ≤ (key second).1 := by
  have := @keyBefore_total key
  have := @keyBefore_trans key
  refine (List.pairwise_insertionSort (KeyBefore key) symbols).imp fun before => ?_
  simp only [KeyBefore] at before
  omega

end Sorting

/-- A group has no conflicts if no two of its symbols conflict. -/
theorem groupConflicts_sorted {group : List ElfSymbol} (sized : ∀ symbol ∈ group, 0 < symbol.size) :
    groupConflicts [] (sortSymbols (fun s => (s.address, s.address + s.size, s.name)) group) = [] ↔
      ∀ first ∈ group, ∀ second ∈ group, ¬Conflicting first second := by
  have inOrder := pairwise_sortSymbols (fun s => (s.address, s.address + s.size, s.name)) group
  have member : ∀ symbol : ElfSymbol,
      symbol ∈ sortSymbols (fun s => (s.address, s.address + s.size, s.name)) group ↔
        symbol ∈ group := fun symbol => List.mem_insertionSort _
  rw [groupConflicts_eq_nil inOrder]
  simp only [List.not_mem_nil, false_implies, implies_true, true_and]
  constructor
  · intro compatible first firstHeld second secondHeld
    have apart : List.Pairwise (fun first second => ¬Conflicting first second)
        (sortSymbols (fun s => (s.address, s.address + s.size, s.name)) group) := by
      apply (inOrder.and compatible).imp_of_mem
      intro prior symbol _ symbolHeld both
      exact (compatible_iff both.1 (sized symbol ((member symbol).mp symbolHeld))).mp both.2
    have symmetric : Std.Symm fun first second => ¬Conflicting first second :=
      ⟨fun prior symbol distinct conflict => distinct conflict.symm⟩
    apply apart.forall_of_forall
    · intro symbol _ conflict
      exact conflict.differ.elim (· rfl) (· rfl)
    · exact (member first).mpr firstHeld
    · exact (member second).mpr secondHeld
  · intro apart
    apply inOrder.imp_of_mem
    intro prior symbol priorHeld symbolHeld ordered
    exact (compatible_iff ordered (sized symbol ((member symbol).mp symbolHeld))).mpr
      (apart prior ((member prior).mp priorHeld) symbol ((member symbol).mp symbolHeld))

theorem conflictingOverlaps_ne_nil {symbols : List ElfSymbol}
    (sized : ∀ symbol ∈ symbols, 0 < symbol.size) :
    conflictingOverlaps symbols ≠ [] ↔
      ∃ first ∈ symbols, ∃ second ∈ symbols, first.sectionIndex = second.sectionIndex ∧
        Conflicting first second := by
  have group : ∀ index, groupConflicts []
      (sortSymbols (fun s => (s.address, s.address + s.size, s.name))
        (symbols.filter fun symbol => symbol.sectionIndex == index)) = [] ↔
      ∀ first ∈ symbols, ∀ second ∈ symbols, first.sectionIndex = index →
        second.sectionIndex = index → ¬Conflicting first second := by
    intro index
    rw [groupConflicts_sorted fun symbol member => sized symbol (List.mem_filter.mp member).1]
    simp only [List.mem_filter, beq_iff_eq, and_imp]
    constructor
    · intro apart first firstHeld second secondHeld firstIn secondIn
      exact apart first firstHeld firstIn second secondHeld secondIn
    · intro apart first firstHeld firstIn second secondHeld secondIn
      exact apart first firstHeld second secondHeld firstIn secondIn
  rw [Ne, conflictingOverlaps, List.flatMap_eq_nil_iff]
  simp only [List.mem_eraseDups, List.mem_map, forall_exists_index, and_imp, group]
  constructor
  · intro found
    by_contra none
    apply found
    intro _ _ _ _ first firstHeld second secondHeld firstIn secondIn conflict
    exact none ⟨first, firstHeld, second, secondHeld, firstIn.trans secondIn.symm, conflict⟩
  · intro found silent
    cases found with
    | intro first found =>
        have ⟨firstHeld, second, secondHeld, same, conflict⟩ := found
        exact silent _ first firstHeld rfl first firstHeld second secondHeld rfl same.symm conflict

/-- For ranges in any order the merged bytes count the integers in some range, and the
overlaps reported of sized symbols are empty unless two of a section conflict. -/
theorem sweeps_correct :
    (∀ ranges : List (Int × Int), (∀ range ∈ ranges, range.1 ≤ range.2) →
      (held ranges).Finite ∧ mergedBytes ranges = (held ranges).ncard) ∧
    ∀ symbols : List ElfSymbol, (∀ symbol ∈ symbols, 0 < symbol.size) →
      (conflictingOverlaps symbols ≠ [] ↔
        ∃ first ∈ symbols, ∃ second ∈ symbols, first.sectionIndex = second.sectionIndex ∧
          Conflicting first second) :=
  ⟨fun _ valid => mergedBytes_eq_ncard valid, fun _ sized => conflictingOverlaps_ne_nil sized⟩

def outerSymbol : ElfSymbol := ⟨"outer".toList, 0, 12, ".data".toList, 1, .object⟩

def nestedSymbol : ElfSymbol := ⟨"nested".toList, 4, 2, ".data".toList, 1, .object⟩

theorem sweeps_correct_nested :
    mergedBytes [(4, 12), (-3, 8), (20, 20)] = (held [(4, 12), (-3, 8), (20, 20)]).ncard ∧
      conflictingOverlaps [nestedSymbol, outerSymbol] ≠ [] :=
  ⟨(sweeps_correct.1 _ (by decide)).2,
    (sweeps_correct.2 [nestedSymbol, outerSymbol] (by decide)).mpr
      ⟨outerSymbol, by decide, nestedSymbol, by decide, rfl,
        ⟨4, by decide, by decide, by decide, by decide⟩, .inl (by decide)⟩⟩

end AxolotyEmbedded.LinkedStorage
