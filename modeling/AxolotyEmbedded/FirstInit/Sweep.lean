import AxolotyEmbedded.FirstInit.Listing
import AxolotyEmbedded.Library.StableSort

/-!
The sweep of `parse_disassembly`: with the functions in the order of their starts and a
heap of their ends it appends a decoded line to just those functions whose extent holds
the address of the line.
-/
namespace AxolotyEmbedded.FirstInit

open PythonText

/-- The order of the heap. -/
def EndingBefore (first second : Nat × Nat) : Prop :=
  first.1 < second.1 ∨ (first.1 = second.1 ∧ first.2 ≤ second.2)

theorem mem_pushEnding {endings : List (Nat × Nat)} {fn : Function} {ending : Nat × Nat} :
    ending ∈ pushEnding endings fn ↔ ending = (fn.stop, fn.start) ∨ ending ∈ endings :=
  List.mem_orderedInsert _

theorem pairwise_pushEnding {endings : List (Nat × Nat)} (ordered : endings.Pairwise EndingBefore)
    (fn : Function) : (pushEnding endings fn).Pairwise EndingBefore := by
  have total : Std.Total fun first second : Nat × Nat =>
      first.1 < second.1 ∨ (first.1 = second.1 ∧ first.2 ≤ second.2) := ⟨fun a b => by omega⟩
  have trans : IsTrans (Nat × Nat) fun first second =>
      first.1 < second.1 ∨ (first.1 = second.1 ∧ first.2 ≤ second.2) := ⟨fun a b c => by omega⟩
  exact List.Pairwise.orderedInsert (r := fun first second : Nat × Nat =>
    first.1 < second.1 ∨ (first.1 = second.1 ∧ first.2 ≤ second.2)) _ _ ordered

theorem mem_foldl_pushEnding {fns : List Function} {endings : List (Nat × Nat)}
    {ending : Nat × Nat} :
    ending ∈ fns.foldl pushEnding endings ↔
      ending ∈ endings ∨ ∃ fn ∈ fns, ending = (fn.stop, fn.start) := by
  induction fns generalizing endings with
  | nil => simp
  | cons fn fns ih =>
      rw [List.foldl_cons, ih, mem_pushEnding]
      simp only [List.mem_cons, exists_eq_or_imp]
      tauto

theorem pairwise_foldl_pushEnding {fns : List Function} {endings : List (Nat × Nat)}
    (ordered : endings.Pairwise EndingBefore) :
    (fns.foldl pushEnding endings).Pairwise EndingBefore := by
  induction fns generalizing endings with
  | nil => exact ordered
  | cons fn fns ih => exact ih (pairwise_pushEnding ordered fn)

namespace Sweep

/-- Where the sweep stands once every function with a start below `limit` has begun and
every function with an end below it has ended. -/
structure At (functions : List Function) (limit : Nat) (sweep : Sweep) : Prop where
  pending : ∀ fn, fn ∈ sweep.pending ↔ fn ∈ functions ∧ limit ≤ fn.start
  pendingOrdered : sweep.pending.Pairwise fun first second => first.start ≤ second.start
  active : ∀ fn, fn ∈ sweep.active ↔ fn ∈ functions ∧ fn.start < limit ∧ limit ≤ fn.stop
  distinct : (sweep.active ++ sweep.pending).Nodup
  endings : ∀ ending, ending ∈ sweep.endings ↔
    ∃ fn ∈ functions, fn.start < limit ∧ limit ≤ fn.stop ∧ ending = (fn.stop, fn.start)
  endingsOrdered : sweep.endings.Pairwise EndingBefore

variable {functions : List Function} {limit address : Nat} {sweep : Sweep}

theorem mem_ended (here : sweep.At functions limit) (later : limit ≤ address + 1) {start : Nat} :
    (start ∈ (((sweep.pending.takeWhile fun fn => fn.start ≤ address).foldl pushEnding
        sweep.endings).takeWhile fun ending => ending.1 ≤ address).map Prod.snd) ↔
      ∃ fn ∈ functions, (limit ≤ fn.stop ∨ limit ≤ fn.start) ∧ fn.start ≤ address ∧
        fn.stop ≤ address ∧ fn.start = start := by
  have ordered : ((sweep.pending.takeWhile fun fn => fn.start ≤ address).foldl pushEnding
      sweep.endings).Pairwise fun a b => decide (b.1 ≤ address) = true → decide (a.1 ≤ address) = true :=
    (pairwise_foldl_pushEnding here.endingsOrdered).imp fun {a b} before => by
      simp only [EndingBefore, decide_eq_true_eq] at before ⊢
      omega
  have begun : sweep.pending.Pairwise fun a b =>
      decide (b.start ≤ address) = true → decide (a.start ≤ address) = true :=
    here.pendingOrdered.imp fun {a b} before => by
      simp only [decide_eq_true_eq]
      omega
  rw [StableSort.takeWhile_eq_filter ordered, StableSort.takeWhile_eq_filter begun]
  simp only [List.mem_map, List.mem_filter, mem_foldl_pushEnding, decide_eq_true_eq,
    here.endings, here.pending]
  constructor
  · rintro ⟨_, ⟨⟨fn, held, begun, lasting, rfl⟩ | ⟨fn, ⟨⟨held, waiting⟩, soon⟩, rfl⟩, past⟩, rfl⟩
    · exact ⟨fn, held, .inl lasting, by omega, past, rfl⟩
    · exact ⟨fn, held, .inr waiting, soon, past, rfl⟩
  · rintro ⟨fn, held, kept, soon, ended, rfl⟩
    by_cases begun : fn.start < limit
    · have stays : limit ≤ fn.stop := by omega
      exact ⟨_, ⟨.inl ⟨fn, held, begun, stays, rfl⟩, ended⟩, rfl⟩
    · exact ⟨_, ⟨.inr ⟨fn, ⟨⟨held, by omega⟩, soon⟩, rfl⟩, ended⟩, rfl⟩

/-- After an address the active functions are those that hold it. -/
theorem At.advance (here : sweep.At functions limit)
    (keyed : ∀ first ∈ functions, ∀ second ∈ functions, first.start = second.start → first = second)
    (later : limit ≤ address + 1) : (sweep.advance address).At functions (address + 1) := by
  have begun : sweep.pending.Pairwise fun a b =>
      decide (b.start ≤ address) = true → decide (a.start ≤ address) = true :=
    here.pendingOrdered.imp fun {a b} before => by
      simp only [decide_eq_true_eq]
      omega
  have ordered : ((sweep.pending.takeWhile fun fn => fn.start ≤ address).foldl pushEnding
      sweep.endings).Pairwise fun a b => decide (b.1 ≤ address) = true → decide (a.1 ≤ address) = true :=
    (pairwise_foldl_pushEnding here.endingsOrdered).imp fun {a b} before => by
      simp only [EndingBefore, decide_eq_true_eq] at before ⊢
      omega
  constructor
  case pending =>
    intro fn
    simp only [Sweep.advance, StableSort.dropWhile_eq_filter begun, List.mem_filter, here.pending,
      Bool.not_eq_true', decide_eq_false_iff_not]
    constructor
    · rintro ⟨⟨held, -⟩, late⟩
      exact ⟨held, by omega⟩
    · rintro ⟨held, late⟩
      exact ⟨⟨held, by omega⟩, by omega⟩
  case pendingOrdered => exact here.pendingOrdered.sublist (List.dropWhile_sublist _)
  case active =>
    intro fn
    simp only [Sweep.advance, List.mem_filter, List.mem_append, here.active, decide_eq_true_eq,
      mem_ended here later]
    rw [StableSort.takeWhile_eq_filter begun]
    simp only [List.mem_filter, here.pending, decide_eq_true_eq]
    constructor
    · rintro ⟨⟨held, started, running⟩ | ⟨⟨held, waiting⟩, soon⟩, lasting⟩
      · refine ⟨held, by omega, ?_⟩
        by_contra past
        exact lasting ⟨fn, held, .inl running, by omega, by omega, rfl⟩
      · refine ⟨held, by omega, ?_⟩
        by_contra past
        exact lasting ⟨fn, held, .inr waiting, soon, by omega, rfl⟩
    · rintro ⟨held, started, running⟩
      refine ⟨?_, ?_⟩
      · by_cases begun : fn.start < limit
        · exact .inl ⟨held, begun, by omega⟩
        · exact .inr ⟨⟨held, by omega⟩, by omega⟩
      · rintro ⟨other, member, -, -, past, same⟩
        obtain rfl := keyed other member fn held same
        omega
  case distinct =>
    have whole : sweep.active ++ sweep.pending = (sweep.active ++
        sweep.pending.takeWhile fun fn => fn.start ≤ address) ++
          sweep.pending.dropWhile fun fn => fn.start ≤ address := by
      rw [List.append_assoc, List.takeWhile_append_dropWhile]
    have distinct := here.distinct
    rw [whole] at distinct
    exact distinct.sublist (List.filter_sublist.append_right _)
  case endings =>
    intro ending
    simp only [Sweep.advance, StableSort.dropWhile_eq_filter ordered, List.mem_filter,
      mem_foldl_pushEnding, Bool.not_eq_true', decide_eq_false_iff_not, here.endings]
    rw [StableSort.takeWhile_eq_filter begun]
    simp only [List.mem_filter, here.pending, decide_eq_true_eq]
    constructor
    · rintro ⟨⟨fn, held, started, running, rfl⟩ | ⟨fn, ⟨⟨held, waiting⟩, soon⟩, rfl⟩, lasting⟩
      · exact ⟨fn, held, by omega, by omega, rfl⟩
      · exact ⟨fn, held, by omega, by omega, rfl⟩
    · rintro ⟨fn, held, started, running, rfl⟩
      refine ⟨?_, by omega⟩
      by_cases begun : fn.start < limit
      · exact .inl ⟨fn, held, begun, by omega, rfl⟩
      · exact .inr ⟨fn, ⟨⟨held, by omega⟩, by omega⟩, rfl⟩
  case endingsOrdered =>
    exact (pairwise_foldl_pushEnding here.endingsOrdered).sublist (List.dropWhile_sublist _)

/-- One decoded line is appended to a function once, if its extent holds the address. -/
theorem At.appended (here : sweep.At functions (address + 1))
    (keyed : ∀ first ∈ functions, ∀ second ∈ functions, first.start = second.start → first = second)
    {fn : Function} (member : fn ∈ functions) (instruction : Instruction) :
    (((sweep.active.filter fun other => address < other.stop).map fun other =>
        (other.start, instruction)).filter fun entry => entry.1 = fn.start).map Prod.snd =
      if fn.start ≤ address ∧ address < fn.stop then [instruction] else [] := by
  have nodup : sweep.active.Nodup := (List.nodup_append.mp here.distinct).1
  have alone : ∀ other ∈ sweep.active, other.start = fn.start ↔ other = fn := by
    intro other held
    exact ⟨keyed other ((here.active other).mp held).1 fn member, congrArg Function.start⟩
  rw [List.filter_map, List.map_map, List.filter_filter]
  split
  · next inside =>
      have held : fn ∈ sweep.active := (here.active fn).mpr ⟨member, by omega, by omega⟩
      have single : (sweep.active.filter fun other =>
          decide (address < other.stop) && decide (other.start = fn.start)) = [fn] := by
        refine List.perm_singleton.mp ((List.perm_ext_iff_of_nodup (nodup.filter _)
          (List.nodup_singleton fn)).mpr fun other => ?_)
        simp only [List.mem_filter, Bool.and_eq_true, decide_eq_true_eq, List.mem_singleton]
        constructor
        · rintro ⟨present, -, same⟩
          exact (alone other present).mp same
        · rintro rfl
          exact ⟨held, inside.2, rfl⟩
      have flipped : (sweep.active.filter fun other =>
          decide (other.start = fn.start) && decide (address < other.stop)) = [fn] := by
        simpa only [Bool.and_comm] using single
      exact congrArg (List.map _) flipped
  · next outside =>
      have none : (sweep.active.filter fun other =>
          decide (other.start = fn.start) && decide (address < other.stop)) = [] := by
        rw [List.filter_eq_nil_iff]
        intro other present good
        simp only [Bool.and_eq_true, decide_eq_true_eq] at good
        obtain rfl := (alone other present).mp good.1
        have := (here.active other).mp present
        omega
      exact congrArg (List.map _) none

theorem run_filter (here : sweep.At functions limit)
    (keyed : ∀ first ∈ functions, ∀ second ∈ functions, first.start = second.start → first = second)
    {instructions : List Instruction}
    (sorted : instructions.Pairwise fun first second => first.address ≤ second.address)
    (later : ∀ instruction ∈ instructions, limit ≤ instruction.address + 1)
    {fn : Function} (member : fn ∈ functions) :
    ((sweep.run instructions).filter fun entry => entry.1 = fn.start).map Prod.snd =
      instructions.filter fun instruction =>
        fn.start ≤ instruction.address ∧ instruction.address < fn.stop := by
  induction instructions generalizing sweep limit with
  | nil => rfl
  | cons instruction rest ih =>
      obtain ⟨below, sortedRest⟩ := List.pairwise_cons.mp sorted
      have there := here.advance keyed (later instruction List.mem_cons_self)
      have tail := ih there sortedRest fun other held => by
        have := below other held
        omega
      rw [Sweep.run, List.filter_append, List.map_append, tail, there.appended keyed member,
        List.filter_cons]
      by_cases inside : fn.start ≤ instruction.address ∧ instruction.address < fn.stop
      · simp [inside]
      · simp [inside]

/-- Before the first line no function has begun. -/
theorem at_start (ordered : functions.Pairwise fun first second => first.start ≤ second.start)
    (distinct : functions.Nodup) : At functions 0 ⟨functions, [], []⟩ where
  pending := by simp
  pendingOrdered := ordered
  active := by simp
  distinct := distinct
  endings := by simp
  endingsOrdered := List.Pairwise.nil

end Sweep

/-! ## What each function holds -/

variable {tables : UnicodeTables} {text : Str} {byAddress : Dict Nat Function} {fn : Function}

/-- The lines of an extent: by ascending addresses, and those of one address as listed. -/
structure Contained (listed : List Instruction) (fn : Function) (held : List Instruction) :
    Prop where
  ascending : held.Pairwise fun first second => first.address ≤ second.address
  lines : ∀ address, held.filter (fun ins => ins.address = address) =
    if fn.start ≤ address ∧ address < fn.stop then
      listed.filter fun ins => ins.address = address
    else []

theorem contained_filter (listed : List Instruction) (fn : Function) :
    Contained listed fn ((sortedByAddress listed).filter fun ins =>
      fn.start ≤ ins.address ∧ ins.address < fn.stop) where
  ascending := (StableSort.pairwise_insertionSort Instruction.address listed).filter _
  lines := by
    intro address
    have kept := StableSort.filter_insertionSort Instruction.address listed address
    rw [List.filter_filter]
    split
    · next inside =>
        rw [← kept]
        refine List.filter_congr fun ins _ => ?_
        by_cases same : ins.address = address
        · simp [same, inside]
        · simp [same]
    · next outside =>
        rw [List.filter_eq_nil_iff]
        intro ins _ good
        simp only [Bool.and_eq_true, decide_eq_true_eq] at good
        exact outside (good.1 ▸ good.2)

/-- The sweep gives each function of a table the lines that its extent contains. -/
theorem covered_filter
    (keyed : ∀ address fn, byAddress.get? address = some fn → fn.start = address)
    {address : Nat} (found : byAddress.get? address = some fn) :
    ((covered tables text byAddress).filter fun entry => entry.1 = fn.start).map Prod.snd =
      (sortedByAddress (decoded tables text)).filter fun ins =>
        fn.start ≤ ins.address ∧ ins.address < fn.stop := by
  have members : ∀ other, other ∈ byAddress.entries.map Prod.snd →
      (other.start, other) ∈ byAddress.entries := by
    intro other held
    obtain ⟨entry, inside, rfl⟩ := List.mem_map.mp held
    rw [keyed entry.1 entry.2 (Dict.mem_entries.mp inside)]
    exact inside
  have before : Std.Total fun first second : Function => first.start < second.start ∨
      (first.start = second.start ∧ first.stop ≤ second.stop) := ⟨fun a b => by omega⟩
  have trans : IsTrans Function fun first second => first.start < second.start ∨
      (first.start = second.start ∧ first.stop ≤ second.stop) := ⟨fun a b c => by omega⟩
  have ordered := List.pairwise_insertionSort (fun first second : Function =>
    first.start < second.start ∨ (first.start = second.start ∧ first.stop ≤ second.stop))
      (byAddress.entries.map Prod.snd)
  have distinct : (byAddress.entries.map Prod.snd).Nodup := by
    refine List.Nodup.of_map Function.start ?_
    have starts : (byAddress.entries.map Prod.snd).map Function.start =
        byAddress.entries.map Prod.fst := by
      rw [List.map_map]
      exact List.map_congr_left fun entry held =>
        keyed entry.1 entry.2 (Dict.mem_entries.mp held)
    exact starts ▸ byAddress.distinct
  refine Sweep.run_filter (Sweep.at_start (ordered.imp fun {a b} early => by omega)
    ((List.perm_insertionSort _ _).nodup_iff.mpr distinct)) ?_
    (StableSort.pairwise_insertionSort Instruction.address _) (fun _ _ => Nat.zero_le _) ?_
  · intro first firstHeld second secondHeld same
    rw [List.mem_insertionSort] at firstHeld secondHeld
    have one := Dict.mem_entries.mp (members first firstHeld)
    have two := Dict.mem_entries.mp (members second secondHeld)
    exact Option.some.inj (one.symm.trans (same ▸ two))
  · rw [List.mem_insertionSort]
    exact List.mem_map.mpr ⟨_, Dict.mem_entries.mpr found, rfl⟩

/-- After `parse_disassembly` each function of a table holds the lines its extent contains,
and an alias of a known start holds those of its function. -/
theorem contained_parseDisassembly (tables : UnicodeTables) (text : Str)
    (byAddress : Dict Nat Function) (byName : Dict Str Function)
    (keyed : ∀ address fn, byAddress.get? address = some fn → fn.start = address)
    (fresh : ∀ address fn, byAddress.get? address = some fn → fn.instructions = []) :
    (∀ address fn, byAddress.get? address = some fn →
      ∃ held, (parseDisassembly tables text byAddress).get? address =
          some { fn with instructions := held } ∧ Contained (decoded tables text) fn held) ∧
    (∀ name shared, byName.get? name = some shared →
      ∀ canonical, (parseDisassembly tables text byAddress).get? shared.start = some canonical →
        (shareInstructions (parseDisassembly tables text byAddress) byName).get? name =
          some { shared with instructions := canonical.instructions }) := by
  constructor
  · intro address fn found
    refine ⟨_, ?_, contained_filter (decoded tables text) fn⟩
    rw [parseDisassembly, Dict.get?_mapValues, found, Option.map_some, fresh address fn found,
      List.nil_append, covered_filter keyed found]
    have ascending := (contained_filter (decoded tables text) fn).ascending
    have settled : sortedByAddress ((sortedByAddress (decoded tables text)).filter fun ins =>
        fn.start ≤ ins.address ∧ ins.address < fn.stop) = _ :=
      StableSort.insertionSort_eq_self ascending
    rw [settled]
  · intro name fn named canonical found
    rw [shareInstructions, Dict.get?_mapValues, named, Option.map_some]
    simp only [found]

def nestedFunction (start size : Nat) : Function where
  name := "nested".toList
  start := start
  size := size
  instructions := []
  symbolSizes := ∅
  symbolKinds := ∅

/-- A function inside another one, and one of two lines that both of them hold. -/
theorem contained_parseDisassembly_nested :
    ∃ held, (parseDisassembly ⟨fun _ => false, fun text => text⟩ "14: c.nop\n10: nop\n".toList
        (((∅ : Dict Nat Function).set 0x10 (nestedFunction 0x10 8)).set 0x12
          (nestedFunction 0x12 4))).get? 0x12 =
          some { nestedFunction 0x12 4 with instructions := held } ∧
      Contained (decoded ⟨fun _ => false, fun text => text⟩ "14: c.nop\n10: nop\n".toList)
        (nestedFunction 0x12 4) held := by
  refine (contained_parseDisassembly _ _ _ ∅ ?_ ?_).1 0x12 (nestedFunction 0x12 4) rfl
  all_goals
    intro address fn found
    simp only [Dict.get?_set, Dict.get?_empty] at found
    split at found
    · next same =>
        obtain rfl := Option.some.inj found
        simp [same, nestedFunction]
    · split at found
      · next same =>
          obtain rfl := Option.some.inj found
          simp [same, nestedFunction]
      · cases found

end AxolotyEmbedded.FirstInit
