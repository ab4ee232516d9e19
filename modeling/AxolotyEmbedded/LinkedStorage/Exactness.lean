import AxolotyEmbedded.LinkedStorage.Measure
import Mathlib.Data.Set.Card

/-!
What a report of the linked storage audit measures. The debit is the number of addresses
of the charged rows, each counted once. A section of nonzero size bounds the rows of its
output; the rows of an output whose writable sections are all empty are charged without a
check, and are the only ones outside the writable sections.
-/
namespace AxolotyEmbedded.LinkedStorage

open PythonText Checked

variable {elf : Elf} {outputs : List MapOutput} {identity : Str} {report : Report}

/-! ## The outputs that were checked -/

theorem checkDuplicates_eq_ok {seen : List Str} {u : Unit} :
    checkDuplicates seen outputs = .ok u →
      (outputs.map MapOutput.name).Nodup ∧ ∀ output ∈ outputs, output.name ∉ seen := by
  induction outputs generalizing seen with
  | nil => simp
  | cons output outputs ih =>
      intro checked
      simp only [checkDuplicates, bind_eq_ok, refuseIf_eq_ok] at checked
      obtain ⟨_, fresh, checked⟩ := checked
      obtain ⟨distinct, apart⟩ := ih checked
      constructor
      · rw [List.map_cons, List.nodup_cons]
        refine ⟨fun again => ?_, distinct⟩
        obtain ⟨other, member, same⟩ := List.mem_map.mp again
        exact apart other member (same ▸ List.mem_cons_self)
      · rintro other member
        obtain rfl | member := List.mem_cons.mp member
        · exact fresh
        · exact fun held => apart other member (List.mem_cons_of_mem _ held)

theorem eq_of_name_eq (distinct : (outputs.map MapOutput.name).Nodup) {first second : MapOutput}
    (held : first ∈ outputs) (member : second ∈ outputs) (same : first.name = second.name) :
    first = second :=
  List.inj_on_of_nodup_map distinct held member same

/-- The output of a section covers it and does not leave it. -/
structure CoveredBy (target : ElfSection) (output : MapOutput) : Prop where
  name : output.name = target.name
  address : output.address = target.address
  size : output.size = target.size
  covered : ∀ a, target.address ≤ a → a < target.address + target.size →
    ∃ row ∈ output.inputs, row.address ≤ a ∧ a < row.address + row.size
  within : ∀ row ∈ output.inputs,
    target.address ≤ row.address ∧ row.address + row.size ≤ target.address + target.size

theorem covered_of_checkCoverage {target : ElfSection} {mapped : MapOutput} {u : Unit}
    (checked : checkCoverage target mapped = .ok u) {a : Nat} (begun : mapped.address ≤ a)
    (below : a < mapped.address + mapped.size) :
    ∃ row ∈ mapped.inputs, row.address ≤ a ∧ a < row.address + row.size := by
  simp only [checkCoverage] at checked
  split at checked
  · cases checked
  · next cursor swept =>
    have full : cursor = mapped.address + mapped.size := by simpa using checked
    subst full
    have inside := Ranges.covered_of_sweep swept begun below
    rw [Ranges.covered_perm (Ranges.sorted_perm _), Ranges.mem_covered] at inside
    obtain ⟨range, member, low, high⟩ := inside
    obtain ⟨row, held, rfl⟩ := List.mem_map.mp member
    exact ⟨row, List.mem_of_mem_filter held, low, high⟩

theorem coveredBy_of_checkSection {target : ElfSection} {u : Unit}
    (checked : checkSection outputs target = .ok u) :
    ∃ output ∈ outputs, CoveredBy target output := by
  simp only [checkSection] at checked
  split at checked
  · cases checked
  · next mapped found =>
    simp only [bind_eq_ok, refuseIf_eq_ok, not_or, not_not, List.any_eq_true, not_exists,
      not_and, decide_eq_true_eq] at checked
    obtain ⟨_, ⟨address, size⟩, _, within, checked⟩ := checked
    refine ⟨mapped, List.mem_of_find?_eq_some found, {
      name := by simpa using List.find?_some found
      address
      size
      covered := fun a begun below => ?_
      within := fun row held => ?_ }⟩
    · exact covered_of_checkCoverage checked (by omega) (by omega)
    · have inside := within row held
      simp only [MapOutput.Outside] at inside
      omega

/-! ## The addresses that were charged -/

/-- A row of the object, or padding connected to one by rows that touch. -/
def Charged (identity : Str) (output : MapOutput) (row : MapInput) : Prop :=
  ∃ place, Closure.Reached touches output.fills (output.matching identity) (row, place)

/-- The addresses of the charged rows of the outputs with one of the names. -/
def chargedBytes (names : List Str) (outputs : List MapOutput) (identity : Str) : Set Nat :=
  {a | ∃ output ∈ outputs, output.name ∈ names ∧
    ∃ row, Charged identity output row ∧ row.address ≤ a ∧ a < row.address + row.size}

theorem mem_selected {output : MapOutput} {placed : Placed} :
    placed ∈ output.selected identity ↔
      Closure.Reached touches output.fills (output.matching identity) placed := by
  rw [MapOutput.selected]
  split
  · next none =>
    rw [List.isEmpty_iff.mp none]
    simp [Closure.not_reached_nil]
  · have enough : output.fills.length ≤ output.inputs.length := by
      have kept := List.length_filter_le (fun item : Placed => item.1.inputSection == fillName)
        output.inputs.zipIdx
      rwa [List.length_zipIdx] at kept
    exact Closure.mem_close enough

theorem mem_inputs_of_charged {output : MapOutput} {row : MapInput}
    (charged : Charged identity output row) : row ∈ output.inputs := by
  obtain ⟨place, reached⟩ := charged
  have placed : (row, place) ∈ output.inputs.zipIdx := by
    obtain seed | padding := reached.mem
    · exact List.mem_of_mem_filter seed
    · exact List.mem_of_mem_filter padding
  exact List.fst_mem_of_mem_zipIdx placed

theorem mem_contributions {names : List Str} {object : Contribution} :
    object ∈ contributions names outputs identity ↔
      ∃ output ∈ outputs, output.name ∈ names ∧
        ∃ row, Charged identity output row ∧ object = ⟨row, output.name⟩ := by
  simp only [contributions, List.mem_flatMap, List.mem_filter, List.contains_iff_mem,
    List.mem_map, mem_selected, Charged, and_assoc, Prod.exists]
  constructor
  · rintro ⟨output, member, named, row, place, reached, rfl⟩
    exact ⟨output, member, named, row, ⟨place, reached⟩, rfl⟩
  · rintro ⟨output, member, named, row, ⟨place, reached⟩, rfl⟩
    exact ⟨output, member, named, row, place, reached, rfl⟩

/-- The addresses of the contributions are the charged ones. -/
theorem coe_covered_contributions (names : List Str) :
    (Ranges.covered ((contributions names outputs identity).map fun object =>
      object.item.range) : Set Nat) = chargedBytes names outputs identity := by
  ext a
  rw [Finset.mem_coe, Ranges.mem_covered]
  constructor
  · rintro ⟨range, member, low, high⟩
    obtain ⟨object, held, rfl⟩ := List.mem_map.mp member
    obtain ⟨output, among, named, row, charged, rfl⟩ := mem_contributions.mp held
    exact ⟨output, among, named, row, charged, low, high⟩
  · rintro ⟨output, member, named, row, charged, low, high⟩
    exact ⟨row.range, List.mem_map.mpr ⟨⟨row, output.name⟩,
      mem_contributions.mpr ⟨output, member, named, row, charged, rfl⟩, rfl⟩, low, high⟩

theorem finite_chargedBytes (names : List Str) : (chargedBytes names outputs identity).Finite := by
  rw [← coe_covered_contributions]
  exact Finset.finite_toSet _

theorem merged_contributions (names : List Str) :
    Ranges.merged ((contributions names outputs identity).map fun object =>
      object.item.range) = (chargedBytes names outputs identity).ncard := by
  rw [← coe_covered_contributions, Set.ncard_coe_finset]
  apply Ranges.merged_eq_card
  intro range member
  obtain ⟨object, _, rfl⟩ := List.mem_map.mp member
  exact Nat.le_add_right ..

theorem merged_intersections_le {symbols objects : List Ranges.Range}
    (valid : ∀ range ∈ objects, range.1 ≤ range.2) :
    Ranges.merged (intersections symbols objects) ≤ Ranges.merged objects := by
  have pieces : ∀ range ∈ intersections symbols objects,
      range.1 < range.2 ∧ ∃ object ∈ objects, object.1 ≤ range.1 ∧ range.2 ≤ object.2 := by
    intro range member
    obtain ⟨symbol, _, member⟩ := List.mem_flatMap.mp member
    obtain ⟨object, held, rfl⟩ := List.mem_map.mp member
    obtain ⟨held, meet⟩ := List.mem_filter.mp held
    exact ⟨by simpa using meet, object, held, Nat.le_max_right .., Nat.min_le_right ..⟩
  rw [Ranges.merged_eq_card valid,
    Ranges.merged_eq_card fun range member => (pieces range member).1.le]
  apply Finset.card_le_card
  intro a inside
  obtain ⟨range, member, low, high⟩ := Ranges.mem_covered.mp inside
  obtain ⟨_, object, held, starts, stops⟩ := pieces range member
  exact Ranges.mem_covered.mpr ⟨object, held, starts.trans low, Nat.lt_of_lt_of_le high stops⟩

/-! ## What a report measures -/

namespace Elf

def measuredNames (elf : Elf) : List Str := elf.measured.map ElfSection.name

/-- The total size of the writable allocated sections. -/
def writableBytes (elf : Elf) : Nat := Ranges.total (elf.writable.map ElfSection.size)

end Elf

def ElfSection.range (target : ElfSection) : Ranges.Range :=
  (target.address, target.address + target.size)

/-- What every report says of the file and the map it was made from. -/
structure Accurate (elf : Elf) (outputs : List MapOutput) (identity : Str) (report : Report) :
    Prop where
  covered : ∀ target ∈ elf.sections, target.isWritable = true → target.size ≠ 0 →
    ∃ output ∈ outputs, CoveredBy target output ∧
      ∀ other ∈ outputs, other.name = target.name → other = output
  debit : report.conservativeDebitBytes =
    (chargedBytes elf.writableNames outputs identity).ncard
  symbols : report.symbolRangesInsideContributions ≤ report.conservativeDebitBytes

/-- The debit is also within the writable sections. -/
structure Exact (elf : Elf) (outputs : List MapOutput) (identity : Str) (report : Report) : Prop
    extends Accurate elf outputs identity report where
  bounded : report.conservativeDebitBytes ≤ elf.writableBytes

/-- Every output with a charged row has a writable section of nonzero size. -/
def Backed (elf : Elf) (outputs : List MapOutput) (identity : Str) : Prop :=
  ∀ output ∈ outputs, output.name ∈ elf.writableNames →
    (∃ row, Charged identity output row) → output.name ∈ elf.measuredNames

/-- The bytes charged through outputs whose writable sections are all empty are no more
than the bytes of the writable sections that the other outputs leave uncharged. -/
def StrayFits (elf : Elf) (outputs : List MapOutput) (identity : Str) : Prop :=
  (chargedBytes elf.writableNames outputs identity \
      chargedBytes elf.measuredNames outputs identity).ncard ≤
    elf.writableBytes - (chargedBytes elf.measuredNames outputs identity).ncard

theorem mem_measured {target : ElfSection} :
    target ∈ elf.measured ↔
      target ∈ elf.sections ∧ target.isWritable = true ∧ target.size ≠ 0 := by
  simp only [Elf.measured, Elf.writable, List.mem_filter, bne_iff_ne, and_assoc]

theorem chargedBytes_measured_subset :
    chargedBytes elf.measuredNames outputs identity ⊆
      chargedBytes elf.writableNames outputs identity := by
  rintro a ⟨output, member, named, charged⟩
  obtain ⟨target, held, same⟩ := List.mem_map.mp named
  exact ⟨output, member, List.mem_map.mpr ⟨target, List.mem_of_mem_filter held, same⟩, charged⟩

/-- The checks that a report rests on. -/
structure OutputsChecked (elf : Elf) (outputs : List MapOutput) : Prop where
  distinct : (outputs.map MapOutput.name).Nodup
  covered : ∀ target ∈ elf.measured, ∃ output ∈ outputs, CoveredBy target output

theorem measureParsed_eq_ok (measured : measureParsed elf outputs identity = .ok report) :
    OutputsChecked elf outputs ∧
      report.conservativeDebitBytes = Ranges.merged
        ((contributions elf.writableNames outputs identity).map fun object =>
          object.item.range) ∧
      report.symbolRangesInsideContributions = Ranges.merged (intersections
        ((sortSymbols (fun s => (s.address, s.size, s.name)) elf.symbols).map ElfSymbol.range)
        ((contributions elf.writableNames outputs identity).map fun object =>
          object.item.range)) ∧
      report.exactSymbolUnionBytes = Ranges.merged
        ((sortSymbols (fun s => (s.address, s.size, s.name)) elf.symbols).map
          ElfSymbol.range) := by
  simp only [measureParsed, bind_eq_ok, checkAll_eq_ok, pure, Except.pure, Except.ok.injEq]
    at measured
  obtain ⟨_, _, _, _, _, distinct, _, sections, _, _, rfl⟩ := measured
  refine ⟨⟨(checkDuplicates_eq_ok distinct).1, fun target member => ?_⟩, rfl, rfl, rfl⟩
  exact coveredBy_of_checkSection (sections target member)

/-- Addresses inside the writable sections count at most the sizes of these. -/
theorem card_le_writableBytes {bytes : Finset Nat}
    (inside : bytes ⊆ Ranges.covered (elf.writable.map ElfSection.range)) :
    bytes.card ≤ elf.writableBytes :=
  calc bytes.card
      ≤ (Ranges.covered (elf.writable.map ElfSection.range)).card := Finset.card_le_card inside
    _ ≤ Ranges.total ((elf.writable.map ElfSection.range).map Ranges.length) :=
        Ranges.card_covered_le _
    _ = elf.writableBytes := by
        simp [Elf.writableBytes, ElfSection.range, Ranges.length, Function.comp_def]

theorem ncard_chargedBytes_measured_le (checked : OutputsChecked elf outputs) :
    (chargedBytes elf.measuredNames outputs identity).ncard ≤ elf.writableBytes := by
  rw [← coe_covered_contributions, Set.ncard_coe_finset]
  apply card_le_writableBytes
  intro a charged
  rw [← Finset.mem_coe, coe_covered_contributions] at charged
  obtain ⟨output, member, named, row, charged, low, high⟩ := charged
  obtain ⟨target, measured, same⟩ := List.mem_map.mp named
  obtain ⟨covering, held, covers⟩ := checked.covered target measured
  obtain rfl := eq_of_name_eq checked.distinct held member (covers.name.trans same)
  have within := covers.within row (mem_inputs_of_charged charged)
  exact Ranges.mem_covered.mpr ⟨target.range,
    List.mem_map.mpr ⟨target, List.mem_of_mem_filter measured, rfl⟩,
    Nat.le_trans within.1 low, Nat.lt_of_lt_of_le high within.2⟩

/-- With every charged output backed, nothing is stray. -/
theorem strayFits_of_backed (backed : Backed elf outputs identity) :
    StrayFits elf outputs identity := by
  have none : chargedBytes elf.writableNames outputs identity \
      chargedBytes elf.measuredNames outputs identity = ∅ := by
    rw [Set.sdiff_eq_empty]
    rintro a ⟨output, member, named, row, charged, bounds⟩
    exact ⟨output, member, backed output member named ⟨row, charged⟩, row, charged, bounds⟩
  rw [StrayFits, none, Set.ncard_empty]
  exact Nat.zero_le _

/-- The symbols lie in the writable sections, so their union fits whatever the map says. -/
theorem exactSymbolUnion_le {elfBytes : List UInt8} (elfRead : parseElf elfBytes = .ok elf)
    (measured : measureParsed elf outputs identity = .ok report) :
    report.exactSymbolUnionBytes ≤ elf.writableBytes := by
  obtain ⟨_, _, _, union⟩ := measureParsed_eq_ok measured
  rw [union, Ranges.merged_eq_card]
  · apply card_le_writableBytes
    intro a inside
    obtain ⟨range, member, low, high⟩ := Ranges.mem_covered.mp inside
    obtain ⟨symbol, held, rfl⟩ := List.mem_map.mp member
    rw [sortSymbols, List.mem_insertionSort] at held
    obtain ⟨target, lies⟩ := inside_of_parseElf elfRead held
    have writable : target ∈ elf.writable :=
      List.mem_filter.mpr ⟨List.mem_of_getElem? lies.held, lies.writable⟩
    exact Ranges.mem_covered.mpr ⟨target.range, List.mem_map_of_mem writable,
      Nat.le_trans lies.starts low, Nat.lt_of_lt_of_le high lies.stops⟩
  · intro range member
    obtain ⟨symbol, _, rfl⟩ := List.mem_map.mp member
    exact Nat.le_add_right ..

theorem accurate_of_measureParsed (measured : measureParsed elf outputs identity = .ok report) :
    Accurate elf outputs identity report := by
  obtain ⟨checked, debit, symbols, _⟩ := measureParsed_eq_ok measured
  constructor
  · intro target held writable sized
    obtain ⟨output, member, covers⟩ :=
      checked.covered target (mem_measured.mpr ⟨held, writable, sized⟩)
    exact ⟨output, member, covers, fun other among same =>
      eq_of_name_eq checked.distinct among member (same.trans covers.name.symm)⟩
  · rw [debit, merged_contributions]
  · rw [symbols, debit]
    apply merged_intersections_le
    intro range member
    obtain ⟨object, _, rfl⟩ := List.mem_map.mp member
    exact Nat.le_add_right ..

/-- The debit is within the writable sections exactly where the stray bytes fit. -/
theorem bounded_iff_strayFits (measured : measureParsed elf outputs identity = .ok report) :
    report.conservativeDebitBytes ≤ elf.writableBytes ↔ StrayFits elf outputs identity := by
  have debit := (accurate_of_measureParsed measured).debit
  have sum : (chargedBytes elf.writableNames outputs identity \
        chargedBytes elf.measuredNames outputs identity).ncard +
      (chargedBytes elf.measuredNames outputs identity).ncard =
      (chargedBytes elf.writableNames outputs identity).ncard :=
    Set.ncard_sdiff_add_ncard_of_subset chargedBytes_measured_subset (finite_chargedBytes _)
  have inner : (chargedBytes elf.measuredNames outputs identity).ncard ≤ elf.writableBytes :=
    ncard_chargedBytes_measured_le (measureParsed_eq_ok measured).1
  rw [StrayFits]
  omega

/-- Every report is accurate, and its debit is within the writable sections exactly where
the stray bytes fit, as they do where every charged output is backed. -/
theorem exact_iff_strayFits {elfBytes mapBytes : List UInt8}
    (elfRead : parseElf elfBytes = .ok elf)
    (mapRead : parseMap identity (decode mapBytes) = .ok outputs)
    (measured : measure elfBytes mapBytes identity = .ok report) :
    (Exact elf outputs identity report ↔ StrayFits elf outputs identity) ∧
      Accurate elf outputs identity report ∧
      (Backed elf outputs identity → StrayFits elf outputs identity) := by
  have parsed : measureParsed elf outputs identity = .ok report := by
    rw [measure, elfRead, mapRead] at measured
    exact measured
  have accurate := accurate_of_measureParsed parsed
  have bounded := bounded_iff_strayFits parsed
  refine ⟨?_, accurate, strayFits_of_backed⟩
  constructor
  · exact fun exact => bounded.mp exact.bounded
  · exact fun fits => ⟨accurate, bounded.mpr fits⟩

/-! ## Files with few sections -/

def littleEndian (width value : Nat) : List UInt8 :=
  (List.range width).map fun i => UInt8.ofNat (value / 256 ^ i)

def asciiBytes (text : String) : List UInt8 := text.toList.map fun c => UInt8.ofNat c.toNat

/-- A RISC-V file of class 32 with the section `.shstrtab` of the given names and sections
of the given headers. -/
def sectionImage (names : String) (headers : List (List Nat)) : List UInt8 :=
  [0x7F, 0x45, 0x4C, 0x46, 1, 1, 1] ++ List.replicate 9 0 ++
    [2, 243].flatMap (littleEndian 2) ++
    [1, 0, 0, 52 + names.length, 0].flatMap (littleEndian 4) ++
    [52, 32, 0, 40, 2 + headers.length, 1].flatMap (littleEndian 2) ++ asciiBytes names ++
    List.replicate 40 0 ++
    [1, 3, 0, 0, 52, names.length, 0, 0, 1, 0].flatMap (littleEndian 4) ++
    headers.flatMap (·.flatMap (littleEndian 4))

/-- A file with `.bss` at `0x1000`. -/
def bssImage (size : Nat) : List UInt8 :=
  sectionImage "\x00.shstrtab\x00.bss\x00" [[11, 8, 3, 0x1000, 68, size, 0, 0, 4, 0]]

/-- A map with one output: sixteen bytes of `.bss` from one object. -/
def bssMap : List UInt8 :=
  asciiBytes ".bss 0x1000 0x10\n .bss 0x1000 0x10 app.o\n"

def appObject : Str := "app.o".toList

/-- A file with eight bytes of `.data` and, after them, twenty-four of `.bss`. -/
def paddedImage : List UInt8 :=
  sectionImage "\x00.shstrtab\x00.data\x00.bss\x00"
    [[11, 1, 3, 0x1000, 52, 8, 0, 0, 4, 0], [17, 8, 3, 0x1008, 74, 24, 0, 0, 4, 0]]

/-- The object has six bytes of `.data`, followed by padding, and most of `.bss`. -/
def paddedMap : List UInt8 :=
  asciiBytes (".data 0x1000 0x8\n .data 0x1000 0x6 app.o\n *fill* 0x1006 0x2\n" ++
    ".bss 0x1008 0x18\n .bss 0x1008 0x10 app.o\n .bss 0x1018 0x8 other.o\n")

theorem exact_iff_strayFits_padded : ∃ elf outputs report,
    parseElf paddedImage = .ok elf ∧ parseMap appObject (decode paddedMap) = .ok outputs ∧
      measure paddedImage paddedMap appObject = .ok report ∧
      report.conservativeDebitBytes = 24 ∧ elf.writableBytes = 32 ∧
      Exact elf outputs appObject report := by
  have debit : (measure paddedImage paddedMap appObject).toOption.map
      Report.conservativeDebitBytes = some 24 := by
    decide +kernel
  have names : (parseElf paddedImage).toOption.map (fun elf =>
      (elf.writableBytes, decide (elf.writableNames ⊆ elf.measuredNames))) = some (32, true) := by
    decide +kernel
  cases measured : measure paddedImage paddedMap appObject with
  | error error =>
      rw [measured] at debit
      cases debit
  | ok report =>
      obtain ⟨elf, elfRead, parsed⟩ := bind_eq_ok.mp measured
      obtain ⟨outputs, mapRead, _⟩ := bind_eq_ok.mp parsed
      rw [measured] at debit
      rw [elfRead] at names
      obtain ⟨total, named⟩ := Prod.mk.inj (Option.some.inj names)
      obtain ⟨exactly, _, fits⟩ := exact_iff_strayFits elfRead mapRead measured
      have backed : Backed elf outputs appObject :=
        fun _ _ writable _ => of_decide_eq_true named writable
      exact ⟨elf, outputs, report, elfRead, mapRead, rfl, Option.some.inj debit, total,
        exactly.mpr (fits backed)⟩

theorem not_exact_emptyBss : ¬∀ (elfBytes mapBytes : List UInt8) (identity : Str) (elf : Elf)
    (outputs : List MapOutput) (report : Report), parseElf elfBytes = .ok elf →
    parseMap identity (decode mapBytes) = .ok outputs →
    measure elfBytes mapBytes identity = .ok report → Exact elf outputs identity report := by
  intro always
  have sizes : ((measure (bssImage 0) bssMap appObject).toOption.map
      Report.conservativeDebitBytes, (parseElf (bssImage 0)).toOption.map Elf.writableBytes) =
      (some 16, some 0) := by
    decide +kernel
  cases measured : measure (bssImage 0) bssMap appObject with
  | error error =>
      rw [measured] at sizes
      cases sizes
  | ok report =>
      obtain ⟨elf, elfRead, parsed⟩ := bind_eq_ok.mp measured
      obtain ⟨outputs, mapRead, _⟩ := bind_eq_ok.mp parsed
      have bounded := (always _ _ _ elf outputs report elfRead mapRead measured).bounded
      rw [measured, elfRead] at sizes
      simp only [Except.toOption, Option.map_some, Prod.mk.injEq, Option.some.injEq] at sizes
      omega

end AxolotyEmbedded.LinkedStorage
