import AxolotyEmbedded.LinkedStorage.Elf
import AxolotyEmbedded.Library.Closure

/-!
`measure` of the linked storage audit: the checks that tie the map to the writable
sections, the rows charged to the object, and the report. The digests and the texts that
are the same in every report are left out of it.
-/
namespace AxolotyEmbedded.LinkedStorage

open PythonText Checked

/-! ## The class of a writable section -/

inductive AccountingClass where
  | bss
  | data
  | reservedOrRuntimeBoundary
  | readOnlyContentWithWritableElfFlag
  deriving DecidableEq

/-- `writable_section_class`. Of the characters outside ASCII, `lower` makes none a letter
of the words looked for. -/
def writableSectionClass (name : Str) : Except AuditError AccountingClass :=
  let lowered := name.map Char.toLower
  if contains "bss".toList lowered then .ok .bss
  else if contains "data".toList lowered && !contains "rodata".toList lowered then .ok .data
  else if name ∈ [".noinit".toList, ".rtc_reserved".toList, ".iram0.text_end".toList,
      ".flash_rodata_dummy".toList, ".dram0.heap_start".toList] then
    .ok .reservedOrRuntimeBoundary
  else if contains "rodata".toList lowered then .ok .readOnlyContentWithWritableElfFlag
  else .error ⟨"unsupported allocated writable ELF section category: ".toList ++ name⟩

/-! ## Overlaps of symbols -/

/-- The order of tuples of two numbers and a text. -/
def KeyBefore (key : ElfSymbol → Nat × Nat × Str) (first second : ElfSymbol) : Prop :=
  (key first).1 < (key second).1 ∨ (key first).1 = (key second).1 ∧
    ((key first).2.1 < (key second).2.1 ∨ (key first).2.1 = (key second).2.1 ∧
      strLe (key first).2.2 (key second).2.2 = true)

instance decidableKeyBefore (key : ElfSymbol → Nat × Nat × Str) (first second : ElfSymbol) :
    Decidable (KeyBefore key first second) :=
  inferInstanceAs (Decidable (_ ∨ _ ∧ (_ ∨ _ ∧ _)))

def sortSymbols (key : ElfSymbol → Nat × Nat × Str) (symbols : List ElfSymbol) :
    List ElfSymbol :=
  symbols.insertionSort (KeyBefore key)

structure Conflict where
  left : Str
  right : Str

/-- The conflicts of one group, `active` the earlier symbols that may reach the next. -/
def groupConflicts (active : List ElfSymbol) : List ElfSymbol → List Conflict
  | [] => []
  | symbol :: group =>
      let reaching := active.filter fun item => symbol.address < item.address + item.size
      (reaching.filter fun prior =>
        (prior.address, prior.size) != (symbol.address, symbol.size)).map
          (fun prior => ⟨prior.name, symbol.name⟩) ++
        groupConflicts (reaching ++ [symbol]) group

def conflictingOverlaps (symbols : List ElfSymbol) : List Conflict :=
  (symbols.map ElfSymbol.sectionIndex).eraseDups.flatMap fun index =>
    groupConflicts [] (sortSymbols (fun s => (s.address, s.address + s.size, s.name))
      (symbols.filter fun symbol => symbol.sectionIndex == index))

/-- `json.dumps(overlaps, sort_keys=True)`. -/
def conflictsText (conflicts : List Conflict) : Str :=
  '[' :: List.intercalate ", ".toList (conflicts.map fun conflict =>
    "\x7b\"left\": ".toList ++ jsonString conflict.left ++ ", \"right\": ".toList ++
      jsonString conflict.right ++ "\x7d".toList) ++ [']']

/-! ## The map against the sections -/

/-- `map_outputs` has one output of each name. -/
def checkDuplicates : List Str → List MapOutput → Except AuditError Unit
  | _, [] => .ok ()
  | seen, output :: outputs => do
      refuseIf (output.name ∈ seen)
        ⟨"ambiguous duplicate linker map output section ".toList ++ output.name⟩
      checkDuplicates (output.name :: seen) outputs

/-- The sized inputs of an output cover it, by a cursor over their sorted ranges. -/
def checkCoverage (target : ElfSection) (mapped : MapOutput) : Except AuditError Unit :=
  let incomplete (cursor : Nat) : AuditError :=
    ⟨"incomplete map input coverage in ".toList ++ target.name ++ " at 0x".toList ++
      hexText cursor⟩
  let ranges := Ranges.sorted
    ((mapped.inputs.filter fun item => item.size != 0).map MapInput.range)
  match Ranges.sweep mapped.address ranges with
  | .error cursor => .error (incomplete cursor)
  | .ok cursor => refuseIf (cursor ≠ mapped.address + mapped.size) (incomplete cursor)

def MapOutput.Outside (mapped : MapOutput) (item : MapInput) : Prop :=
  item.address < mapped.address ∨ mapped.address + mapped.size < item.address + item.size

instance decidableOutside (mapped : MapOutput) (item : MapInput) :
    Decidable (mapped.Outside item) :=
  inferInstanceAs (Decidable (_ ∨ _))

/-- One writable section of nonzero size against the output of its name. -/
def checkSection (outputs : List MapOutput) (target : ElfSection) : Except AuditError Unit :=
  let uncovered : AuditError :=
    ⟨"linker map does not completely cover writable ELF section ".toList ++ target.name⟩
  match outputs.find? fun output => output.name == target.name with
  | none => .error uncovered
  | some mapped => do
      refuseIf (mapped.address ≠ target.address ∨ mapped.size ≠ target.size) uncovered
      refuseIf (mapped.inputs.any fun item => mapped.Outside item)
        ⟨"map input range outside output section ".toList ++ target.name⟩
      checkCoverage target mapped

/-! ## The rows charged to the object -/

/-- A row of an output with its place, which stands for the identity of the object. -/
abbrev Placed := MapInput × Nat

/-- `stop == left or start == right`. -/
def touches (item chosen : Placed) : Bool :=
  item.1.range.2 == chosen.1.range.1 || item.1.range.1 == chosen.1.range.2

def MapOutput.matching (identity : Str) (output : MapOutput) : List Placed :=
  output.inputs.zipIdx.filter fun item => item.1.owner == identity && item.1.size != 0

def MapOutput.fills (output : MapOutput) : List Placed :=
  output.inputs.zipIdx.filter fun item => item.1.inputSection == fillName

/-- `selected`: the sized rows of the object and, pass by pass, the padding that touches a
selected row. Each pass but the last selects a row, so there is one for every row. -/
def MapOutput.selected (identity : Str) (output : MapOutput) : List Placed :=
  if (output.matching identity).isEmpty then []
  else Closure.close touches output.fills output.inputs.length (output.matching identity)

/-- `{**item, "output_section": output["name"]}`. -/
structure Contribution where
  item : MapInput
  outputSection : Str

/-- The selected rows of the outputs with one of the names. -/
def contributions (names : List Str) (outputs : List MapOutput) (identity : Str) :
    List Contribution :=
  (outputs.filter fun output => names.contains output.name).flatMap fun output =>
    (output.selected identity).map fun placed => ⟨placed.1, output.name⟩

/-! ## The report -/

inductive RecognizedIdentity where
  | generatedState
  | phase4AgentA
  | phase4AgentB
  deriving DecidableEq

def recognizedIdentity (name : Str) : Option RecognizedIdentity :=
  if contains "__axoloty_application_state".toList name then some .generatedState
  else if contains "phase4AgentA".toList name then some .phase4AgentA
  else if contains "phase4AgentB".toList name then some .phase4AgentB
  else none

structure ReportSymbol where
  symbol : ElfSymbol
  aliases : List Str
  rangeBytesUnion : Nat
  recognizedIdentity : Option RecognizedIdentity

/-- The names of the symbols with the same range in a section of the same name. -/
def aliasGroup (symbols : List ElfSymbol) (symbol : ElfSymbol) : List Str :=
  ((symbols.filter fun other => (other.address, other.size, other.sectionName) ==
    (symbol.address, symbol.size, symbol.sectionName)).map ElfSymbol.name).insertionSort
      fun first second => strLe first second = true

def reportSymbol (symbols : List ElfSymbol) (symbol : ElfSymbol) : ReportSymbol where
  symbol := symbol
  aliases := aliasGroup symbols symbol
  rangeBytesUnion :=
    if (aliasGroup symbols symbol).head? = some symbol.name then symbol.size else 0
  recognizedIdentity := recognizedIdentity symbol.name

def ElfSymbol.range (symbol : ElfSymbol) : Ranges.Range :=
  (symbol.address, symbol.address + symbol.size)

/-- The parts of symbols inside contributions. -/
def intersections (symbols objects : List Ranges.Range) : List Ranges.Range :=
  symbols.flatMap fun symbol =>
    (objects.filter fun object => max symbol.1 object.1 < min symbol.2 object.2).map
      fun object => (max symbol.1 object.1, min symbol.2 object.2)

structure Report where
  classBits : Nat
  little : Bool
  writableAllocatedSections : List (ElfSection × AccountingClass)
  dataBytes : Nat
  dataSections : List Str
  bssBytes : Nat
  bssSections : List Str
  writableSymbols : List ReportSymbol
  exactSymbolUnionBytes : Nat
  exactSymbolRangeCount : Nat
  identifiedSymbols : List ReportSymbol
  writableContributions : List Contribution
  conservativeDebitBytes : Nat
  symbolRangesInsideContributions : Nat
  aggregateChargedStaticBytes : Nat

namespace Elf

variable (elf : Elf)

/-- `alloc_write`. -/
def writable : List ElfSection := elf.sections.filter ElfSection.isWritable

/-- `measured_sections`. -/
def measured : List ElfSection := elf.writable.filter fun target => target.size != 0

def writableNames : List Str := elf.writable.map ElfSection.name

end Elf

/-- `measure` with the parsed file and map. -/
def measureParsed (elf : Elf) (outputs : List MapOutput) (identity : Str) :
    Except AuditError Report := do
  let classified ← collect
    (fun target => do return [(target, ← writableSectionClass target.name)]) elf.writable
  let ofClass (accounting : AccountingClass) : List ElfSection :=
    (classified.filter fun entry => entry.2 == accounting).map Prod.fst
  let symbols := sortSymbols (fun s => (s.address, s.size, s.name)) elf.symbols
  let overlaps := conflictingOverlaps symbols
  refuseIf (overlaps.isEmpty = false)
    ⟨"conflicting writable symbol ranges: ".toList ++ conflictsText overlaps⟩
  checkDuplicates [] outputs
  checkAll (checkSection outputs) elf.measured
  let objectSections := contributions elf.writableNames outputs identity
  refuseIf (objectSections.isEmpty = true)
    ⟨"combined object has no sized writable input-section contribution".toList⟩
  let objectRanges := objectSections.map fun object => object.item.range
  let symbolRanges := symbols.map ElfSymbol.range
  let reportSymbols := symbols.map (reportSymbol symbols)
  let combinedBytes := Ranges.merged objectRanges
  return {
    classBits := elf.classBits
    little := elf.little
    writableAllocatedSections := classified
    dataBytes := Ranges.total ((ofClass .data).map ElfSection.size)
    dataSections := (ofClass .data).map ElfSection.name
    bssBytes := Ranges.total ((ofClass .bss).map ElfSection.size)
    bssSections := (ofClass .bss).map ElfSection.name
    writableSymbols := reportSymbols
    exactSymbolUnionBytes := Ranges.merged symbolRanges
    exactSymbolRangeCount := symbols.length
    identifiedSymbols := reportSymbols.filter fun s => s.recognizedIdentity.isSome
    writableContributions := objectSections
    conservativeDebitBytes := combinedBytes
    symbolRangesInsideContributions := Ranges.merged (intersections symbolRanges objectRanges)
    aggregateChargedStaticBytes := combinedBytes }

def measure (elfBytes mapBytes : List UInt8) (identity : Str) : Except AuditError Report := do
  let elf ← parseElf elfBytes
  let outputs ← parseMap identity (decode mapBytes)
  measureParsed elf outputs identity

end AxolotyEmbedded.LinkedStorage
