import AxolotyEmbedded.FirstInit.Image
import AxolotyEmbedded.FirstInit.Listing

/-!
`Program` of the initialization interval: the functions, names and instructions of the
firmware and of the ROM, and `one`, the lookup of a function by its name.
-/
namespace AxolotyEmbedded.FirstInit

open PythonText Checked
open LinkedStorage (slice)

/-- A file-backed allocated section; `readOnly` if no code can write it. -/
structure FileSection where
  address : Nat
  bytes : List UInt8
  readOnly : Bool

structure Program where
  functions : Dict Nat Function
  names : Dict Str Function
  instructions : Dict Nat Instruction
  sections : List FileSection
  rows : List SymbolRow
  origins : Dict Nat (List UInt8 × Str × Str)
  executable : List Executable

/-- One image with the text of its disassembly. -/
structure LoadedImage where
  origin : Str
  data : List UInt8
  text : Str

/-! ## The listing of the function symbols -/

/-- The sized function symbols whose bytes lie in one executable section of their image. -/
def selected (rows : List SymbolRow) (executable : List Executable) : List SymbolRow :=
  rows.filter fun row => row.type = 2 ∧ row.sectionName ≠ "ABS".toList ∧
    ∃ range ∈ executable, range.start ≤ row.address ∧ row.address + row.size ≤ range.stop

/-- The format `08x`. -/
def hex8 (value : Nat) : Str :=
  List.replicate (8 - (hexText value).length) '0' ++ hexText value

def rowText (row : SymbolRow) : Str :=
  hex8 row.address ++ ' ' :: (hex8 row.size ++ ' ' :: 'T' :: ' ' :: row.name)

def listing (rows : List SymbolRow) : Str := ['\n'].intercalate (rows.map rowText)

/-! ## Loading -/

def fileSection (data : List UInt8) (row : List Nat) : Option FileSection :=
  let flags := row.getD 2 0
  let address := row.getD 3 0
  let size := row.getD 5 0
  if row.getD 1 0 = 1 ∧ flags &&& 2 ≠ 0 then
    some ⟨address, slice data (row.getD 4 0) size,
      flags &&& 1 = 0 ∨
        (0x42000000 ≤ address ∧ address < address + size ∧ address + size ≤ 0x42800000)⟩
  else none

def fileSections (data : List UInt8) : Except ProofError (List FileSection) := do
  let shoff := (← unpack [4] data 32).getD 0 0
  let counts ← unpack [2, 2] data 46
  collect
    (fun i => do
      return (fileSection data (← unpack sectionFormat data (shoff + counts.getD 0 0 * i))).toList)
    (List.range (counts.getD 1 0))

variable (tables : UnicodeTables)

/-- The decoded lines that an executable section covers. -/
def sectionInstructions (image : LoadedImage) (range : Executable) : List Instruction :=
  let whole : Function :=
    { name := image.origin, start := range.start, size := range.stop - range.start,
      instructions := [], symbolSizes := ∅, symbolKinds := ∅ }
  (parseDisassembly tables image.text ((∅ : Dict Nat Function).set range.start whole)).entries.flatMap
    fun entry => entry.2.instructions

/-- `setdefault` of one instruction, which must not be decoded in two ways. -/
def bindInstruction (instructions : Dict Nat Instruction) (ins : Instruction) :
    Except ProofError (Dict Nat Instruction) :=
  match instructions.get? ins.address with
  | none => .ok (instructions.set ins.address ins)
  | some previous => do
      refuseIf (previous ≠ ins)
        (.unclosed ("conflicting decoding at 0x".toList ++ hexText ins.address))
      return instructions

namespace Program

def empty : Program where
  functions := ∅
  names := ∅
  instructions := ∅
  sections := []
  rows := []
  origins := ∅
  executable := []

/-- One pass of the loop of `__init__`. -/
def load (program : Program) (image : LoadedImage) : Except ProofError Program := do
  let (rows, executable) ← elf32RiscvImage image.data
  refuseIf (∃ range ∈ executable, ∃ old ∈ program.executable,
      range.start < old.stop ∧ old.start < range.stop)
    (.unclosed "overlapping executable mappings".toList)
  let decodedSections := executable.flatMap (sectionInstructions tables image)
  let sections ← fileSections image.data
  let syms := listing (selected rows executable)
  let (byAddr, byName) := parseSymbols tables syms
  let byAddr := parseDisassembly tables image.text byAddr
  let instructions ← (byAddr.entries.flatMap fun entry => entry.2.instructions).foldlM
    bindInstruction
    (program.instructions.update (decodedSections.map fun ins => (ins.address, ins)))
  return {
    functions := program.functions.update byAddr.entries
    names := program.names.update (shareInstructions byAddr byName).entries
    instructions
    sections := program.sections ++ sections
    rows := program.rows ++ rows
    origins := program.origins.update
      (byAddr.entries.map fun entry => (entry.1, (image.data, syms, image.origin)))
    executable := program.executable ++ executable }

def romDigest : Str :=
  "788e1d38724aeb8fd974fa10c4a7b089c02627d35342ce84b9e0b12b239f3551".toList

/-- `__init__`, over the digest of `hashlib`. -/
def init (sha256 : List UInt8 → Str) (firmware : List UInt8) (firmwareText : Str)
    (rom : List UInt8) (romText : Str) : Except ProofError Program := do
  refuseIf (sha256 rom ≠ romDigest) (.unclosed "unsupported ROM bytes".toList)
  let program ← empty.load tables ⟨"firmware".toList, firmware, firmwareText⟩
  program.load tables ⟨"rom".toList, rom, romText⟩

/-- The starts of the functions whose names satisfy a predicate. -/
def starts (program : Program) (predicate : Str → Bool) : List Nat :=
  ((program.names.entries.filter fun entry => predicate entry.1).map
    fun entry => entry.2.start).dedup

def one (program : Program) (predicate : Str → Bool) : Except ProofError Function :=
  match program.starts predicate with
  | [address] =>
      match program.functions.get? address with
      | none => .error (.keyError address)
      | some fn => .ok fn
  | result =>
      .error (.unclosed
        ("expected unique symbol, got ".toList ++ Nat.toDigits 10 result.length))

end Program
end AxolotyEmbedded.FirstInit
