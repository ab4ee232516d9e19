import AxolotyEmbedded.LinkedStorage.Elf

/-!
`elf32_riscv_image` of the first-initialization tools: the named and sized symbols of an
ELF32 RISC-V image and the bytes of its executable sections.
-/
namespace AxolotyEmbedded.FirstInit

open PythonText Checked
open LinkedStorage (calcsize slice unpackFrom)

/-- The exceptions of the readers and of the prover. -/
inductive ProofError where
  | inputBinding (text : Str)
  | unclosed (text : Str)
  | structError
  | keyError (key : Nat)
  deriving DecidableEq

/-- One row of `symbols`. -/
structure SymbolRow where
  name : Str
  address : Nat
  size : Nat
  type : Nat
  sectionName : Str
  sectionType : Nat
  deriving DecidableEq

/-- One row of `executable`; the addresses run from `start` up to `stop`. -/
structure Executable where
  start : Nat
  stop : Nat
  offset : Nat
  bytes : List UInt8
  deriving DecidableEq

structure ImageSection where
  index : Nat
  name : Str
  type : Nat
  flags : Nat
  address : Nat
  offset : Nat
  size : Nat
  link : Nat
  entrySize : Nat
  deriving DecidableEq

/-- `"<HHIIIIIHHHHHH"`. -/
def headerFormat : List Nat := [2, 2, 4, 4, 4, 4, 4, 2, 2, 2, 2, 2, 2]

def sectionFormat : List Nat := [4, 4, 4, 4, 4, 4, 4, 4, 4, 4]

def symbolFormat : List Nat := [4, 4, 4, 1, 1, 2]

/-- `struct.unpack_from`, which raises when the fields do not lie inside the data. -/
def unpack (widths : List Nat) (data : List UInt8) (offset : Nat) :
    Except ProofError (List Nat) := do
  refuseIf (data.length < offset + calcsize widths) .structError
  return unpackFrom true widths data offset

def cstring (table : List UInt8) (offset : Nat) : Except ProofError Str :=
  if table.length ≤ offset then .error (.inputBinding "ELF string offset is invalid".toList)
  else if (table.drop offset).contains 0 then
    .ok (decode ((table.drop offset).takeWhile fun b => b != 0))
  else .error (.inputBinding "ELF string is unterminated".toList)

variable (data : List UInt8)

def imageSection (shstr : List UInt8) (row : List Nat) (index : Nat) :
    Except ProofError ImageSection := do
  let name ← cstring shstr (row.getD 0 0)
  let parsed : ImageSection :=
    { index, name, type := row.getD 1 0, flags := row.getD 2 0, address := row.getD 3 0,
      offset := row.getD 4 0, size := row.getD 5 0, link := row.getD 6 0,
      entrySize := row.getD 9 0 }
  refuseIf (parsed.type ≠ 8 ∧ data.length < parsed.offset + parsed.size)
    (.inputBinding ("ELF section ".toList ++ name ++ " is truncated".toList))
  return parsed

/-- The symbol of one row, none unless it is named, sized and of a known section. -/
def symbolRow (sections : List ImageSection) (strings : List UInt8) (position : Nat) :
    Except ProofError (List SymbolRow) := do
  let row ← unpack symbolFormat data position
  let nameOffset := row.getD 0 0
  let size := row.getD 2 0
  let shndx := row.getD 5 0
  if nameOffset ≠ 0 ∧ size ≠ 0 ∧ (shndx < sections.length ∨ shndx = 0xFFF1) then do
    let target := sections[shndx]?
    let name ← cstring strings nameOffset
    return [{ name, address := row.getD 1 0, size, type := row.getD 3 0 &&& 0xF,
              sectionName :=
                if shndx = 0xFFF1 then "ABS".toList
                else (target.map ImageSection.name).getD [],
              sectionType :=
                if shndx = 0xFFF1 then 0 else (target.map ImageSection.type).getD 0 }]
  else return []

/-- The symbols of one section, which is a symbol table if its type tells so. -/
def tableRows (sections : List ImageSection) (table : ImageSection) :
    Except ProofError (List SymbolRow) :=
  if table.type ≠ 2 ∧ table.type ≠ 11 then .ok []
  else
    match sections[table.link]? with
    | none => .error (.inputBinding "ELF symbol table string section is invalid".toList)
    | some strings => do
        let entrySize := if table.entrySize = 0 then calcsize symbolFormat else table.entrySize
        refuseIf (entrySize < calcsize symbolFormat ∨ table.size % entrySize ≠ 0)
          (.inputBinding "ELF symbol table is malformed".toList)
        collect
          (fun i => symbolRow data sections (slice data strings.offset strings.size)
            (table.offset + i * entrySize))
          (List.range (table.size / entrySize))

/-- The bytes of a section that is executable and not `NOBITS`. -/
def executableOf (target : ImageSection) : Option Executable :=
  if target.flags &&& 4 ≠ 0 ∧ target.type ≠ 8 then
    some ⟨target.address, target.address + target.size, target.offset,
      slice data target.offset target.size⟩
  else none

def elf32RiscvImage : Except ProofError (List SymbolRow × List Executable) := do
  refuseIf (data.length < 52 ∨ data.take 6 ≠ [0x7F, 0x45, 0x4C, 0x46, 1, 1])
    (.inputBinding "ELF must be a complete little-endian ELF32 image".toList)
  let header ← unpack headerFormat data 16
  let machine := header.getD 1 0
  let sectionOffset := header.getD 5 0
  let sectionEntrySize := header.getD 10 0
  let sectionCount := header.getD 11 0
  let stringIndex := header.getD 12 0
  refuseIf (machine ≠ 243 ∨ sectionCount = 0 ∨ sectionCount ≤ stringIndex ∨
      sectionEntrySize < calcsize sectionFormat)
    (.inputBinding "unsupported or malformed RISC-V ELF section table".toList)
  refuseIf (data.length < sectionOffset + sectionEntrySize * sectionCount)
    (.inputBinding "ELF section table is truncated".toList)
  let rows ← collect
    (fun i => do return [← unpack sectionFormat data (sectionOffset + i * sectionEntrySize)])
    (List.range sectionCount)
  let shstrRow := rows.getD stringIndex []
  let shstr := slice data (shstrRow.getD 4 0) (shstrRow.getD 5 0)
  let sections ← collect (fun row => do return [← imageSection data shstr row.1 row.2]) rows.zipIdx
  let symbols ← collect (tableRows data sections) sections
  return (symbols, sections.filterMap (executableOf data))

/-! ## The symbols are sized -/

variable {data} {row : SymbolRow}

theorem size_of_mem_symbolRow {sections : List ImageSection} {strings : List UInt8}
    {position : Nat} {here : List SymbolRow}
    (read : symbolRow data sections strings position = .ok here) (held : row ∈ here) :
    row.size ≠ 0 := by
  obtain ⟨fields, -, rest⟩ := bind_eq_ok.mp read
  dsimp only at rest
  split at rest
  · next known =>
      obtain ⟨name, -, built⟩ := bind_eq_ok.mp rest
      obtain rfl := Except.ok.inj built
      obtain rfl := List.mem_singleton.mp held
      exact known.2.1
  · obtain rfl := Except.ok.inj rest
    cases held

theorem size_of_mem_tableRows {sections : List ImageSection} {table : ImageSection}
    {here : List SymbolRow} (read : tableRows data sections table = .ok here)
    (held : row ∈ here) : row.size ≠ 0 := by
  rw [tableRows] at read
  split at read
  · obtain rfl := Except.ok.inj read
    cases held
  · split at read
    · cases read
    · obtain ⟨-, -, collected⟩ := bind_eq_ok.mp read
      obtain ⟨i, -, single, yielded, inside⟩ := exists_of_mem_collect collected held
      exact size_of_mem_symbolRow yielded inside

theorem size_of_mem_elf32RiscvImage {rows : List SymbolRow} {executable : List Executable}
    (read : elf32RiscvImage data = .ok (rows, executable)) (held : row ∈ rows) : row.size ≠ 0 := by
  simp only [elf32RiscvImage, bind_eq_ok] at read
  obtain ⟨-, -, header, -, -, -, -, -, table, -, sections, -, symbols, collected, built⟩ := read
  obtain ⟨rfl, -⟩ := Prod.ext_iff.mp (Except.ok.inj built)
  obtain ⟨target, -, here, yielded, inside⟩ := exists_of_mem_collect collected held
  exact size_of_mem_tableRows yielded inside

/-! ## A small image -/

def bytes16 (value : Nat) : List UInt8 := [UInt8.ofNat value, UInt8.ofNat (value / 256)]

def bytes32 (value : Nat) : List UInt8 := bytes16 value ++ bytes16 (value / 65536)

/-- A row of the section table; the name is the empty string. -/
def smallSection (type flags address offset size link entrySize : Nat) : List UInt8 :=
  [0, type, flags, address, offset, size, link, 0, 0, entrySize].flatMap bytes32

/-- An ELF32 RISC-V image of one executable section with function symbols, each an offset
of its name in the strings, an address and a size. -/
def codeImage (address : Nat) (code : List UInt8) (symbols : List (Nat × Nat × Nat))
    (strings : List UInt8) : List UInt8 :=
  let symbolOffset := 212
  let stringOffset := symbolOffset + 16 * symbols.length
  let textOffset := stringOffset + strings.length
  [0x7F, 0x45, 0x4C, 0x46, 1, 1, 1, 0, 0, 0, 0, 0, 0, 0, 0, 0] ++
    bytes16 2 ++ bytes16 243 ++ [1, 0, 0, 52, 0].flatMap bytes32 ++
    [52, 0, 0, 40, 4, 3].flatMap bytes16 ++
    smallSection 0 0 0 0 0 0 0 ++
    smallSection 1 6 address textOffset code.length 0 0 ++
    smallSection 2 0 0 symbolOffset (16 * symbols.length) 3 16 ++
    smallSection 3 0 0 stringOffset strings.length 0 0 ++
    symbols.flatMap (fun entry =>
      [entry.1, entry.2.1, entry.2.2].flatMap bytes32 ++ [2, 0] ++ bytes16 1) ++
    strings ++ code

/-- An image of zero bytes whose functions have four bytes. -/
def smallImage (address size : Nat) (symbols : List (Nat × Nat)) (strings : List UInt8) :
    List UInt8 :=
  codeImage address (List.replicate size 0) (symbols.map fun entry => (entry.1, entry.2, 4)) strings

end AxolotyEmbedded.FirstInit
