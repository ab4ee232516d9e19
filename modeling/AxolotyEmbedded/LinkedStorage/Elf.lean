import AxolotyEmbedded.LinkedStorage.Map

/-!
`parse_elf` of the linked storage audit: the sections of a RISC-V ELF file and the sized
symbols of its writable allocated sections. The numbers of the file are natural numbers,
as Python's are; nothing wraps.
-/
namespace AxolotyEmbedded.LinkedStorage

open PythonText Checked

/-! ## Reading numbers and names -/

/-- The value of some bytes, the least significant one first if `little`. -/
def number (little : Bool) (bytes : List UInt8) : Nat :=
  (if little then bytes.reverse else bytes).foldl (fun value b => value * 256 + b.toNat) 0

/-- `struct.unpack_from` of unsigned fields with the given widths; the readers check
beforehand that the fields lie inside the data. -/
def unpackFrom (little : Bool) : List Nat → List UInt8 → Nat → List Nat
  | [], _, _ => []
  | width :: widths, data, offset =>
      number little ((data.drop offset).take width) ::
        unpackFrom little widths data (offset + width)

/-- `struct.calcsize`; the formats name a byte order, so nothing is padded. -/
def calcsize (widths : List Nat) : Nat := Ranges.total widths

/-- `data[offset:offset + size]`. -/
def slice (data : List UInt8) (offset size : Nat) : List UInt8 := (data.drop offset).take size

def cstring (table : List UInt8) (offset : Nat) : Except AuditError Str :=
  if table.length ≤ offset then .error ⟨"invalid ELF string-table offset".toList⟩
  else if (table.drop offset).contains 0 then
    .ok (decode ((table.drop offset).takeWhile fun b => b != 0))
  else .error ⟨"unterminated ELF string".toList⟩

/-! ## Sections and symbols -/

/-- `section` is a keyword. -/
structure ElfSection where
  index : Nat
  name : Str
  type : Nat
  flags : Nat
  address : Nat
  offset : Nat
  size : Nat
  link : Nat
  info : Nat
  alignment : Nat
  entrySize : Nat
  deriving DecidableEq

/-- `flags & (ALLOC | WRITE) == (ALLOC | WRITE)`. -/
def ElfSection.isWritable (target : ElfSection) : Bool := target.flags &&& 3 == 3

inductive SymbolKind where
  | object
  | other
  deriving DecidableEq

structure ElfSymbol where
  name : Str
  address : Nat
  size : Nat
  sectionName : Str
  sectionIndex : Nat
  kind : SymbolKind
  deriving DecidableEq

structure Elf where
  classBits : Nat
  little : Bool
  sections : List ElfSection
  symbols : List ElfSymbol

/-- What the first bytes of a file say of the layout of the rest. -/
structure Layout where
  wide : Bool
  little : Bool

namespace Layout

variable (layout : Layout)

def headerFormat : List Nat :=
  if layout.wide then [2, 2, 4, 8, 8, 8, 4, 2, 2, 2, 2, 2, 2]
  else [2, 2, 4, 4, 4, 4, 4, 2, 2, 2, 2, 2, 2]

def sectionFormat : List Nat :=
  if layout.wide then [4, 4, 8, 8, 8, 8, 4, 4, 8, 8] else [4, 4, 4, 4, 4, 4, 4, 4, 4, 4]

def symbolFormat : List Nat :=
  if layout.wide then [4, 1, 1, 2, 8, 8] else [4, 4, 4, 1, 1, 2]

end Layout

variable (layout : Layout) (data : List UInt8)

/-- One row of the section table. -/
def parseSection (shstr : List UInt8) (row : List Nat) (index : Nat) :
    Except AuditError ElfSection := do
  let name ← cstring shstr (row.getD 0 0)
  let parsed : ElfSection :=
    { index, name, type := row.getD 1 0, flags := row.getD 2 0, address := row.getD 3 0,
      offset := row.getD 4 0, size := row.getD 5 0, link := row.getD 6 0, info := row.getD 7 0,
      alignment := row.getD 8 0, entrySize := row.getD 9 0 }
  refuseIf (parsed.type ≠ 8 ∧ data.length < parsed.offset + parsed.size)
    ⟨"ELF section ".toList ++ name ++ " is outside the file".toList⟩
  return parsed

def parseSections (shstr : List UInt8) (rows : List (List Nat)) :
    Except AuditError (List ElfSection) :=
  collect (fun row => do return [← parseSection data shstr row.1 row.2]) rows.zipIdx

/-- The fields of a symbol row in the order name, value, size, info, section; `other` is
read by nothing. -/
def symbolFields (row : List Nat) : Nat × Nat × Nat × Nat × Nat :=
  if layout.wide then (row.getD 0 0, row.getD 4 0, row.getD 5 0, row.getD 1 0, row.getD 3 0)
  else (row.getD 0 0, row.getD 1 0, row.getD 2 0, row.getD 3 0, row.getD 5 0)

def symbolName (strtab : List UInt8) (nameOffset : Nat) : Except AuditError Str :=
  if nameOffset = 0 then .ok [] else cstring strtab nameOffset

variable (sections : List ElfSection)

/-- The symbol of one row: none unless the row names sized bytes of a writable allocated
section. -/
def parseSymbol (strtab : List UInt8) (row : List Nat) : Except AuditError (List ElfSymbol) := do
  let (nameOffset, value, size, info, shndx) := symbolFields layout row
  let name ← symbolName strtab nameOffset
  if name = [] ∨ size = 0 then return []
  else
    match sections[shndx]? with
    | none => return []
    | some target =>
        if target.isWritable then do
          refuseIf (value < target.address ∨ target.address + target.size < value + size)
            ⟨"writable symbol range outside section: ".toList ++ name⟩
          return [{ name, address := value, size, sectionName := target.name,
                    sectionIndex := shndx,
                    kind := if info &&& 0xF = 1 then .object else .other }]
        else return []

/-- The symbols of one section, which is a symbol table if its type says so. -/
def parseTable (table : ElfSection) : Except AuditError (List ElfSymbol) :=
  if table.type ≠ 2 ∧ table.type ≠ 11 then .ok []
  else
    match sections[table.link]? with
    | none => .error ⟨"symbol table has invalid string-table link".toList⟩
    | some strings => do
        let entrySize :=
          if table.entrySize = 0 then calcsize layout.symbolFormat else table.entrySize
        refuseIf (entrySize < calcsize layout.symbolFormat ∨ table.size % entrySize ≠ 0)
          ⟨"malformed ELF symbol table".toList⟩
        collect
          (fun i => parseSymbol layout sections (slice data strings.offset strings.size)
            (unpackFrom layout.little layout.symbolFormat data (table.offset + i * entrySize)))
          (List.range (table.size / entrySize))

/-- The class and the byte order, with the checks on the length of the file. -/
def parseLayout (data : List UInt8) : Except AuditError Layout := do
  refuseIf (data.length < 52 ∨ data.take 4 ≠ [0x7F, 0x45, 0x4C, 0x46])
    ⟨"malformed ELF header".toList⟩
  let elfClass := data.getD 4 0
  let encoding := data.getD 5 0
  refuseIf (¬(elfClass = 1 ∨ elfClass = 2) ∨ ¬(encoding = 1 ∨ encoding = 2))
    ⟨"unsupported ELF class or byte order".toList⟩
  refuseIf (elfClass = 2 ∧ data.length < 64) ⟨"truncated ELF64 header".toList⟩
  return ⟨elfClass == 2, encoding == 1⟩

def parseElf (data : List UInt8) : Except AuditError Elf := do
  let layout ← parseLayout data
  let header := unpackFrom layout.little layout.headerFormat data 16
  let machine := header.getD 1 0
  let shoff := header.getD 5 0
  let shentsize := header.getD 10 0
  let shnum := header.getD 11 0
  let shstrndx := header.getD 12 0
  refuseIf (machine ≠ 243)
    ⟨"unsupported ELF architecture machine=".toList ++ Nat.toDigits 10 machine⟩
  refuseIf (shnum = 0 ∨ shnum ≤ shstrndx ∨ shentsize < calcsize layout.sectionFormat)
    ⟨"unsupported extended or malformed ELF section table".toList⟩
  refuseIf (data.length < shoff + shentsize * shnum)
    ⟨"ELF section table is outside the file".toList⟩
  let rawSections := (List.range shnum).map fun i =>
    unpackFrom layout.little layout.sectionFormat data (shoff + i * shentsize)
  let stringSection := rawSections.getD shstrndx []
  let shstr := slice data (stringSection.getD 4 0) (stringSection.getD 5 0)
  let sections ← parseSections data shstr rawSections
  let symbols ← collect (parseTable layout data sections) sections
  refuseIf (sections = []) ⟨"ELF has no sections".toList⟩
  return ⟨if layout.wide then 64 else 32, layout.little, sections, symbols⟩

/-! ## Where the symbols lie -/

/-- A sized symbol inside a writable allocated section, which it names. -/
structure ElfSymbol.Inside (sections : List ElfSection) (symbol : ElfSymbol)
    (target : ElfSection) : Prop where
  held : sections[symbol.sectionIndex]? = some target
  writable : target.isWritable = true
  sectionName : symbol.sectionName = target.name
  sized : symbol.size ≠ 0
  starts : target.address ≤ symbol.address
  stops : symbol.address + symbol.size ≤ target.address + target.size

variable {layout data sections} {symbol : ElfSymbol}

theorem inside_of_mem_parseSymbol {strtab : List UInt8} {row : List Nat}
    {symbols : List ElfSymbol} (parsed : parseSymbol layout sections strtab row = .ok symbols)
    (member : symbol ∈ symbols) : ∃ target, symbol.Inside sections target := by
  simp only [parseSymbol, bind_eq_ok] at parsed
  obtain ⟨name, _, parsed⟩ := parsed
  split at parsed
  · obtain rfl := Except.ok.inj parsed
    cases member
  · next named =>
    split at parsed
    · obtain rfl := Except.ok.inj parsed
      cases member
    · next target held =>
      split at parsed
      · next writable =>
        simp only [bind_eq_ok, refuseIf_eq_ok] at parsed
        obtain ⟨_, within, parsed⟩ := parsed
        obtain rfl := Except.ok.inj parsed
        obtain rfl := List.mem_singleton.mp member
        exact ⟨target, {
          held
          writable
          sectionName := rfl
          sized := fun empty => named (.inr empty)
          starts := Nat.not_lt.mp fun below => within (.inl below)
          stops := Nat.not_lt.mp fun above => within (.inr above) }⟩
      · obtain rfl := Except.ok.inj parsed
        cases member

theorem inside_of_mem_parseTable {table : ElfSection} {symbols : List ElfSymbol}
    (parsed : parseTable layout data sections table = .ok symbols) (member : symbol ∈ symbols) :
    ∃ target, symbol.Inside sections target := by
  simp only [parseTable] at parsed
  split at parsed
  · obtain rfl := Except.ok.inj parsed
    cases member
  · split at parsed
    · cases parsed
    · simp only [bind_eq_ok] at parsed
      obtain ⟨_, _, parsed⟩ := parsed
      obtain ⟨i, _, here, yielded, inside⟩ := exists_of_mem_collect parsed member
      exact inside_of_mem_parseSymbol yielded inside

/-- Every symbol of a parsed file lies inside its writable allocated section. -/
theorem inside_of_parseElf {elf : Elf} (parsed : parseElf data = .ok elf)
    (member : symbol ∈ elf.symbols) : ∃ target, symbol.Inside elf.sections target := by
  simp only [parseElf, bind_eq_ok] at parsed
  obtain ⟨layout, _, _, _, _, _, _, _, sections, _, symbols, collected, _, _, parsed⟩ := parsed
  obtain rfl := Except.ok.inj parsed
  obtain ⟨table, _, here, yielded, inside⟩ := exists_of_mem_collect collected member
  exact inside_of_mem_parseTable yielded inside

end AxolotyEmbedded.LinkedStorage
