import AxolotyEmbedded.FirstInit.Image
import AxolotyEmbedded.LinkedStorage.ElfReads

/-!
`elf32_riscv_image` with every read of the image and of a list as Python makes it. The
checks of the reader bound them all: what it raises is an `InputBindingError`.
-/
namespace AxolotyEmbedded.FirstInit

open PythonText Checked Reads
open LinkedStorage (calcsize slice unpackFrom unpackReads)

/-! ## The reads -/

variable (data : List UInt8)

def imageSectionReads (shstr : List UInt8) (row : List Nat) (index : Nat) :
    Except (ReadError ProofError) ImageSection := do
  let name ← lift (cstring shstr (← item row 0))
  let parsed : ImageSection :=
    { index, name, type := ← item row 1, flags := ← item row 2, address := ← item row 3,
      offset := ← item row 4, size := ← item row 5, link := ← item row 6,
      entrySize := ← item row 9 }
  refuseIf (parsed.type ≠ 8 ∧ data.length < parsed.offset + parsed.size)
    (.refused (.inputBinding ("ELF section ".toList ++ name ++ " is truncated".toList)))
  return parsed

/-- The name and the type of the section of a symbol. -/
def symbolSectionReads (sections : List ImageSection) (shndx : Nat) :
    Except (ReadError ProofError) (Str × Nat) :=
  if shndx = 0xFFF1 then .ok ("ABS".toList, 0)
  else do
    let target ← item sections shndx
    return (target.name, target.type)

def symbolRowReads (sections : List ImageSection) (strings : List UInt8) (position : Nat) :
    Except (ReadError ProofError) (List SymbolRow) := do
  let row ← unpackReads true symbolFormat data position
  let nameOffset ← item row 0
  let value ← item row 1
  let size ← item row 2
  let info ← item row 3
  let shndx ← item row 5
  if nameOffset ≠ 0 ∧ size ≠ 0 ∧ (shndx < sections.length ∨ shndx = 0xFFF1) then do
    let (sectionName, sectionType) ← symbolSectionReads sections shndx
    let name ← lift (cstring strings nameOffset)
    return [{ name, address := value, size, type := info &&& 0xF, sectionName, sectionType }]
  else return []

def tableRowsReads (sections : List ImageSection) (table : ImageSection) :
    Except (ReadError ProofError) (List SymbolRow) :=
  if table.type ≠ 2 ∧ table.type ≠ 11 then .ok []
  else do
    refuseIf (sections.length ≤ table.link)
      (.refused (.inputBinding "ELF symbol table string section is invalid".toList))
    let strings ← item sections table.link
    let entrySize := if table.entrySize = 0 then calcsize symbolFormat else table.entrySize
    refuseIf (entrySize < calcsize symbolFormat ∨ table.size % entrySize ≠ 0)
      (.refused (.inputBinding "ELF symbol table is malformed".toList))
    collect
      (fun i => symbolRowReads data sections (slice data strings.offset strings.size)
        (table.offset + i * entrySize))
      (List.range (table.size / entrySize))

def elf32RiscvImageReads : Except (ReadError ProofError) (List SymbolRow × List Executable) := do
  refuseIf (data.length < 52 ∨ data.take 6 ≠ [0x7F, 0x45, 0x4C, 0x46, 1, 1])
    (.refused (.inputBinding "ELF must be a complete little-endian ELF32 image".toList))
  let header ← unpackReads true headerFormat data 16
  let machine ← item header 1
  let sectionOffset ← item header 5
  let sectionEntrySize ← item header 10
  let sectionCount ← item header 11
  let stringIndex ← item header 12
  refuseIf (machine ≠ 243 ∨ sectionCount = 0 ∨ sectionCount ≤ stringIndex ∨
      sectionEntrySize < calcsize sectionFormat)
    (.refused (.inputBinding "unsupported or malformed RISC-V ELF section table".toList))
  refuseIf (data.length < sectionOffset + sectionEntrySize * sectionCount)
    (.refused (.inputBinding "ELF section table is truncated".toList))
  let rows ← collect
    (fun i => do
      return [← unpackReads true sectionFormat data (sectionOffset + i * sectionEntrySize)])
    (List.range sectionCount)
  let shstrRow ← item rows stringIndex
  let shstr := slice data (← item shstrRow 4) (← item shstrRow 5)
  let sections ← collect (fun row => do return [← imageSectionReads data shstr row.1 row.2])
    rows.zipIdx
  let symbols ← collect (tableRowsReads data sections) sections
  return (symbols, sections.filterMap (executableOf data))

/-! ## The reads lie inside -/

variable {data} {sections : List ImageSection}

theorem unpack_eq {widths : List Nat} {offset : Nat}
    (inside : offset + calcsize widths ≤ data.length) :
    unpack widths data offset = .ok (unpackFrom true widths data offset) := by
  rw [unpack, refuseIf, if_neg (by omega)]
  rfl

/-- `InputBindingError`. -/
def IsBinding (error : ProofError) : Prop := ∃ text, error = .inputBinding text

theorem settled_cstring (table : List UInt8) (offset : Nat) :
    Settled IsBinding (lift (cstring table offset)) (cstring table offset) := by
  refine ⟨rfl, fun raised => ?_⟩
  rw [cstring] at raised
  split at raised
  · exact ⟨_, (Except.error.inj raised).symm⟩
  · split at raised
    · cases raised
    · exact ⟨_, (Except.error.inj raised).symm⟩

theorem settled_imageSection {shstr : List UInt8} {row : List Nat} {index : Nat}
    (fields : row.length = 10) :
    Settled IsBinding (imageSectionReads data shstr row index) (imageSection data shstr row index) := by
  have at' : ∀ i < 10, (item row i : Except (ReadError ProofError) Nat) = .ok (row.getD i 0) :=
    fun i small => item_getD (by omega) 0
  simp only [imageSectionReads, at' 0 (by decide), at' 1 (by decide), at' 2 (by decide),
    at' 3 (by decide), at' 4 (by decide), at' 5 (by decide), at' 6 (by decide), at' 9 (by decide)]
  refine (settled_cstring _ _).bind fun name _ => ?_
  exact (Settled.refuseIf ⟨_, rfl⟩).bind fun _ _ => .ok _

theorem imageSection_inside {shstr : List UInt8} {row : List Nat} {index : Nat}
    {parsed : ImageSection} (read : imageSection data shstr row index = .ok parsed)
    (stored : parsed.type ≠ 8) : parsed.offset + parsed.size ≤ data.length := by
  simp only [imageSection, bind_eq_ok, refuseIf_eq_ok] at read
  obtain ⟨name, -, -, within, built⟩ := read
  obtain rfl := Except.ok.inj built
  exact Nat.not_lt.mp (not_and.mp within stored)

theorem symbolSectionReads_eq {shndx : Nat}
    (known : shndx < sections.length ∨ shndx = 0xFFF1) :
    symbolSectionReads sections shndx =
      .ok (if shndx = 0xFFF1 then "ABS".toList
          else (sections[shndx]?.map ImageSection.name).getD [],
        if shndx = 0xFFF1 then 0 else (sections[shndx]?.map ImageSection.type).getD 0) := by
  rw [symbolSectionReads]
  by_cases absolute : shndx = 0xFFF1
  · rw [if_pos absolute, if_pos absolute, if_pos absolute]
  · have inside := known.resolve_right absolute
    rw [if_neg absolute, if_neg absolute, if_neg absolute, item, List.getElem?_eq_getElem inside]
    rfl

theorem settled_symbolRow {strings : List UInt8} {position : Nat}
    (inside : position + calcsize symbolFormat ≤ data.length) :
    Settled IsBinding (symbolRowReads data sections strings position)
      (symbolRow data sections strings position) := by
  have at' : ∀ i < 6,
      (item (unpackFrom true symbolFormat data position) i : Except (ReadError ProofError) Nat) =
        .ok ((unpackFrom true symbolFormat data position).getD i 0) := fun i small =>
    item_getD small 0
  rw [symbolRowReads, symbolRow, LinkedStorage.unpackReads_eq inside, unpack_eq inside, ok_bind,
    ok_bind, at' 0 (by decide), ok_bind, at' 1 (by decide), ok_bind, at' 2 (by decide), ok_bind,
    at' 3 (by decide), ok_bind, at' 5 (by decide), ok_bind]
  generalize unpackFrom true symbolFormat data position = row
  dsimp only
  split
  · next known =>
      rw [symbolSectionReads_eq known.2.2, ok_bind]
      exact (settled_cstring _ _).bind fun _ _ => .ok _
  · exact .ok []

theorem settled_tableRows {table : ImageSection}
    (inside : table.type ≠ 8 → table.offset + table.size ≤ data.length) :
    Settled IsBinding (tableRowsReads data sections table) (tableRows data sections table) := by
  rw [tableRowsReads, tableRows]
  split
  · exact .ok []
  · next symbols =>
      cases held : sections[table.link]? with
      | none =>
          rw [refuseIf, if_pos (List.getElem?_eq_none_iff.mp held)]
          exact ⟨rfl, fun raised => ⟨_, (Except.error.inj raised).symm⟩⟩
      | some strings =>
          have known := (List.getElem?_eq_some_iff.mp held).1
          rw [refuseIf, if_neg (by omega), ok_bind, item_of_getElem? held, ok_bind]
          refine (Settled.refuseIf ⟨_, rfl⟩).bind fun _ checked => ?_
          refine .collect fun i before => settled_symbolRow ?_
          have large := refuseIf_eq_ok.mp checked
          have room := inside (by omega)
          have whole := Nat.div_mul_le_self table.size
            (if table.entrySize = 0 then calcsize symbolFormat else table.entrySize)
          exact LinkedStorage.entry_inside (Nat.le_trans (Nat.add_le_add_left whole _) room)
            (Nat.not_lt.mp (not_or.mp large).1) (List.mem_range.mp before)

theorem collect_unpack {widths : List Nat} {offset entrySize count : Nat}
    (room : offset + entrySize * count ≤ data.length) (large : calcsize widths ≤ entrySize) :
    collect (fun i => do return [← unpack widths data (offset + i * entrySize)])
        (List.range count) =
      .ok ((List.range count).map fun i => unpackFrom true widths data (offset + i * entrySize)) := by
  refine collect_eq_map fun i before => ?_
  have within := LinkedStorage.entry_inside (by rwa [Nat.mul_comm] at room) large
    (List.mem_range.mp before)
  rw [unpack_eq within]
  rfl

/-- `elf32_riscv_image` reads nothing outside the image or a list. -/
theorem settled_elf32RiscvImage (data : List UInt8) :
    Settled IsBinding (elf32RiscvImageReads data) (elf32RiscvImage data) := by
  refine (Settled.refuseIf ⟨_, rfl⟩).bind fun _ long => ?_
  have header := refuseIf_eq_ok.mp long
  have within : 16 + calcsize headerFormat ≤ data.length := by
    have size : calcsize headerFormat = 36 := by decide
    omega
  have at' : ∀ i < 13,
      (item (unpackFrom true headerFormat data 16) i : Except (ReadError ProofError) Nat) =
        .ok ((unpackFrom true headerFormat data 16).getD i 0) := fun i small => item_getD small 0
  rw [LinkedStorage.unpackReads_eq within, unpack_eq within, ok_bind, ok_bind, at' 1 (by decide),
    ok_bind, at' 5 (by decide), ok_bind, at' 10 (by decide), ok_bind, at' 11 (by decide), ok_bind,
    at' 12 (by decide), ok_bind]
  refine (Settled.refuseIf ⟨_, rfl⟩).bind fun _ table => ?_
  refine (Settled.refuseIf ⟨_, rfl⟩).bind fun _ fits => ?_
  have table := not_or.mp (not_or.mp (not_or.mp (refuseIf_eq_ok.mp table)).2).2
  have room := Nat.not_lt.mp (refuseIf_eq_ok.mp fits)
  rw [LinkedStorage.collect_unpackReads room (Nat.not_lt.mp table.2),
    collect_unpack room (Nat.not_lt.mp table.2), ok_bind, ok_bind]
  have known := Nat.not_le.mp table.1
  generalize (unpackFrom true headerFormat data 16).getD 5 0 = sectionOffset
  generalize (unpackFrom true headerFormat data 16).getD 10 0 = sectionEntrySize
  generalize (unpackFrom true headerFormat data 16).getD 11 0 = sectionCount at known ⊢
  generalize (unpackFrom true headerFormat data 16).getD 12 0 = stringIndex at known ⊢
  have rowLength : ∀ row ∈ (List.range sectionCount).map fun i =>
      unpackFrom true sectionFormat data (sectionOffset + i * sectionEntrySize),
      row.length = 10 := by
    intro row held
    obtain ⟨i, -, rfl⟩ := List.mem_map.mp held
    rfl
  generalize rowsAre : ((List.range sectionCount).map fun i =>
    unpackFrom true sectionFormat data (sectionOffset + i * sectionEntrySize)) = rows at rowLength ⊢
  have inside : stringIndex < rows.length := by
    rw [← rowsAre, List.length_map, List.length_range]
    exact known
  have fields : (rows.getD stringIndex []).length = 10 := by
    rw [List.getD_eq_getElem?_getD, List.getElem?_eq_getElem inside]
    exact rowLength _ (List.getElem_mem inside)
  rw [item_getD inside [], ok_bind, item_getD (by omega) 0, ok_bind, item_getD (by omega) 0, ok_bind]
  refine (Settled.collect fun row held => ?_).bind fun sections parsed => ?_
  · exact (settled_imageSection (rowLength _ (List.fst_mem_of_mem_zipIdx held))).bind
      fun _ _ => .ok _
  refine (Settled.collect fun table held => settled_tableRows fun stored => ?_).bind
    fun symbols _ => .ok _
  obtain ⟨row, -, here, yielded, present⟩ := exists_of_mem_collect parsed held
  obtain ⟨single, one, built⟩ := bind_eq_ok.mp yielded
  obtain rfl := Except.ok.inj built
  obtain rfl := List.mem_singleton.mp present
  exact imageSection_inside one stored

/-- Both readers of ELF files end on all bytes with a result or with the error of their
module; no read lies outside the data or a list. -/
theorem elfReaders_total (data : List UInt8) :
    ((∃ image, elf32RiscvImageReads data = .ok image) ∨
      ∃ text, elf32RiscvImageReads data = .error (.refused (.inputBinding text))) ∧
    ((∃ elf, LinkedStorage.parseElfReads data = .ok elf) ∨
      ∃ error, LinkedStorage.parseElfReads data = .error (.refused error)) := by
  constructor
  · refine (settled_elf32RiscvImage data).ends.imp_right ?_
    rintro ⟨_, ⟨text, rfl⟩, raised⟩
    exact ⟨text, raised⟩
  · rw [LinkedStorage.parseElfReads_eq]
    cases LinkedStorage.parseElf data with
    | error error => exact .inr ⟨error, rfl⟩
    | ok elf => exact .inl ⟨elf, rfl⟩

end AxolotyEmbedded.FirstInit
