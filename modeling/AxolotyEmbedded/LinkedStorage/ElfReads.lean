import AxolotyEmbedded.LinkedStorage.Elf
import AxolotyEmbedded.Library.Reads

/-!
`parse_elf` with every read of the file and of a list as Python makes it: an unpack that
does not lie inside the data raises, and so does an index past the end. The checks of the
reader bound them all, so it is the reader without these errors.
-/
namespace AxolotyEmbedded.LinkedStorage

open PythonText Checked Reads

/-! ## The reads -/

/-- `struct.unpack_from`. -/
def unpackReads {ε : Type} (little : Bool) (widths : List Nat) (data : List UInt8) (offset : Nat) :
    Except (ReadError ε) (List Nat) := do
  refuseIf (data.length < offset + calcsize widths) .structError
  return unpackFrom little widths data offset

variable (layout : Layout) (data : List UInt8)

def parseSectionReads (shstr : List UInt8) (row : List Nat) (index : Nat) :
    Except (ReadError AuditError) ElfSection := do
  let name ← lift (cstring shstr (← item row 0))
  let parsed : ElfSection :=
    { index, name, type := ← item row 1, flags := ← item row 2, address := ← item row 3,
      offset := ← item row 4, size := ← item row 5, link := ← item row 6, info := ← item row 7,
      alignment := ← item row 8, entrySize := ← item row 9 }
  refuseIf (parsed.type ≠ 8 ∧ data.length < parsed.offset + parsed.size)
    (.refused ⟨"ELF section ".toList ++ name ++ " is outside the file".toList⟩)
  return parsed

/-- The fields of a symbol row in the order name, value, size, info, section. -/
def symbolFieldsReads (row : List Nat) :
    Except (ReadError AuditError) (Nat × Nat × Nat × Nat × Nat) :=
  if layout.wide then do
    return (← item row 0, ← item row 4, ← item row 5, ← item row 1, ← item row 3)
  else do
    return (← item row 0, ← item row 1, ← item row 2, ← item row 3, ← item row 5)

variable (sections : List ElfSection)

def parseSymbolReads (strtab : List UInt8) (row : List Nat) :
    Except (ReadError AuditError) (List ElfSymbol) := do
  let (nameOffset, value, size, info, shndx) ← symbolFieldsReads layout row
  let name ← lift (symbolName strtab nameOffset)
  if name = [] ∨ size = 0 ∨ sections.length ≤ shndx then return []
  else do
    let target ← item sections shndx
    if target.isWritable then do
      refuseIf (value < target.address ∨ target.address + target.size < value + size)
        (.refused ⟨"writable symbol range outside section: ".toList ++ name⟩)
      return [{ name, address := value, size, sectionName := target.name,
                sectionIndex := shndx,
                kind := if info &&& 0xF = 1 then .object else .other }]
    else return []

def parseTableReads (table : ElfSection) : Except (ReadError AuditError) (List ElfSymbol) :=
  if table.type ≠ 2 ∧ table.type ≠ 11 then .ok []
  else do
    refuseIf (sections.length ≤ table.link)
      (.refused ⟨"symbol table has invalid string-table link".toList⟩)
    let strings ← item sections table.link
    let entrySize :=
      if table.entrySize = 0 then calcsize layout.symbolFormat else table.entrySize
    refuseIf (entrySize < calcsize layout.symbolFormat ∨ table.size % entrySize ≠ 0)
      (.refused ⟨"malformed ELF symbol table".toList⟩)
    collect
      (fun i => do
        let row ← unpackReads layout.little layout.symbolFormat data (table.offset + i * entrySize)
        parseSymbolReads layout sections (slice data strings.offset strings.size) row)
      (List.range (table.size / entrySize))

def parseLayoutReads (data : List UInt8) : Except (ReadError AuditError) Layout := do
  refuseIf (data.length < 52 ∨ data.take 4 ≠ [0x7F, 0x45, 0x4C, 0x46])
    (.refused ⟨"malformed ELF header".toList⟩)
  let elfClass ← item data 4
  let encoding ← item data 5
  refuseIf (¬(elfClass = 1 ∨ elfClass = 2) ∨ ¬(encoding = 1 ∨ encoding = 2))
    (.refused ⟨"unsupported ELF class or byte order".toList⟩)
  refuseIf (elfClass = 2 ∧ data.length < 64) (.refused ⟨"truncated ELF64 header".toList⟩)
  return ⟨elfClass == 2, encoding == 1⟩

def parseElfReads (data : List UInt8) : Except (ReadError AuditError) Elf := do
  let layout ← parseLayoutReads data
  let header ← unpackReads layout.little layout.headerFormat data 16
  let machine ← item header 1
  let shoff ← item header 5
  let shentsize ← item header 10
  let shnum ← item header 11
  let shstrndx ← item header 12
  refuseIf (machine ≠ 243)
    (.refused ⟨"unsupported ELF architecture machine=".toList ++ Nat.toDigits 10 machine⟩)
  refuseIf (shnum = 0 ∨ shnum ≤ shstrndx ∨ shentsize < calcsize layout.sectionFormat)
    (.refused ⟨"unsupported extended or malformed ELF section table".toList⟩)
  refuseIf (data.length < shoff + shentsize * shnum)
    (.refused ⟨"ELF section table is outside the file".toList⟩)
  let rawSections ← collect
    (fun i => do
      return [← unpackReads layout.little layout.sectionFormat data (shoff + i * shentsize)])
    (List.range shnum)
  let stringSection ← item rawSections shstrndx
  let shstr := slice data (← item stringSection 4) (← item stringSection 5)
  let sections ← collect (fun row => do return [← parseSectionReads data shstr row.1 row.2])
    rawSections.zipIdx
  let symbols ← collect (parseTableReads layout data sections) sections
  refuseIf (sections = []) (.refused ⟨"ELF has no sections".toList⟩)
  return ⟨if layout.wide then 64 else 32, layout.little, sections, symbols⟩

/-! ## The reads lie inside -/

variable {layout data sections}

theorem length_unpackFrom (little : Bool) (widths : List Nat) (data : List UInt8) (offset : Nat) :
    (unpackFrom little widths data offset).length = widths.length := by
  induction widths generalizing offset with
  | nil => rfl
  | cons width widths ih => rw [unpackFrom, List.length_cons, ih, List.length_cons]

theorem unpackReads_eq {ε : Type} {little : Bool} {widths : List Nat} {offset : Nat}
    (inside : offset + calcsize widths ≤ data.length) :
    (unpackReads little widths data offset : Except (ReadError ε) (List Nat)) =
      .ok (unpackFrom little widths data offset) := by
  rw [unpackReads, refuseIf, if_neg (by omega)]
  rfl

theorem parseSectionReads_eq {shstr : List UInt8} {row : List Nat} {index : Nat}
    (fields : row.length = 10) :
    parseSectionReads data shstr row index = lift (parseSection data shstr row index) := by
  have at' : ∀ i < 10, (item row i : Except (ReadError AuditError) Nat) = .ok (row.getD i 0) :=
    fun i small => item_getD (by omega) 0
  simp only [parseSectionReads, at' 0 (by decide), at' 1 (by decide), at' 2 (by decide),
    at' 3 (by decide), at' 4 (by decide), at' 5 (by decide), at' 6 (by decide), at' 7 (by decide),
    at' 8 (by decide), at' 9 (by decide)]
  refine bind_eq_lift rfl fun name _ => ?_
  exact bind_eq_lift refuseIf_eq_lift fun _ _ => rfl

theorem symbolFieldsReads_eq {row : List Nat} (fields : row.length = 6) :
    symbolFieldsReads layout row = .ok (symbolFields layout row) := by
  have at' : ∀ i < 6, (item row i : Except (ReadError AuditError) Nat) = .ok (row.getD i 0) :=
    fun i small => item_getD (by omega) 0
  simp only [symbolFieldsReads, symbolFields, at' 0 (by decide), at' 1 (by decide),
    at' 2 (by decide), at' 3 (by decide), at' 4 (by decide), at' 5 (by decide)]
  split <;> rfl

theorem parseSymbolReads_eq {strtab : List UInt8} {row : List Nat} (fields : row.length = 6) :
    parseSymbolReads layout sections strtab row = lift (parseSymbol layout sections strtab row) := by
  rw [parseSymbolReads, symbolFieldsReads_eq fields, parseSymbol]
  obtain ⟨nameOffset, value, size, info, shndx⟩ := symbolFields layout row
  refine bind_eq_lift rfl fun name _ => ?_
  by_cases named : name = [] ∨ size = 0
  · rw [if_pos (named.elim .inl fun empty => .inr (.inl empty)), if_pos named]
    rfl
  · rw [if_neg named]
    cases held : sections[shndx]? with
    | none =>
        rw [if_pos (.inr (.inr (List.getElem?_eq_none_iff.mp held)))]
        rfl
    | some target =>
        have inside := (List.getElem?_eq_some_iff.mp held).1
        have kept : ¬(name = [] ∨ size = 0 ∨ sections.length ≤ shndx) := by
          rintro (empty | zero | past)
          · exact named (.inl empty)
          · exact named (.inr zero)
          · omega
        rw [if_neg kept, item_of_getElem? held]
        show (if target.isWritable then _ else _) = lift (if target.isWritable then _ else _)
        split
        · exact bind_eq_lift refuseIf_eq_lift fun _ _ => rfl
        · rfl

/-- Each entry of a table inside the file lies inside the file. -/
theorem entry_inside {offset count entrySize least i : Nat}
    (room : offset + count * entrySize ≤ data.length) (large : least ≤ entrySize)
    (before : i < count) : offset + i * entrySize + least ≤ data.length := by
  have step : (i + 1) * entrySize ≤ count * entrySize := Nat.mul_le_mul_right entrySize before
  rw [Nat.add_mul] at step
  omega

theorem parseTableReads_eq {table : ElfSection}
    (inside : table.type ≠ 8 → table.offset + table.size ≤ data.length) :
    parseTableReads layout data sections table = lift (parseTable layout data sections table) := by
  rw [parseTableReads, parseTable]
  split
  · rfl
  · next symbols =>
      cases held : sections[table.link]? with
      | none =>
          rw [refuseIf, if_pos (List.getElem?_eq_none_iff.mp held)]
          rfl
      | some strings =>
          have known := (List.getElem?_eq_some_iff.mp held).1
          rw [refuseIf, if_neg (by omega), ok_bind, item_of_getElem? held, ok_bind]
          refine bind_eq_lift refuseIf_eq_lift fun _ checked => ?_
          refine collect_eq_lift fun i before => ?_
          have large := refuseIf_eq_ok.mp checked
          have room := inside (by omega)
          have whole := Nat.div_mul_le_self table.size
            (if table.entrySize = 0 then calcsize layout.symbolFormat else table.entrySize)
          have within := entry_inside (Nat.le_trans (Nat.add_le_add_left whole _) room)
            (Nat.not_lt.mp (not_or.mp large).1) (List.mem_range.mp before)
          rw [unpackReads_eq within]
          refine parseSymbolReads_eq ?_
          rw [length_unpackFrom, Layout.symbolFormat]
          split <;> rfl

theorem section_inside {shstr : List UInt8} {row : List Nat} {index : Nat} {parsed : ElfSection}
    (read : parseSection data shstr row index = .ok parsed) (stored : parsed.type ≠ 8) :
    parsed.offset + parsed.size ≤ data.length := by
  simp only [parseSection, bind_eq_ok, refuseIf_eq_ok] at read
  obtain ⟨name, -, -, within, built⟩ := read
  obtain rfl := Except.ok.inj built
  exact Nat.not_lt.mp (not_and.mp within stored)

theorem parseLayoutReads_eq : parseLayoutReads data = lift (parseLayout data) := by
  refine bind_eq_lift refuseIf_eq_lift fun _ long => ?_
  have header := refuseIf_eq_ok.mp long
  rw [item_getD (by omega) 0, ok_bind, item_getD (by omega) 0, ok_bind]
  refine bind_eq_lift refuseIf_eq_lift fun _ _ => ?_
  exact bind_eq_lift refuseIf_eq_lift fun _ _ => rfl

/-- The header of the layout lies inside the file. -/
theorem header_inside (read : parseLayout data = .ok layout) :
    16 + calcsize layout.headerFormat ≤ data.length := by
  simp only [parseLayout, bind_eq_ok, refuseIf_eq_ok] at read
  obtain ⟨-, long, -, -, -, wider, built⟩ := read
  obtain rfl := Except.ok.inj built
  have narrow : calcsize [2, 2, 4, 4, 4, 4, 4, 2, 2, 2, 2, 2, 2] = 36 := by decide
  have wide : calcsize [2, 2, 4, 8, 8, 8, 4, 2, 2, 2, 2, 2, 2] = 48 := by decide
  rw [Layout.headerFormat]
  split
  · next elf64 =>
      have := not_and.mp wider (by simpa using elf64)
      omega
  · omega

theorem collect_unpackReads {ε : Type} {little : Bool} {widths : List Nat}
    {offset entrySize count : Nat} (room : offset + entrySize * count ≤ data.length)
    (large : calcsize widths ≤ entrySize) :
    (collect (fun i => do return [← unpackReads little widths data (offset + i * entrySize)])
        (List.range count) : Except (ReadError ε) (List (List Nat))) =
      .ok ((List.range count).map fun i => unpackFrom little widths data (offset + i * entrySize)) := by
  refine collect_eq_map fun i before => ?_
  have within := entry_inside (by rwa [Nat.mul_comm] at room) large (List.mem_range.mp before)
  rw [unpackReads_eq within]
  rfl

/-- `parse_elf` reads nothing outside the file or a list. -/
theorem parseElfReads_eq (data : List UInt8) : parseElfReads data = lift (parseElf data) := by
  refine bind_eq_lift parseLayoutReads_eq fun layout read => ?_
  have at' : ∀ i < 13,
      (item (unpackFrom layout.little layout.headerFormat data 16) i :
        Except (ReadError AuditError) Nat) =
        .ok ((unpackFrom layout.little layout.headerFormat data 16).getD i 0) := by
    intro i small
    refine item_getD ?_ 0
    rw [length_unpackFrom, Layout.headerFormat]
    split <;> exact small
  rw [unpackReads_eq (header_inside read), ok_bind, at' 1 (by decide), ok_bind, at' 5 (by decide),
    ok_bind, at' 10 (by decide), ok_bind, at' 11 (by decide), ok_bind, at' 12 (by decide), ok_bind]
  refine bind_eq_lift refuseIf_eq_lift fun _ _ => ?_
  refine bind_eq_lift refuseIf_eq_lift fun _ table => ?_
  refine bind_eq_lift refuseIf_eq_lift fun _ fits => ?_
  have table := not_or.mp (not_or.mp (refuseIf_eq_ok.mp table)).2
  rw [collect_unpackReads (Nat.not_lt.mp (refuseIf_eq_ok.mp fits)) (Nat.not_lt.mp table.2), ok_bind]
  generalize (unpackFrom layout.little layout.headerFormat data 16).getD 5 0 = shoff
  generalize (unpackFrom layout.little layout.headerFormat data 16).getD 10 0 = shentsize
  have known := Nat.not_le.mp table.1
  generalize (unpackFrom layout.little layout.headerFormat data 16).getD 11 0 = shnum at known ⊢
  generalize (unpackFrom layout.little layout.headerFormat data 16).getD 12 0 = shstrndx at known ⊢
  have rowLength : ∀ row ∈ (List.range shnum).map fun i =>
      unpackFrom layout.little layout.sectionFormat data (shoff + i * shentsize),
      row.length = 10 := by
    intro row held
    obtain ⟨i, -, rfl⟩ := List.mem_map.mp held
    rw [length_unpackFrom, Layout.sectionFormat]
    split <;> rfl
  generalize rowsAre : ((List.range shnum).map fun i =>
    unpackFrom layout.little layout.sectionFormat data (shoff + i * shentsize)) = rows at rowLength ⊢
  have inside : shstrndx < rows.length := by
    rw [← rowsAre, List.length_map, List.length_range]
    exact known
  have fields : (rows.getD shstrndx []).length = 10 := by
    rw [List.getD_eq_getElem?_getD, List.getElem?_eq_getElem inside]
    exact rowLength _ (List.getElem_mem inside)
  rw [item_getD inside [], ok_bind, item_getD (by omega) 0, ok_bind, item_getD (by omega) 0, ok_bind]
  refine bind_eq_lift (collect_eq_lift fun row held => ?_) fun sections parsed => ?_
  · exact bind_eq_lift (parseSectionReads_eq (rowLength _ (List.fst_mem_of_mem_zipIdx held)))
      fun _ _ => rfl
  refine bind_eq_lift (collect_eq_lift fun table held => parseTableReads_eq fun stored => ?_)
    fun symbols _ => bind_eq_lift refuseIf_eq_lift fun _ _ => rfl
  obtain ⟨row, -, here, yielded, present⟩ := exists_of_mem_collect parsed held
  obtain ⟨single, one, built⟩ := bind_eq_ok.mp yielded
  obtain rfl := Except.ok.inj built
  obtain rfl := List.mem_singleton.mp present
  exact section_inside one stored

end AxolotyEmbedded.LinkedStorage
