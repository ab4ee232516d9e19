import AxolotyEmbedded.LinkedStorage.MapRecords
import Mathlib.Data.List.TakeWhile

/-!
A printed map is read back exactly where no row follows a pending name, no name is pending at
the end, and every name and every owner is one that a line can carry.
-/
namespace AxolotyEmbedded.LinkedStorage

open PythonText Checked

variable {identity : Str}

/-! ## The rows that are read -/

/-- What the patterns ask of a row: a name of more than a dot, and an owner within its line. -/
structure MapInput.WellFormed (item : MapInput) : Prop where
  named : item.inputSection ≠ ['.']
  owned : item.owner ≠ []
  unbroken : ∀ c ∈ item.owner, isLineBreak c = false

section Patterns

variable {line rest name : Str} {value address size : Nat}

theorem suffix_of_afterBlanks (read : afterBlanks line = some rest) : rest <:+ line := by
  cases line with
  | nil => cases read
  | cons c line =>
      rw [afterBlanks] at read
      split at read
      · obtain rfl := Option.some.inj read
        exact (List.dropWhile_suffix _).trans (List.suffix_cons c line)
      · cases read

theorem suffix_of_hexNumber (read : hexNumber line = some (value, rest)) : rest <:+ line := by
  rw [hexNumber.eq_def] at read
  split at read
  · next line =>
      split at read
      · cases read
      · obtain ⟨-, rfl⟩ := Prod.mk.inj (Option.some.inj read)
        exact (List.dropWhile_suffix _).trans (List.suffix_append ['0', 'x'] line)
  · cases read

theorem sectionName_spec (read : sectionName line = some (name, rest)) :
    name ≠ ['.'] ∧ rest <:+ line := by
  rw [sectionName.eq_def] at read
  split at read
  · next line =>
      split at read
      · cases read
      · next word =>
          obtain ⟨rfl, rfl⟩ := Prod.mk.inj (Option.some.inj read)
          refine ⟨fun bare => word ?_, (List.dropWhile_suffix _).trans (List.suffix_cons '.' line)⟩
          rw [(List.cons.inj bare).2]
          rfl
  · cases read

theorem suffix_of_addressSize (read : addressSize line = some (address, size, rest)) :
    rest <:+ line := by
  simp only [addressSize, Option.bind_eq_bind, Option.bind_eq_some_iff, Prod.exists, pure,
    Option.some.injEq, Prod.mk.injEq] at read
  obtain ⟨first, blanks, _, second, number, third, gap, _, last, next, -, -, rfl⟩ := read
  exact (suffix_of_hexNumber next).trans ((suffix_of_afterBlanks gap).trans
    ((suffix_of_hexNumber number).trans (suffix_of_afterBlanks blanks)))

theorem owner_spec {owned : Str} (read : owner line = some owned) : owned ≠ [] ∧ owned ⊆ line := by
  have whole := List.takeWhile_append_dropWhile (p := isSpace) (l := line)
  rw [owner] at read
  split at read
  · cases read
  · cases read
  · next blank c blanks taken dropped =>
      obtain rfl := Option.some.inj read
      refine ⟨by simp, fun d held => ?_⟩
      obtain rfl := List.mem_singleton.mp held
      rw [← whole, taken]
      exact List.mem_append_left _ (List.mem_cons_of_mem _ (List.getLast_mem _))
  · next blank blanks c word taken dropped =>
      obtain rfl := Option.some.inj read
      refine ⟨fun nothing => ?_, fun d held => ?_⟩
      · have solid := List.head?_dropWhile_not isSpace line
        rw [dropped] at solid
        have blank := List.dropWhile_eq_nil_iff.mp (List.reverse_eq_nil_iff.mp nothing) c (by simp)
        rw [show isSpace c = false from solid] at blank
        cases blank
      · rw [← whole, dropped]
        have inside : d ∈ (c :: word).reverse :=
          (List.dropWhile_suffix _).subset (List.mem_reverse.mp held)
        exact List.mem_append_right _ (List.mem_reverse.mp inside)

variable {item : MapInput}

theorem wellFormed_inputContinuation {owned : Str} (named : name ≠ ['.'])
    (unbroken : ∀ c ∈ line, isLineBreak c = false)
    (read : inputContinuation line = some (address, size, owned)) :
    MapInput.WellFormed ⟨name, address, size, owned⟩ := by
  simp only [inputContinuation, Option.bind_eq_bind, Option.bind_eq_some_iff, Prod.exists, pure,
    Option.some.injEq, Prod.mk.injEq] at read
  obtain ⟨_, _, rest, range, _, found, -, -, rfl⟩ := read
  obtain ⟨nonempty, inside⟩ := owner_spec found
  exact ⟨named, nonempty, fun c held =>
    unbroken c ((suffix_of_addressSize range).subset (inside held))⟩

theorem wellFormed_input (unbroken : ∀ c ∈ line, isLineBreak c = false)
    (read : input line = some item) : item.WellFormed := by
  simp only [input, Option.bind_eq_bind, Option.bind_eq_some_iff, Prod.exists, pure,
    Option.some.injEq] at read
  obtain ⟨first, blanks, name, rest, found, address, size, owned, continued, rfl⟩ := read
  obtain ⟨named, suffix⟩ := sectionName_spec found
  exact wellFormed_inputContinuation named (fun c held =>
    unbroken c ((suffix.trans (suffix_of_afterBlanks blanks)).subset held)) continued

theorem named_inputNameOnly (read : inputNameOnly line = some name) : name ≠ ['.'] := by
  simp only [inputNameOnly, outNameOnly, Option.bind_eq_bind, Option.bind_eq_some_iff,
    Prod.exists] at read
  obtain ⟨first, -, found, rest, named, alone⟩ := read
  split at alone
  · obtain rfl := Option.some.inj alone
    exact (sectionName_spec named).1
  · cases alone

theorem wellFormed_fill : MapInput.WellFormed ⟨fillName, address, size, "linker padding".toList⟩ :=
  have unbroken : ∀ c ∈ "linker padding".toList, isLineBreak c = false := fails_of_all (by decide)
  ⟨(by decide : fillName ≠ ['.']), (by decide : "linker padding".toList ≠ []), unbroken⟩

end Patterns

/-! ## The rows of a state -/

/-- Every row read so far, and the name of the row that is being read. -/
structure MapState.WellFormed (state : MapState) : Prop where
  rows : ∀ output ∈ state.contributions, ∀ item ∈ output.inputs, item.WellFormed
  pending : ∀ name ∈ state.pendingInput, name ≠ ['.']

section Steps

variable {number : Nat} {line : Str} {state next : MapState}

namespace MapState.WellFormed

theorem leave (formed : state.WellFormed) : state.leave.WellFormed :=
  ⟨fun output held => formed.rows output (by simpa using held), formed.pending⟩

theorem enter (formed : state.WellFormed) (name : Str) (address size : Nat) :
    (state.enter name address size).WellFormed := by
  refine ⟨fun output held item row => ?_, formed.pending⟩
  rw [contributions_enter, List.mem_append, List.mem_singleton] at held
  obtain earlier | rfl := held
  · exact formed.rows output earlier item row
  · cases row

theorem append (formed : state.WellFormed) {item : MapInput} (fits : item.WellFormed) :
    (state.append item).WellFormed := by
  refine ⟨fun output held other row => ?_, formed.pending⟩
  obtain earlier | current := List.mem_append.mp held
  · exact formed.rows output (List.mem_append_left _ earlier) other row
  · rw [Option.mem_toList] at current
    obtain ⟨before, mine, rfl⟩ := Option.map_eq_some_iff.mp (Option.mem_def.mp current)
    obtain old | new := List.mem_append.mp row
    · exact formed.rows before (List.mem_append_right _ (Option.mem_toList.mpr mine)) other old
    · obtain rfl := List.mem_singleton.mp new
      exact fits

end MapState.WellFormed

variable (unbroken : ∀ c ∈ line, isLineBreak c = false) (formed : state.WellFormed)
include unbroken formed

theorem wellFormed_parseRow : (parseRow identity line state).WellFormed := by
  rw [parseRow]
  split
  · next row => exact ⟨(formed.append (wellFormed_input unbroken row)).rows, formed.pending⟩
  · split
    · next name named =>
        refine ⟨formed.rows, fun other pending => ?_⟩
        obtain rfl := Option.some.inj pending
        exact named_inputNameOnly named
    · split
      · exact formed.append wellFormed_fill
      · exact formed

theorem wellFormed_parseInside (parsed : parseInside identity number line state = .ok next) :
    next.WellFormed := by
  rw [parseInside] at parsed
  split at parsed
  · obtain rfl := Except.ok.inj parsed
    exact ⟨formed.leave.rows, formed.pending⟩
  · split at parsed
    · rw [parseInput] at parsed
      split at parsed
      · next name pending =>
          split at parsed
          · next continued =>
              obtain rfl := Except.ok.inj parsed
              have fits := wellFormed_inputContinuation (formed.pending name pending) unbroken continued
              refine ⟨(formed.append fits).rows, ?_⟩
              rintro other ⟨⟩
          · cases parsed
      · obtain rfl := Except.ok.inj parsed
        exact wellFormed_parseRow unbroken formed
    · obtain rfl := Except.ok.inj parsed
      exact formed

theorem wellFormed_parseLine (parsed : parseLine identity number line state = .ok next) :
    next.WellFormed := by
  rw [parseLine] at parsed
  split at parsed
  · split at parsed
    · cases parsed
    · obtain rfl := Except.ok.inj parsed
      exact formed.enter _ _ _
  · split at parsed
    · split at parsed
      · obtain rfl := Except.ok.inj parsed
        exact ⟨(formed.enter _ _ _).rows, formed.pending⟩
      · have left : MapState.WellFormed { state.leave with pendingOutput := none } :=
          ⟨formed.leave.rows, formed.pending⟩
        exact wellFormed_parseInside unbroken left parsed
    · exact wellFormed_parseInside unbroken formed parsed

end Steps

theorem wellFormed_parseLines {number : Nat} {lines : List Str} {state next : MapState}
    (unbroken : ∀ line ∈ lines, ∀ c ∈ line, isLineBreak c = false) (formed : state.WellFormed)
    (parsed : parseLines identity number lines state = .ok next) : next.WellFormed := by
  induction lines generalizing number state with
  | nil =>
      obtain rfl := Except.ok.inj parsed
      exact formed
  | cons line lines ih =>
      rw [parseLines] at parsed
      obtain ⟨after, step, parsed⟩ := bind_eq_ok.mp parsed
      exact ih (fun other held => unbroken other (List.mem_cons_of_mem _ held))
        (wellFormed_parseLine (unbroken line List.mem_cons_self) formed step) parsed

theorem MapState.wellFormed_start : MapState.start.WellFormed := ⟨nofun, nofun⟩

/-- Whatever the text, every row that `parse_map` returns is well formed. -/
theorem wellFormed_parseMap {text : Str} {outputs : List MapOutput}
    (parsed : parseMap identity text = .ok outputs) :
    ∀ output ∈ outputs, ∀ item ∈ output.inputs, item.WellFormed := by
  simp only [parseMap, bind_eq_ok, refuseIf_eq_ok, pure, Except.pure, Except.ok.injEq] at parsed
  obtain ⟨state, lines, _, _, _, _, _, _, rfl⟩ := parsed
  exact (wellFormed_parseLines (fun line held c => unbroken_of_mem_splitLines held)
    MapState.wellFormed_start lines).rows

/-! ## A printed map -/

section Printed

variable {sections : List PrintedSection} {state : MapState}

theorem reads_sections (readable : ∀ printed ∈ sections, ∀ row ∈ printed.rows, row.Readable) :
    Reads identity (sections.flatMap PrintedSection.lines) .start
        (sections.foldl (MapState.readSection identity) .start) ∧
      (sections.foldl (MapState.readSection identity) .start).pendingInput = none :=
  have start : MapState.start.pendingInput = none := rfl
  Reads.flatMap (fun printed held _ ready =>
    readSection_of_lines printed (readable printed held) ready) start

theorem parseMap_mapText (readable : ∀ printed ∈ sections, ∀ row ∈ printed.rows, row.Readable)
    (outputs : List MapOutput) :
    parseMap identity (mapText sections) = .ok outputs ↔
      (sections.foldl (MapState.readSection identity) .start).pendingOutput.isSome = false ∧
        (sections.foldl (MapState.readSection identity) .start).foundIdentity = true ∧
        (sections.foldl (MapState.readSection identity) .start).contributions = outputs := by
  obtain ⟨reads, ready⟩ : Reads identity _ .start _ ∧ _ := reads_sections readable
  have lines : splitLines (mapText sections) = sections.flatMap PrintedSection.lines := by
    refine splitLines_endedLines fun line held c inside => ?_
    obtain ⟨printed, mine, found⟩ := List.mem_flatMap.mp held
    exact PrintedSection.unbroken (readable printed mine) found inside
  simp only [parseMap, bind_eq_ok, refuseIf_eq_ok, lines, reads 1, pure, Except.pure,
    Except.ok.injEq]
  constructor
  · rintro ⟨_, rfl, _, _, _, pending, _, found, rfl⟩
    exact ⟨by simpa using pending, by simpa using found, rfl⟩
  · rintro ⟨pending, found, rfl⟩
    exact ⟨_, rfl, (), by simp [ready], (), by simp [pending], (), by simp [found], rfl⟩

/-- Every header but a bare dot adds one output. -/
theorem length_contributions_sections (sections : List PrintedSection) (state : MapState) :
    (sections.foldl (MapState.readSection identity) state).contributions.length =
      state.contributions.length + sections.countP fun printed => !printed.isBare := by
  induction sections generalizing state with
  | nil => rfl
  | cons printed sections ih =>
      rw [List.foldl_cons, ih, MapState.length_contributions_readSection, List.countP_cons]
      cases printed.isBare with
      | true =>
          change _ + 0 + _ = _ + (_ + 0)
          omega
      | false =>
          change _ + 1 + _ = _ + (_ + 1)
          omega

theorem contributions_sections (named : ∀ printed ∈ sections, printed.isBare = false)
    (state : MapState) :
    (sections.foldl (MapState.readSection identity) state).contributions =
        state.contributions ++ readBack state.pendingOutput.isSome sections ∧
      (sections.foldl (MapState.readSection identity) state).pendingOutput.isSome =
        pendingAfter state.pendingOutput.isSome sections := by
  induction sections generalizing state with
  | nil => exact ⟨(List.append_nil _).symm, rfl⟩
  | cons printed sections ih =>
      obtain ⟨contributions, pending, -⟩ :=
        MapState.readSection_spec identity state (named printed List.mem_cons_self)
      obtain ⟨all, after⟩ := ih (fun other held => named other (List.mem_cons_of_mem _ held))
        (state.readSection identity printed)
      rw [List.foldl_cons, all, after, contributions, pending, List.append_assoc]
      exact ⟨rfl, rfl⟩

/-- Where no row is lost, the object is found by any row of its own. -/
theorem foundIdentity_sections (named : ∀ printed ∈ sections, printed.isBare = false)
    (state : MapState) (kept : noneLost state.pendingOutput.isSome sections = true) :
    (sections.foldl (MapState.readSection identity) state).foundIdentity =
      (state.foundIdentity ||
        sections.any fun printed => printed.rows.any (PrintedRow.isOwnedBy identity)) := by
  induction sections generalizing state with
  | nil => exact (Bool.or_false _).symm
  | cons printed sections ih =>
      obtain ⟨-, pending, found⟩ :=
        MapState.readSection_spec identity state (named printed List.mem_cons_self)
      rw [noneLost, Bool.and_eq_true, ← pending] at kept
      have here : (!printed.isPending state.pendingOutput.isSome &&
          printed.rows.any (PrintedRow.isOwnedBy identity)) =
            printed.rows.any (PrintedRow.isOwnedBy identity) := by
        cases waits : printed.isPending state.pendingOutput.isSome with
        | false => rfl
        | true =>
            have rowless : printed.rows = [] := by simpa [waits] using kept.1
            rw [rowless]
            rfl
      rw [List.foldl_cons, ih (fun other held => named other (List.mem_cons_of_mem _ held)) _ kept.2,
        found, here, List.any_cons, Bool.or_assoc]

/-- Rows that are read back were readable, whatever lines their text fell into. -/
theorem readable_rows
    (parsed : parseMap identity (mapText sections) = .ok (sections.map PrintedSection.output)) :
    ∀ printed ∈ sections, ∀ row ∈ printed.rows, row.Readable := by
  intro printed held row mine
  have formed := wellFormed_parseMap parsed printed.output (List.mem_map_of_mem held) row.item
    (List.mem_map_of_mem mine)
  cases row with
  | input layout indent name range gap owner => exact ⟨formed.named, formed.owned, formed.unbroken⟩
  | fill indent range => trivial

/-- A printed map with a row of the object is read back exactly where it is readable. -/
theorem parseMap_mapText_iff (identity : Str) (sections : List PrintedSection)
    (owned : ∃ printed ∈ sections, ∃ row ∈ printed.rows, row.isOwnedBy identity = true) :
    parseMap identity (mapText sections) = .ok (sections.map PrintedSection.output) ↔
      Readable sections := by
  constructor
  · intro parsed
    have rows := readable_rows parsed
    obtain ⟨pending, -, contributions⟩ := (parseMap_mapText rows _).mp parsed
    have headers : ∀ printed ∈ sections, printed.isBare = false := by
      have counted := @length_contributions_sections identity sections .start
      rw [contributions, List.length_map] at counted
      have all := List.countP_eq_length.mp (counted.trans (Nat.zero_add _)).symm
      exact fun printed held => by simpa using all printed held
    obtain ⟨all, after⟩ := contributions_sections headers .start
    rw [all] at contributions
    rw [after] at pending
    exact ⟨headers, rows, noneLost_iff.mpr ⟨contributions, pending⟩⟩
  · rintro ⟨headers, rows, kept⟩
    obtain ⟨all, after⟩ := contributions_sections headers .start
    obtain ⟨outputs, pending⟩ := noneLost_iff.mp kept
    have found : (sections.foldl (MapState.readSection identity) .start).foundIdentity = true := by
      obtain ⟨printed, held, row, mine, ours⟩ := owned
      rw [foundIdentity_sections headers .start kept]
      refine (Bool.or_eq_true _ _).mpr (.inr ?_)
      exact List.any_eq_true.mpr ⟨printed, held, List.any_eq_true.mpr ⟨row, mine, ours⟩⟩
    exact (parseMap_mapText rows _).mpr ⟨after.trans pending, found, all.trans outputs⟩

end Printed

/-! ## A map with a debug section -/

def dataName : SectionName := ⟨".dram0.data".toList, rfl, fails_of_all (by decide)⟩

def debugName : SectionName := ⟨".debug_info".toList, rfl, fails_of_all (by decide)⟩

theorem solid_combined : ∀ c ∈ "combined.o".toList, isSpace c = false :=
  fails_of_all (by decide)

def objectOwner : Owner where
  text := "combined.o".toList
  first c held := solid_combined c (List.mem_of_mem_head? held)
  last c held := solid_combined c (List.mem_of_getLast? held)

def sampleRange : PrintedRange := ⟨0, ⟨0, 0x3FC90000⟩, 0, ⟨0, 0x10⟩⟩

def sampleRow (layout : RecordLayout) : PrintedRow :=
  .input layout 0 dataName sampleRange 0 objectOwner

/-- One output, then a name without a range and another output. -/
def sampleMap (layout : RecordLayout) : List PrintedSection :=
  [⟨[], .oneLine, dataName, sampleRange, [sampleRow .oneLine, .fill 0 sampleRange]⟩,
    ⟨[debugName], layout, dataName, sampleRange, [sampleRow .twoLines]⟩]

theorem sampleMap_owned (layout : RecordLayout) :
    ∃ printed ∈ sampleMap layout, ∃ row ∈ printed.rows,
      row.isOwnedBy "combined.o".toList = true :=
  ⟨_, List.mem_cons_self, _, List.mem_cons_self, rfl⟩

theorem parseMap_sampleMap :
    parseMap "combined.o".toList (mapText (sampleMap .twoLines)) =
      .ok ((sampleMap .twoLines).map PrintedSection.output) := by
  have headers : ∀ printed ∈ sampleMap .twoLines, printed.isBare = false := by decide
  have row : ∀ layout, (sampleRow layout).Readable := fun _ =>
    ⟨by decide, by decide, fails_of_all (by decide)⟩
  refine (parseMap_mapText_iff _ _ (sampleMap_owned _)).mpr ⟨headers, ?_, by decide⟩
  intro printed held other mine
  simp only [sampleMap, List.mem_cons, List.not_mem_nil, or_false] at held
  obtain rfl | rfl := held
  · obtain rfl | later := List.mem_cons.mp mine
    · exact row _
    · obtain rfl := List.mem_singleton.mp later
      trivial
  · obtain rfl := List.mem_singleton.mp mine
    exact row _

/-- Under a header on one line the row after the debug name is dropped. -/
theorem not_parseMap_mapText :
    ¬∀ (identity : Str) (sections : List PrintedSection),
      (∃ printed ∈ sections, ∃ row ∈ printed.rows, row.isOwnedBy identity = true) →
        parseMap identity (mapText sections) = .ok (sections.map PrintedSection.output) := by
  intro claim
  have printed := claim _ _ (sampleMap_owned .oneLine)
  have read : (parseMap "combined.o".toList (mapText (sampleMap .oneLine))).toOption.map
      (List.map fun output => output.inputs.length) = some [2, 0] := by decide +kernel
  rw [printed] at read
  exact absurd read (by decide)

end AxolotyEmbedded.LinkedStorage
