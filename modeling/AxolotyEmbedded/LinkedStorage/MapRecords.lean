import AxolotyEmbedded.LinkedStorage.MapPrinted

/-!
The effect of each printed record on the state of `parse_map`: of a name without a range, of a
header and of a row, and of a section, whose rows are lost where a name is pending at them.
-/
namespace AxolotyEmbedded.LinkedStorage

open PythonText Checked

variable {identity : Str}

namespace MapState

/-- A pending name that gets no range is dropped, and the current output with it. -/
def settle (state : MapState) : MapState :=
  if state.pendingOutput.isSome then { state.leave with pendingOutput := none } else state

/-- Rows are read in an output whose name starts with a dot. -/
def isInside (state : MapState) : Bool := state.current.any fun output => output.name.head? == some '.'

def readName (state : MapState) (name : SectionName) : MapState :=
  if name.text = ['.'] then state.settle
  else { state.settle.leave with pendingOutput := some name.text }

def readHeader (state : MapState) (printed : PrintedSection) : MapState :=
  let entered :=
    state.enter printed.name.text printed.range.address.value printed.range.size.value
  match printed.layout with
  | .oneLine => entered
  | .twoLines =>
      if printed.name.text = ['.'] then state.settle else { entered with pendingOutput := none }

def readRow (identity : Str) (state : MapState) (row : PrintedRow) : MapState :=
  if state.settle.isInside then
    { state.settle.append row.item with
      foundIdentity := state.foundIdentity || row.isOwnedBy identity }
  else state.settle

def readSection (identity : Str) (state : MapState) (printed : PrintedSection) : MapState :=
  printed.rows.foldl (readRow identity)
    ((printed.debugNames.foldl readName state).readHeader printed)

variable {state : MapState}

@[simp] theorem contributions_settle : state.settle.contributions = state.contributions := by
  rw [settle]
  split
  · exact contributions_leave
  · rfl

@[simp] theorem pendingOutput_settle : state.settle.pendingOutput = none := by
  rw [settle]
  split
  · rfl
  · next settled => simpa using settled

@[simp] theorem foundIdentity_settle : state.settle.foundIdentity = state.foundIdentity := by
  rw [settle]
  split <;> rfl

@[simp] theorem pendingInput_settle : state.settle.pendingInput = state.pendingInput := by
  rw [settle]
  split <;> rfl

theorem settle_of_none (settled : state.pendingOutput = none) : state.settle = state := by
  rw [settle, settled]
  rfl

theorem enter_waiting (name : Str) (address size : Nat) (waiting : Option Str) :
    ({ state.settle.leave with pendingOutput := waiting } : MapState).enter name address size =
      { state.enter name address size with pendingOutput := waiting } := by
  rw [settle]
  split <;> simp [enter, leave, contributions]

end MapState

/-! ## Runs of lines -/

/-- The lines lead from one state to another, wherever in the map they stand. -/
def Reads (identity : Str) (lines : List Str) (state next : MapState) : Prop :=
  ∀ number, parseLines identity number lines state = .ok next

section Runs

variable {state next last : MapState} {lines more : List Str} {line : Str}

theorem parseLines_append (number : Nat) :
    parseLines identity number (lines ++ more) state =
      parseLines identity number lines state >>= parseLines identity (number + lines.length) more := by
  induction lines generalizing number state with
  | nil => rfl
  | cons line lines ih =>
      have count : number + (line :: lines).length = number + 1 + lines.length := by
        rw [List.length_cons]
        omega
      rw [List.cons_append, parseLines, parseLines, bind_assoc, count]
      exact congrArg _ (funext fun after => ih (number + 1))

theorem Reads.append (first : Reads identity lines state next)
    (later : Reads identity more next last) : Reads identity (lines ++ more) state last := by
  intro number
  rw [parseLines_append, first number]
  exact later (number + lines.length)

theorem Reads.single (step : ∀ number, parseLine identity number line state = .ok next) :
    Reads identity [line] state next := by
  intro number
  rw [parseLines, step number]
  rfl

/-- Where every item's lines have an effect, the lines of all have the effects in turn. -/
theorem Reads.flatMap {α : Type} {print : α → List Str} {effect : MapState → α → MapState}
    {items : List α}
    (each : ∀ item ∈ items, ∀ state : MapState, state.pendingInput = none →
      Reads identity (print item) state (effect state item) ∧
        (effect state item).pendingInput = none)
    (start : state.pendingInput = none) :
    Reads identity (items.flatMap print) state (items.foldl effect state) ∧
      (items.foldl effect state).pendingInput = none := by
  induction items generalizing state with
  | nil => exact ⟨fun _ => rfl, start⟩
  | cons item items ih =>
      obtain ⟨here, kept⟩ := each item List.mem_cons_self state start
      obtain ⟨later, ended⟩ := ih (fun other held => each other (List.mem_cons_of_mem _ held)) kept
      exact ⟨here.append later, ended⟩

end Runs

/-! ## The lines of a record -/

section Records

variable {state : MapState} {line : Str} {name : SectionName} {range : PrintedRange}

/-- A line that is no header and no range ends the wait for one. -/
theorem parseLine_settle (number : Nat) (noHeader : outSection line = none)
    (noRange : outContinuation line = none) :
    parseLine identity number line state = parseInside identity number line state.settle := by
  rw [parseLine, noHeader]
  cases pending : state.pendingOutput with
  | none => rw [MapState.settle_of_none pending]
  | some name => simp [noRange, MapState.settle, pending]

theorem parseInside_row (number : Nat) (noName : outNameOnly line = none)
    (ready : state.pendingInput = none) :
    parseInside identity number line state =
      .ok (if state.isInside then parseRow identity line state else state) := by
  rw [parseInside, noName, MapState.isInside]
  simp only [parseInput, ready]
  split <;> rfl

theorem parseInside_continued (number : Nat) {name owner : Str} {address size : Nat}
    (noName : outNameOnly line = none) (inside : state.isInside = true)
    (read : inputContinuation line = some (address, size, owner)) (ready : state.pendingInput = none) :
    parseInside identity number line { state with pendingInput := some name } =
      .ok { state.append ⟨name, address, size, owner⟩ with
        foundIdentity := state.foundIdentity || owner == identity } := by
  rw [MapState.isInside] at inside
  rw [parseInside, noName]
  simp only [inside, if_true, parseInput, read]
  simp [MapState.appendInput, MapState.append, ready]

/-- A line that starts no row is passed over. -/
theorem parseRow_other (noRow : input line = none) (noName : inputNameOnly line = none)
    (noFill : fill line = none) : parseRow identity line state = state := by
  rw [parseRow, noRow, noName, noFill]

theorem reads_name (name : SectionName) (ready : state.pendingInput = none) :
    Reads identity [name.text] state (state.readName name) := by
  refine Reads.single fun number => ?_
  rw [parseLine_settle number outSection_name outContinuation_name, MapState.readName]
  by_cases long : name.text = ['.']
  · have settled : state.settle.pendingInput = none := by simpa using ready
    have other : parseRow identity ['.'] state.settle = state.settle :=
      parseRow_other rfl rfl rfl
    rw [if_pos long, long, parseInside_row number rfl settled, other, ite_self]
  · rw [if_neg long, parseInside, outNameOnly_name long]

theorem reads_header (printed : PrintedSection) (ready : state.pendingInput = none) :
    Reads identity (printed.layout.lines printed.name.text printed.range.text) state
      (state.readHeader printed) := by
  rw [MapState.readHeader]
  cases printed.layout with
  | oneLine =>
      refine Reads.single fun number => ?_
      rw [parseLine, outSection_header]
      simp [ready]
  | twoLines =>
      have named : Reads identity [printed.name.text] state (state.readName printed.name) :=
        reads_name printed.name ready
      refine named.append (?_ : Reads identity [printed.range.text] _ _)
      refine Reads.single fun number => ?_
      have noHeader : outSection printed.range.text = none := rfl
      simp only [MapState.readName]
      by_cases long : printed.name.text = ['.']
      · have settled : state.settle.pendingInput = none := by simpa using ready
        rw [if_pos long, if_pos long, parseLine, noHeader, MapState.pendingOutput_settle]
        change parseInside identity number printed.range.text state.settle = _
        have other : parseRow identity printed.range.text state.settle = state.settle :=
          parseRow_other (input_undotted printed.range.stops)
            (inputNameOnly_undotted printed.range.stops) (fill_range_alone printed.range)
        rw [parseInside_row number rfl settled, other, ite_self]
      · rw [if_neg long, if_neg long, parseLine, noHeader]
        simp only [outContinuation_range, MapState.enter_waiting]

theorem reads_row (row : PrintedRow) (readable : row.Readable) (ready : state.pendingInput = none) :
    Reads identity row.lines state (state.readRow identity row) := by
  cases row with
  | input layout indent name range gap owned =>
      obtain ⟨long, someOwner, -⟩ := readable
      have settled : state.settle.pendingInput = none := by simpa using ready
      have indented : outContinuation (blanks indent ++ name.text) = none := by
        have stops := name.stops []
        rw [List.append_nil] at stops
        exact outContinuation_indented stops
      cases layout with
      | oneLine =>
          refine Reads.single fun number => ?_
          have noRange : outContinuation (blanks indent ++ name.text ++
              (range.text ++ (blanks gap ++ owned.text))) = none := by
            rw [List.append_assoc]
            exact outContinuation_indented (name.stops _)
          rw [parseLine_settle number rfl noRange, parseInside_row number rfl settled, parseRow,
            input_owned long someOwner]
          simp [MapState.readRow, MapState.appendInput, PrintedRow.item, PrintedRow.isOwnedBy]
      | twoLines =>
          have started : Reads identity [blanks indent ++ name.text] state
              (if state.settle.isInside then { state.settle with pendingInput := some name.text }
                else state.settle) := by
            refine Reads.single fun number => ?_
            rw [parseLine_settle number rfl indented, parseInside_row number rfl settled, parseRow,
              input_name long, inputNameOnly_name long]
          refine Reads.append started (Reads.single fun number => ?_)
          rw [parseLine_settle number rfl (outContinuation_owned someOwner), MapState.readRow]
          by_cases inside : state.settle.isInside = true
          · have waiting : MapState.settle { state.settle with pendingInput := some name.text } =
                { state.settle with pendingInput := some name.text } :=
              MapState.settle_of_none MapState.pendingOutput_settle
            rw [if_pos inside, if_pos inside, waiting]
            rw [parseInside_continued number rfl inside (inputContinuation_owned someOwner) settled]
            simp [PrintedRow.item, PrintedRow.isOwnedBy]
          · have kept : state.settle.settle = state.settle :=
              MapState.settle_of_none MapState.pendingOutput_settle
            rw [if_neg inside, if_neg inside, kept, parseInside_row number rfl settled,
              if_neg inside]
  | fill indent range =>
      have settled : state.settle.pendingInput = none := by simpa using ready
      have stops : ∀ c ∈ (fillName ++ range.text).head?, isSpace c = false ∧ c ≠ '0' := fun c held =>
        ⟨(fillName_stops c held).1, (fillName_stops c held).2.2⟩
      have undotted : ∀ c ∈ (fillName ++ range.text).head?, isSpace c = false ∧ c ≠ '.' := fun c held =>
        ⟨(fillName_stops c held).1, (fillName_stops c held).2.1⟩
      refine Reads.single fun number => ?_
      rw [parseLine_settle number rfl (outContinuation_indented stops),
        parseInside_row number rfl settled, parseRow, input_undotted undotted,
        inputNameOnly_undotted undotted, fill_range]
      simp [MapState.readRow, PrintedRow.item, PrintedRow.isOwnedBy, MapState.append]

end Records

/-! ## The effect of a section -/

section Sections

variable {state : MapState}

theorem readSection_of_lines (printed : PrintedSection)
    (readable : ∀ row ∈ printed.rows, row.Readable) (ready : state.pendingInput = none) :
    Reads identity printed.lines state (state.readSection identity printed) ∧
      (state.readSection identity printed).pendingInput = none := by
  have named : Reads identity (printed.debugNames.flatMap fun name => [name.text]) state
      (printed.debugNames.foldl MapState.readName state) ∧
        (printed.debugNames.foldl MapState.readName state).pendingInput = none := by
    refine Reads.flatMap (fun name _ state ready => ⟨reads_name name ready, ?_⟩) ready
    simp only [MapState.readName]
    split <;> simpa [MapState.leave] using ready
  have entered : ((printed.debugNames.foldl MapState.readName state).readHeader printed).pendingInput
      = none := by
    simp only [MapState.readHeader]
    split
    · exact named.2
    · split <;> simpa [MapState.enter, MapState.leave] using named.2
  have each : ∀ row ∈ printed.rows, ∀ state : MapState, state.pendingInput = none →
      Reads identity row.lines state (state.readRow identity row) ∧
        (state.readRow identity row).pendingInput = none := by
    intro row held state ready
    refine ⟨reads_row row (readable row held) ready, ?_⟩
    rw [MapState.readRow]
    split <;> simpa [MapState.append] using ready
  obtain ⟨rows, ended⟩ := Reads.flatMap each entered
  rw [PrintedSection.lines, List.map_eq_flatMap]
  exact ⟨named.1.append ((reads_header printed named.2).append rows), ended⟩

namespace MapState

theorem contributions_readName (name : SectionName) :
    (state.readName name).contributions = state.contributions := by
  rw [readName]
  split
  · exact contributions_settle
  · exact contributions_leave.trans contributions_settle

theorem foldl_readName (state : MapState) (names : List SectionName) :
    (names.foldl readName state).contributions = state.contributions ∧
      (names.foldl readName state).foundIdentity = state.foundIdentity ∧
      (names.foldl readName state).pendingOutput.isSome =
        names.foldl (fun _ name => name.text != ['.']) state.pendingOutput.isSome := by
  induction names generalizing state with
  | nil => exact ⟨rfl, rfl, rfl⟩
  | cons name names ih =>
      have here : (state.readName name).foundIdentity = state.foundIdentity ∧
          (state.readName name).pendingOutput.isSome = (name.text != ['.']) := by
        rw [readName]
        split
        · next bare => simp [bare]
        · next long => simp [leave, long]
      obtain ⟨contributions, found, pending⟩ := ih (state.readName name)
      rw [List.foldl_cons, List.foldl_cons, contributions, found, pending, contributions_readName,
        here.1, here.2]
      exact ⟨rfl, rfl, rfl⟩

theorem readHeader_eq {printed : PrintedSection}
    (named : printed.isBare = false) :
    state.readHeader printed =
      ⟨state.contributions,
        some ⟨printed.name.text, printed.range.address.value, printed.range.size.value, []⟩,
        state.pendingInput, if printed.layout = .oneLine then state.pendingOutput else none,
        state.foundIdentity⟩ := by
  rw [readHeader]
  cases layout : printed.layout with
  | oneLine => rfl
  | twoLines =>
      have long : printed.name.text ≠ ['.'] := by
        simpa [PrintedSection.isBare, layout] using named
      simp only [if_neg long]
      rfl

/-- Rows under a header that nothing is pending at are all its own. -/
theorem foldl_readRow_inside {output : MapOutput} (dotted : output.name.head? = some '.')
    (earlier : List MapOutput) (pendingInput : Option Str) (found : Bool) (rows : List PrintedRow) :
    rows.foldl (readRow identity)
        ⟨earlier, some output, pendingInput, none, found⟩ =
      ⟨earlier, some { output with inputs := output.inputs ++ rows.map PrintedRow.item },
        pendingInput, none, found || rows.any (PrintedRow.isOwnedBy identity)⟩ := by
  induction rows generalizing output found with
  | nil => simp
  | cons row rows ih =>
      have step : readRow identity ⟨earlier, some output, pendingInput, none, found⟩ row =
          ⟨earlier, some { output with inputs := output.inputs ++ [row.item] }, pendingInput, none,
            found || row.isOwnedBy identity⟩ := by
        rw [readRow, settle_of_none rfl, if_pos (by simp [isInside, dotted])]
        rfl
      have later := @ih { output with inputs := output.inputs ++ [row.item] } dotted
      rw [List.foldl_cons, step, later]
      simp [Bool.or_assoc]

/-- Rows under a header that a name is pending at are lost. -/
theorem foldl_readRow_lost {earlier : List MapOutput} {output : MapOutput} {name : Str}
    {pendingInput : Option Str} {found : Bool} (row : PrintedRow) (rows : List PrintedRow) :
    (row :: rows).foldl (readRow identity) ⟨earlier, some output, pendingInput, some name, found⟩ =
      ⟨earlier ++ [output], none, pendingInput, none, found⟩ := by
  have outside : ∀ row, readRow identity ⟨earlier ++ [output], none, pendingInput, none, found⟩ row =
      ⟨earlier ++ [output], none, pendingInput, none, found⟩ := fun _ => rfl
  have first : readRow identity ⟨earlier, some output, pendingInput, some name, found⟩ row =
      ⟨earlier ++ [output], none, pendingInput, none, found⟩ := rfl
  rw [List.foldl_cons, first]
  induction rows with
  | nil => rfl
  | cons row rows ih => rw [List.foldl_cons, outside, ih]

/-- A section whose header is read adds one output, with its rows unless they are lost. -/
theorem readSection_spec (identity : Str) (state : MapState) {printed : PrintedSection}
    (named : printed.isBare = false) :
    (state.readSection identity printed).contributions =
        state.contributions ++ [printed.readOutput state.pendingOutput.isSome] ∧
      (state.readSection identity printed).pendingOutput.isSome =
        (printed.isPending state.pendingOutput.isSome && printed.rows.isEmpty) ∧
      (state.readSection identity printed).foundIdentity =
        (state.foundIdentity || !printed.isPending state.pendingOutput.isSome &&
          printed.rows.any (PrintedRow.isOwnedBy identity)) := by
  obtain ⟨contributions, found, waits⟩ := foldl_readName state printed.debugNames
  generalize held : (if printed.layout = .oneLine then
    (printed.debugNames.foldl readName state).pendingOutput else none) = waiting
  have isPending : waiting.isSome = printed.isPending state.pendingOutput.isSome := by
    subst held
    rw [PrintedSection.isPending]
    cases printed.layout with
    | oneLine => exact waits
    | twoLines => rfl
  have after : state.readSection identity printed = printed.rows.foldl (readRow identity)
      ⟨state.contributions,
        some ⟨printed.name.text, printed.range.address.value, printed.range.size.value, []⟩,
        (printed.debugNames.foldl readName state).pendingInput, waiting, state.foundIdentity⟩ := by
    rw [readSection, readHeader_eq named, contributions, found, held]
  rw [after, PrintedSection.readOutput, ← isPending]
  cases waiting with
  | none =>
      rw [foldl_readRow_inside printed.name.dotted]
      simp [MapState.contributions]
  | some name =>
      cases printed.rows with
      | nil => simp [MapState.contributions]
      | cons row rows =>
          rw [foldl_readRow_lost]
          simp [MapState.contributions]

theorem length_contributions_readRow (row : PrintedRow) :
    (state.readRow identity row).contributions.length = state.contributions.length := by
  rw [readRow]
  split
  · rw [← congrArg List.length (contributions_settle : state.settle.contributions = _)]
    simp only [MapState.contributions, append, List.length_append, Option.length_toList,
      Option.isSome_map]
  · rw [contributions_settle]

theorem length_contributions_readSection (printed : PrintedSection) :
    (state.readSection identity printed).contributions.length =
      state.contributions.length + if printed.isBare then 0 else 1 := by
  by_cases bare : printed.isBare = true
  · have rows : ∀ (rows : List PrintedRow) (state : MapState),
        (rows.foldl (readRow identity) state).contributions.length = state.contributions.length := by
      intro rows
      induction rows with
      | nil => exact fun _ => rfl
      | cons row rows ih =>
          exact fun state => (ih _).trans (length_contributions_readRow row)
    obtain ⟨layout, dot⟩ : printed.layout = .twoLines ∧ printed.name.text = ['.'] := by
      simpa [PrintedSection.isBare] using bare
    rw [readSection, rows, readHeader, layout, if_pos bare]
    simp only [if_pos dot, contributions_settle, (foldl_readName state printed.debugNames).1]
    rfl
  · rw [Bool.not_eq_true] at bare
    obtain ⟨contributions, -, -⟩ := readSection_spec identity state bare
    rw [contributions, List.length_append, bare]
    rfl

end MapState

end Sections

end AxolotyEmbedded.LinkedStorage
