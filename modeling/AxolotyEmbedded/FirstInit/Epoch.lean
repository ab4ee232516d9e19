import AxolotyEmbedded.Library.ByteLines
import AxolotyEmbedded.Library.Checked
import AxolotyEmbedded.Library.Json
import AxolotyEmbedded.Library.PythonText

/-!
`first_epoch`: the lines of a raw capture up to the first line that shows another boot, which
must hold the completion of the first one. `json.loads` is a parameter.
-/
namespace AxolotyEmbedded.FirstInit

open ByteLines PythonText

/-- A `ValueError` of `json.loads`, a `UnicodeError` among them, is caught; nothing else is. -/
inductive LoadsError where
  | valueError
  | other
  deriving DecidableEq

inductive EpochError where
  | proofInput (message : Str)
  | attributeError
  | loads
  deriving DecidableEq

/-! ## What a line shows -/

def romBanner (line : Bytes) : Bool := contains (ascii "ESP-ROM:") line

def resetReason (line : Bytes) : Bool := contains (ascii "rst:0x") line

def calibrationRow (line : Bytes) : Bool := contains (ascii "AXOLOTY_HEAP_CAL_V1") line

def preamble : List Bytes :=
  ["Executing action: monitor", "Running idf_monitor in directory ", "Executing \"",
    "--- esp-idf-monitor ", "--- Quit: "].map ascii

/-- A line that may stand before the banner. -/
def isPreamble (line : Bytes) : Bool :=
  (strip line).isEmpty || preamble.any fun start => start.isPrefixOf (strip line)

section Rows

variable {ν : Type}

/-- `row.get(name) == value`. -/
def memberIs (row : List (Text × Json ν)) (name value : String) : Bool :=
  match (Json.obj row).field (text name) with
  | some (.str found) => decide (found = text value)
  | _ => false

def isSmoke (row : List (Text × Json ν)) : Bool := memberIs row "runId" "embedded-swift-smoke-v2"

def isBoot (row : List (Text × Json ν)) : Bool := isSmoke row && memberIs row "caseId" "boot"

def isCompletion (row : List (Text × Json ν)) : Bool :=
  isSmoke row && memberIs row "caseId" "completion" && memberIs row "status" "completed"

variable (loads : Bytes → Except LoadsError (Json ν))

/-- The members of the object that stands from the first brace of a line; a line without one
has none, and so has one that `json.loads` refuses. -/
def rowOf (line : Bytes) : Except EpochError (List (Text × Json ν)) :=
  match line.dropWhile fun b => b != 0x7B with
  | [] => .ok []
  | b :: record =>
      match loads (strip (b :: record)) with
      | .ok (.obj members) => .ok members
      | .ok _ => .error .attributeError
      | .error .valueError => .ok []
      | .error .other => .error .loads

end Rows

/-! ## The loop over the lines -/

structure EpochState where
  offset : Nat
  romSeen : Bool
  activity : Bool
  completion : Option Nat
  deriving DecidableEq

namespace EpochState

def start : EpochState := ⟨0, false, false, none⟩

/-- `offset += len(line)`. -/
def pass (state : EpochState) (line : Bytes) : EpochState :=
  { state with offset := state.offset + line.length }

/-- A banner after a banner or after any record, or a reset without one after a record. -/
def isReset (state : EpochState) (line : Bytes) : Bool :=
  if romBanner line then state.romSeen || state.activity else resetReason line && state.activity

end EpochState

/-- After a line the loop goes on, or is left with the epoch ending before the line. -/
inductive LineOutcome where
  | next (state : EpochState)
  | ended (state : EpochState)

section Epochs

variable {ν : Type} (loads : Bytes → Except LoadsError (Json ν))

/-- The record of a line, the flags for its text already set. -/
def readRecord (state : EpochState) (line : Bytes) (row : List (Text × Json ν)) :
    Except EpochError LineOutcome :=
  if isSmoke row then
    if memberIs row "caseId" "boot" && state.activity && state.completion.isSome then
      .ok (.ended state)
    else if isCompletion row then
      if state.completion.isSome then
        .error (.proofInput "duplicate completion in first epoch".toList)
      else
        .ok (.next ({ state with
          activity := true
          completion := some (state.offset + line.length) }.pass line))
    else .ok (.next ({ state with activity := true }.pass line))
  else .ok (.next (state.pass line))

def readLine (state : EpochState) (line : Bytes) : Except EpochError LineOutcome :=
  if state.isReset line then .ok (.ended state)
  else if (state.romSeen || romBanner line) || isPreamble line then do
    let row ← rowOf loads line
    readRecord
      { state with
        romSeen := state.romSeen || romBanner line
        activity := state.activity || calibrationRow line }
      line row
  else
    .error (.proofInput "first epoch is incomplete: initial ROM boundary is absent".toList)

/-- The state the loop is left with, and the end of the epoch where a line set one. -/
def readLines : EpochState → List Bytes → Except EpochError (EpochState × Option Nat)
  | state, [] => .ok (state, none)
  | state, line :: lines =>
      match readLine loads state line with
      | .error error => .error error
      | .ok (.next after) => readLines after lines
      | .ok (.ended after) => .ok (after, some after.offset)

structure EpochBoundary where
  startByte : Nat
  endByteExclusive : Nat
  completionEndByte : Nat
  trailingBytesExcluded : Nat
  deriving DecidableEq

/-- What follows the loop. -/
def selectEpoch (raw : Bytes) (state : EpochState) (stop : Nat) :
    Except EpochError (Bytes × EpochBoundary) :=
  match state.completion with
  | some completion =>
      if state.romSeen && completion ≤ stop then
        .ok (raw.take stop, ⟨0, stop, completion, raw.length - stop⟩)
      else
        .error (.proofInput
          "first epoch is incomplete; later epochs are ineligible".toList)
  | none =>
      .error (.proofInput "first epoch is incomplete; later epochs are ineligible".toList)

def firstEpoch (raw : Bytes) : Except EpochError (Bytes × EpochBoundary) := do
  let (state, stop) ← readLines loads .start (keptLines raw)
  selectEpoch raw state (stop.getD raw.length)

end Epochs

end AxolotyEmbedded.FirstInit
