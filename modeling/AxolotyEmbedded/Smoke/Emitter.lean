import AxolotyEmbedded.Library.JsonParse

/-!
The records the smoke firmware prints (`runSmoke`): wrapping 32-bit counters, the
rolling checksum, and one line of JSON for the boot, for each check, for the summary
and for the completion. A line is given by its members in the order they are printed.
-/
namespace AxolotyEmbedded.Smoke.Firmware

/-- Whether the build carries the JSON parser selects the vectors and the run. -/
inductive Build where
  | withParser
  | withoutParser

def schemaVersion : BitVec 32 := 2

def Build.runId : Build → Text
  | .withParser => text "embedded-swift-smoke-v2"
  | .withoutParser => text "embedded-swift-smoke-v3"

/-! ### The rolling checksum -/

def mixByte (hash : BitVec 32) (byte : BitVec 8) : BitVec 32 :=
  (hash ^^^ byte.setWidth 32) * 16777619

def mixStatic (hash : BitVec 32) (value : Text) : BitVec 32 :=
  value.foldl (fun result unit => mixByte result (BitVec.ofNat 8 unit.toNat)) hash

def mixUInt32 (hash value : BitVec 32) : BitVec 32 :=
  let result := mixByte hash (value.setWidth 8)
  let result := mixByte result ((value >>> 8).setWidth 8)
  let result := mixByte result ((value >>> 16).setWidth 8)
  mixByte result ((value >>> 24).setWidth 8)

def nextChecksum (runId caseId operation stage status : Text)
    (prior currentSequence currentPassed currentFailed currentUnsupported : BitVec 32) :
    BitVec 32 :=
  let result := mixUInt32 2166136261 schemaVersion
  let result := mixStatic result runId
  let result := mixUInt32 result currentSequence
  let result := mixStatic result caseId
  let result := mixStatic result operation
  let result := mixStatic result stage
  let result := mixStatic result status
  let result := mixUInt32 result currentPassed
  let result := mixUInt32 result currentFailed
  let result := if currentUnsupported ≠ 0 then mixUInt32 result currentUnsupported else result
  mixUInt32 result prior

/-! ### Printing -/

/-- A printed value: `printUInt`, a static string between quotes, or an object of numbers. -/
inductive Printed where
  | uint (value : BitVec 32)
  | string (value : Text)
  | object (members : List (Text × BitVec 32))

abbrev Members := List (Text × Printed)

def Printed.text : Printed → Text
  | .uint value => Json.decimal value.toNat
  | .string value => Json.quoted value
  | .object members => Json.braces (members.map fun m => (m.1, Json.decimal m.2.toNat))

/-- The line without its newline. -/
def line (members : Members) : Text := Json.braces (members.map fun m => (m.1, m.2.text))

def printPrefix (runId caseId operation stage status : Text) (sequence checksum : BitVec 32) :
    Members :=
  [(text "schemaVersion", .uint schemaVersion), (text "runId", .string runId),
    (text "sequence", .uint sequence), (text "caseId", .string caseId),
    (text "operation", .string operation), (text "stage", .string stage),
    (text "status", .string status), (text "checksum", .uint checksum)]

/-! ### Records -/

structure Emitter where
  sequence : BitVec 32
  rollingChecksum : BitVec 32
  passed : BitVec 32
  failed : BitVec 32
  unsupported : BitVec 32

/-- A call of `record(name, ok)` or of `recordUnsupported(name)`. -/
inductive Call where
  | record (name : Text) (ok : Bool)
  | recordUnsupported (name : Text)

namespace Call

def name : Call → Text
  | record name _ => name
  | recordUnsupported name => name

def status : Call → Text
  | record _ true => text "passed"
  | record _ false => text "failed"
  | recordUnsupported _ => text "unsupported"

/-- Only a failed check prints a diagnostic. -/
def diagnostic : Call → Members
  | record name false => [(text "diagnostic", .string (text "failed check: " ++ name))]
  | _ => []

end Call

def boot (build : Build) : Members × Emitter :=
  let checksum := nextChecksum build.runId (text "boot") (text "boot") (text "boot") (text "started")
    0 0 0 0 0
  (printPrefix build.runId (text "boot") (text "boot") (text "boot") (text "started") 0 checksum,
    { sequence := 1, rollingChecksum := checksum, passed := 0, failed := 0, unsupported := 0 })

def emit (build : Build) (e : Emitter) (call : Call) : Members × Emitter :=
  let checksum := nextChecksum build.runId call.name (text "smokeCheck") (text "execute")
    call.status e.rollingChecksum e.sequence 0 0 0
  (printPrefix build.runId call.name (text "smokeCheck") (text "execute") call.status e.sequence
      checksum ++ call.diagnostic,
    { sequence := e.sequence + 1
      rollingChecksum := checksum
      passed := match call with
        | .record _ true => e.passed + 1
        | _ => e.passed
      failed := match call with
        | .record _ false => e.failed + 1
        | _ => e.failed
      unsupported := match call with
        | .recordUnsupported _ => e.unsupported + 1
        | _ => e.unsupported })

def emitAll (build : Build) : Emitter → List Call → List Members × Emitter
  | e, [] => ([], e)
  | e, call :: calls =>
    let (members, next) := emit build e call
    let (others, last) := emitAll build next calls
    (members :: others, last)

def counts (e : Emitter) : Text × Printed :=
  (text "counts", .object ([(text "passed", e.passed), (text "failed", e.failed)]
    ++ if e.unsupported ≠ 0 then [(text "unsupported", e.unsupported)] else []))

def summaryStatus (e : Emitter) : Text := if e.failed = 0 then text "completed" else text "failed"

def summary (build : Build) (e : Emitter) : Members × Emitter :=
  let checksum := nextChecksum build.runId (text "summary") (text "summary") (text "summary")
    (summaryStatus e) e.rollingChecksum e.sequence e.passed e.failed e.unsupported
  (printPrefix build.runId (text "summary") (text "summary") (text "summary") (summaryStatus e)
      e.sequence checksum ++ [counts e]
      ++ if e.failed ≠ 0 then
        [(text "diagnostic", .string (text "one or more execution checks failed"))]
      else [],
    { e with rollingChecksum := checksum, sequence := e.sequence + 1 })

/-- The readings of the seam and the benchmark, which the completion prints last. -/
structure Metrics where
  freeInternalHeap : BitVec 32
  minimumFreeInternalHeap : BitVec 32
  largestInternalBlock : BitVec 32
  mainStackHighWater : BitVec 32
  mainStackSize : BitVec 32
  resetReason : BitVec 32
  hotPathAllocations : BitVec 32
  topicParseP50ns : BitVec 32
  topicParseP95ns : BitVec 32
  readerP50ns : BitVec 32
  readerP95ns : BitVec 32
  dtoDecodeP50ns : BitVec 32
  dtoDecodeP95ns : BitVec 32
  dtoEncodeP50ns : BitVec 32
  dtoEncodeP95ns : BitVec 32
  combinedP50ns : BitVec 32
  combinedP95ns : BitVec 32
  borrowedP50ns : BitVec 32
  borrowedP95ns : BitVec 32

def Metrics.members (m : Metrics) : List (Text × BitVec 32) :=
  [(text "freeInternalHeap", m.freeInternalHeap),
    (text "minimumFreeInternalHeap", m.minimumFreeInternalHeap),
    (text "largestInternalBlock", m.largestInternalBlock),
    (text "mainStackHighWater", m.mainStackHighWater), (text "mainStackSize", m.mainStackSize),
    (text "resetReason", m.resetReason), (text "hotPathAllocations", m.hotPathAllocations),
    (text "topicParseP50ns", m.topicParseP50ns), (text "topicParseP95ns", m.topicParseP95ns),
    (text "readerP50ns", m.readerP50ns), (text "readerP95ns", m.readerP95ns),
    (text "dtoDecodeP50ns", m.dtoDecodeP50ns), (text "dtoDecodeP95ns", m.dtoDecodeP95ns),
    (text "dtoEncodeP50ns", m.dtoEncodeP50ns), (text "dtoEncodeP95ns", m.dtoEncodeP95ns),
    (text "combinedP50ns", m.combinedP50ns), (text "combinedP95ns", m.combinedP95ns),
    (text "borrowedP50ns", m.borrowedP50ns), (text "borrowedP95ns", m.borrowedP95ns)]

-- The sequence after the summary is the completion's own; `prior` is the summary's checksum.
def completion (build : Build) (e : Emitter) (metrics : Metrics) : Members :=
  let checksum := nextChecksum build.runId (text "completion") (text "complete")
    (text "completion") (summaryStatus e) e.rollingChecksum e.sequence e.passed e.failed
    e.unsupported
  printPrefix build.runId (text "completion") (text "complete") (text "completion")
      (summaryStatus e) e.sequence checksum
    ++ [counts e, (text "finalChecksum", .uint checksum)]
    ++ (if e.failed ≠ 0 then
        [(text "diagnostic", .string (text "completion reflects failed execution checks"))]
      else [])
    ++ [(text "metrics", .object metrics.members)]

/-- The records of a run, each with the members of its line. -/
def runSmoke (build : Build) (calls : List Call) (metrics : Metrics) : List Members :=
  let (first, e) := boot build
  let (checks, e) := emitAll build e calls
  let (total, e) := summary build e
  first :: checks ++ [total, completion build e metrics]

example : line (boot .withParser).1 = text ("\x7b\"schemaVersion\":2,\"runId\":\"embedded-swift-"
    ++ "smoke-v2\",\"sequence\":0,\"caseId\":\"boot\",\"operation\":\"boot\",\"stage\":\"boot\","
    ++ "\"status\":\"started\",\"checksum\":1966989375\x7d") := by
  decide +kernel

end AxolotyEmbedded.Smoke.Firmware
