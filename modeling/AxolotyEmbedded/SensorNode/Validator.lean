import AxolotyEmbedded.Smoke.Validator

/-!
The host's judgement of a sensor node (`sensor-node-validator.mjs`): records are read from serial
lines, also where the logger cut one in two, and a run is judged from its records, over one session
or across outages. A failure stands for its message.
-/
namespace AxolotyEmbedded.SensorNode

open Smoke (JsValue jsonParse isText isNumber)

/-! ## Lines -/

/-- What `trim` strips. -/
def isJsSpace (u : UInt16) : Bool :=
  [0x09, 0x0A, 0x0B, 0x0C, 0x0D, 0x20, 0xA0, 0x1680, 0x2000, 0x2001, 0x2002, 0x2003, 0x2004, 0x2005,
    0x2006, 0x2007, 0x2008, 0x2009, 0x200A, 0x2028, 0x2029, 0x202F, 0x205F, 0x3000, 0xFEFF].contains u

def trim (line : Text) : Text :=
  ((line.dropWhile isJsSpace).reverse.dropWhile isJsSpace).reverse

/-- The line from the first place where a pattern is. -/
def sliceFrom (pattern : Text) : Text → Option Text
  | [] => if pattern = [] then some [] else none
  | u :: rest => if pattern.isPrefixOf (u :: rest) then some (u :: rest) else sliceFrom pattern rest

def recordStart : Text := text "\x7b\"event\":\"sensor-node-"

def eventStart : Text := text "\x7b\"event\":"

def parseSensorRecord (line : Text) : Option JsValue :=
  (sliceFrom recordStart line).bind fun rest => jsonParse (trim rest)

def isLevel (u : UInt16) : Bool := (text "EWIDV").contains u

/-- `[\w.-]`. -/
def isTagUnit (u : UInt16) : Bool :=
  Json.isDigit u || (0x41 ≤ u && u ≤ 0x5A) || (0x61 ≤ u && u ≤ 0x7A) || (text "_.-").contains u

/-- `[EWIDV] \(\d+\) [\w.-]+:` at the start of a text. -/
def startsLog : Text → Bool
  | level :: space :: opening :: rest =>
      isLevel level && space == unit ' ' && opening == unit '(' &&
        !(rest.takeWhile Json.isDigit).isEmpty &&
        match rest.dropWhile Json.isDigit with
        | closing :: space :: tag =>
            closing == unit ')' && space == unit ' ' && !(tag.takeWhile isTagUnit).isEmpty &&
              (tag.dropWhile isTagUnit).head? == some (unit ':')
        | _ => false
  | _ => false

/-- What comes before the first log line in a text, if there is one. -/
def untilLog : Text → Option Text
  | [] => none
  | u :: rest => if startsLog (u :: rest) then some [] else (untilLog rest).map (u :: ·)

/-- `pending`: the part of a record that may go on in the next line. -/
def pendingOf (rest : Text) : Text :=
  match untilLog rest with
  | some (u :: before) => trim (u :: before)
  | _ => trim rest

/-- The record of a joined text. -/
def continued (joined : Text) : Option JsValue :=
  (jsonParse joined).filter fun record =>
    match record.field (text "event") with
    | some (.str event) => (text "sensor-node-").isPrefixOf event
    | _ => false

/-- `feed` of a record assembler, with its `pending`. -/
def feed (pending : Option Text) (line : Text) : Option JsValue × Option Text :=
  match pending.bind fun held => continued (held ++ trim line) with
  | some record => (some record, none)
  | none =>
      match parseSensorRecord line with
      | some record => (some record, none)
      | none => (none, (sliceFrom eventStart line).map pendingOf)

/-- The records that an assembler returns for some lines. -/
def feedAll : Option Text → List Text → List JsValue
  | _, [] => []
  | pending, line :: lines =>
      let (record, pending) := feed pending line
      record.toList ++ feedAll pending lines

/-! ## Values -/

/-- What operators make of operands that are no numbers. `less` gives nothing for `NaN`. -/
structure Conversions where
  less : Option JsValue → Option JsValue → Option Bool
  toNumber : Option JsValue → Binary64

def numberLess : Binary64 → Binary64 → Option Bool
  | .nan, _ => none
  | _, .nan => none
  | .finite x, .finite y => some (x < y)
  | .infinite negative, .infinite negative' => some (negative && !negative')
  | .infinite negative, .finite _ => some negative
  | .finite _, .infinite negative => some (!negative)

/-- `Number.isSafeInteger(value)`, with the integer. -/
def safeInteger : Option JsValue → Option Int
  | some (.num (.finite value)) =>
      if value.isInt ∧ value.num.natAbs ≤ 9007199254740991 then some value.num else none
  | _ => none

def isCount (value : Option JsValue) : Bool := (safeInteger value).any (0 ≤ ·)

/-- A record by its members. The assembler returns objects only. -/
abbrev Record := List (Text × JsValue)

def Record.get (record : Record) (name : String) : Option JsValue := Json.field (text name) (.obj record)

def Record.isEvent (record : Record) (event : String) : Bool := isText (record.get "event") (text event)

def number (value : Int) : Option JsValue := some (.num (.finite value))

section

variable (conversions : Conversions)

def isLess : Option JsValue → Option JsValue → Option Bool
  | some (.num x), some (.num y) => numberLess x y
  | x, y => conversions.less x y

/-- `x > y`. -/
def isGreater (x y : Option JsValue) : Bool := isLess conversions y x == some true

/-- `x <= y`. -/
def isAtMost (x y : Option JsValue) : Bool := isLess conversions y x == some false

/-- `x >= y`. -/
def isAtLeast (x y : Option JsValue) : Bool := isLess conversions x y == some false

def toNumber : Option JsValue → Binary64
  | some (.num x) => x
  | value => conversions.toNumber value

/-- The smaller of two numbers in an order. -/
def lesser (less : Binary64 → Binary64 → Option Bool) (x y : Binary64) : Binary64 :=
  match less y x with
  | none => .nan
  | some true => y
  | some false => x

/-- `Math.min(...values)`. -/
def minimumOf (values : List (Option JsValue)) : Binary64 :=
  (values.map (toNumber conversions)).foldl (lesser numberLess) (.infinite false)

/-- `Math.max(...values)`. -/
def maximumOf (values : List (Option JsValue)) : Binary64 :=
  (values.map (toNumber conversions)).foldl (lesser fun x y => numberLess y x) (.infinite true)

/-! ## Samples -/

inductive Mode where
  | normal | recovery
  deriving DecidableEq

/-- A failure of a run, for its message. The index of an outage is given where there are several. -/
inductive Failure where
  | invalidField (sample : Nat) (field : String)
  | impossibleStack (sample : Nat)
  | impossibleHeap (sample : Nat)
  | publishFailures (sample : Nat)
  | rejectedFrames (sample : Nat)
  | neverAdvertised
  | reported (event : String)
  | unknownStage (stage : Option JsValue)
  | sessionEnded (stage : Option JsValue)
  | tooFewSamples (samples : Nat)
  | lastPublishFailures (count : Option JsValue)
  | lastRejected (count : Option JsValue)
  | noDiscoverAnswered
  | readingsStalled
  | budgetedTiming (metric : Text)
  | unknownMetric (metric : Text)
  | invalidBudget (metric : Text)
  | invalidMeasurement (metric : Text)
  | belowFloor (metric : Text) (measured floor : JsValue)
  | invalidOutages
  | missingReceiveTime
  | endedBeforeOutage
  | endNotReported (outage : Option Nat)
  | notReadvertised (outage : Option Nat)
  | noSampleBefore (outage : Option Nat)
  | fewSamplesAfter (samples : Nat) (outage : Option Nat)
  | readingsStalledAfter (outage : Option Nat)
  | sessionsStalledAfter (outage : Option Nat)
  | endedAfterAdvertise (outage : Option Nat)

def failIf (condition : Bool) (failure : Failure) : List Failure := if condition then [failure] else []

def minimumSamples : Nat := 3

def minimumRecoverySamples : Nat := 2

def timingFields : List String := ["readingLastUs", "readingMaxUs", "frameLastUs", "frameMaxUs"]

def sessionStages : List String :=
  ["network", "last-will", "connect", "subscribe", "advertise", "serving"]

def sampleFields : List String :=
  ["sessions", "readings", "resolves", "rejected", "publishFailures"] ++ timingFields ++
    ["freeHeap", "minimumFreeHeap", "stackRemaining", "stackSize"]

def samplesOf (records : List Record) : List Record := records.filter (·.isEvent "sensor-node-metrics")

def endedOf (records : List Record) : List Record :=
  records.filter (·.isEvent "sensor-node-session-ended")

/-- The failures of one sample. -/
def sampleFailures (mode : Mode) (ended : Nat) (index : Nat) (sample : Record) : List Failure :=
  (sampleFields.flatMap fun field =>
      failIf (!isCount (sample.get field)) (.invalidField (index + 1) field)) ++
    failIf (isGreater conversions (sample.get "stackRemaining") (sample.get "stackSize"))
      (.impossibleStack (index + 1)) ++
    failIf (isGreater conversions (sample.get "minimumFreeHeap") (sample.get "freeHeap"))
      (.impossibleHeap (index + 1)) ++
    failIf (match mode with
      | .normal => !isNumber (sample.get "publishFailures") 0
      | .recovery => isGreater conversions (sample.get "publishFailures") (number ended))
      (.publishFailures (index + 1)) ++
    failIf (!isNumber (sample.get "rejected") 0) (.rejectedFrames (index + 1))

def isStage (stage : Option JsValue) : Bool := sessionStages.any fun name => isText stage (text name)

/-- The failures of one session that ended. -/
def endedFailures (mode : Mode) (record : Record) : List Failure :=
  if isStage (record.get "stage") then
    failIf (mode = .normal) (.sessionEnded (record.get "stage"))
  else [.unknownStage (record.get "stage")]

def lastFailures (mode : Mode) (samples : List Record) : List Failure :=
  match samples.getLast? with
  | none => []
  | some last =>
      failIf (mode = .normal && !isNumber (last.get "publishFailures") 0)
          (.lastPublishFailures (last.get "publishFailures")) ++
        failIf (!isNumber (last.get "rejected") 0) (.lastRejected (last.get "rejected")) ++
        failIf (isLess conversions (last.get "resolves") (number 1) == some true) .noDiscoverAnswered

/-- The readings of each sample against those of the one before it. -/
def stalledFailures : List Record → List Failure
  | first :: second :: rest =>
      failIf (isAtMost conversions (second.get "readings") (first.get "readings")) .readingsStalled ++
        stalledFailures (second :: rest)
  | _ => []

/-! ## Outages -/

structure Outage where
  startMs : Int
  endMs : Int

def readOutage (outage : JsValue) : Option Outage := do
  let startMs ← safeInteger (outage.field (text "startMs"))
  let endMs ← safeInteger (outage.field (text "endMs"))
  if startMs < endMs then some ⟨startMs, endMs⟩ else none

/-- Each outage ends before the next one starts. -/
def inOrder : List Outage → Bool
  | first :: second :: rest => first.endMs ≤ second.startMs && inOrder (second :: rest)
  | _ => true

/-- The outages of a recovery run, if they are valid. -/
def readOutages (outages : Option (List JsValue)) : Option (List Outage) := do
  let listed ← outages
  let outages ← listed.mapM readOutage
  if outages ≠ [] ∧ inOrder outages = true then some outages else none

def receivedAt (record : Record) : Option Int := safeInteger (record.get "receivedAtMs")

/-- `at(record)`, of a record with a receive time. -/
def time (record : Record) : Int := (receivedAt record).getD 0

/-- An outage with the start of the next one. -/
structure Window extends Outage where
  limit : Option Int
  label : Option Nat

def Window.isBelow (window : Window) (record : Record) : Bool := window.limit.all (time record < ·)

def Window.holds (window : Window) (record : Record) : Bool :=
  window.startMs ≤ time record && window.isBelow record

def windowsFrom (several : Bool) : Nat → List Outage → List Window
  | _, [] => []
  | index, outage :: rest =>
      { outage with
        limit := rest.head?.map Outage.startMs
        label := if several then some (index + 1) else none } :: windowsFrom several (index + 1) rest

def windowsOf (outages : List Outage) : List Window := windowsFrom (1 < outages.length) 0 outages

/-- What is reported of one outage. -/
structure Figures where
  outageMs : Binary64
  sessionEndedAfterMs : Binary64
  sessionEndedStages : List (Option JsValue)
  readvertisedAfterMs : Binary64
  freeHeapAfterBytes : Option JsValue
  minimumFreeHeapBytes : Binary64
  stackRemainingBytes : Binary64

def elapsedMs (later earlier : Int) : Binary64 := Binary64.nearest (later - earlier : Int)

section Window

variable (window : Window) (records samples ended : List Record)

/-- The first Advertise after an outage. -/
def readvertised : Option Record :=
  records.find? fun record => record.isEvent "sensor-node-advertised" &&
    window.endMs ≤ time record && window.isBelow record

def samplesBefore : List Record := samples.filter fun sample => time sample < window.startMs

def samplesAfter (advertised : Record) : List Record :=
  samples.filter fun sample => time advertised < time sample && window.isBelow sample

/-- The readings after an outage against those before it. -/
def readingsFailures (before after : List Record) : List Failure :=
  match after.head?, before.getLast? with
  | some first, some last =>
      failIf (isAtMost conversions (first.get "readings") (last.get "readings"))
        (.readingsStalledAfter window.label)
  | _, _ => []

def sessionsFailures (after : List Record) : List Failure :=
  match after.getLast? with
  | none => []
  | some last =>
      failIf (!isAtLeast conversions (last.get "sessions") (number 1)) (.sessionsStalledAfter window.label)

/-- The failures of a node that has advertised again. -/
def readvertisedFailures (advertised : Record) : List Failure :=
  let before := samplesBefore window samples
  let after := samplesAfter window samples advertised
  (if after.length < minimumRecoverySamples then [.fewSamplesAfter after.length window.label]
    else readingsFailures conversions window before after) ++
    sessionsFailures conversions window after ++
    failIf (ended.any fun record => time advertised ≤ time record && window.isBelow record)
      (.endedAfterAdvertise window.label)

def windowFailures : List Failure :=
  failIf (ended.find? window.holds).isNone (.endNotReported window.label) ++
    failIf (readvertised window records).isNone (.notReadvertised window.label) ++
    failIf (samplesBefore window samples).isEmpty (.noSampleBefore window.label) ++
    match readvertised window records with
    | none => []
    | some advertised => readvertisedFailures conversions window samples ended advertised

def windowFigures : Option Figures := do
  let reported ← ended.find? window.holds
  let advertised ← readvertised window records
  let held := samples.filter window.holds
  some {
    outageMs := elapsedMs window.endMs window.startMs
    sessionEndedAfterMs := elapsedMs (time reported) window.startMs
    sessionEndedStages := (ended.filter window.holds).map (·.get "stage")
    readvertisedAfterMs := elapsedMs (time advertised) window.endMs
    freeHeapAfterBytes :=
      (samplesAfter window samples advertised).getLast?.bind (·.get "freeHeap")
    minimumFreeHeapBytes := minimumOf conversions (held.map (·.get "minimumFreeHeap"))
    stackRemainingBytes := minimumOf conversions (held.map (·.get "stackRemaining")) }

end Window

/-- `judgeRecovery`: the failures, and the figures of all outages if each has some. -/
def judgeRecovery (records : List Record) (outages : Option (List JsValue)) :
    List Failure × Option (List Figures) :=
  let samples := samplesOf records
  let ended := endedOf records
  match readOutages outages with
  | none => ([.invalidOutages], none)
  | some outages =>
      if records.all fun record => (receivedAt record).isSome then
        (failIf (ended.any fun record => outages.head?.any (time record < ·.startMs)) .endedBeforeOutage ++
            (windowsOf outages).flatMap fun window =>
              windowFailures conversions window records samples ended,
          (windowsOf outages).mapM fun window => windowFigures conversions window records samples ended)
      else ([.missingReceiveTime], none)

/-! ## Runs -/

structure RunMetrics where
  samples : Nat
  readings : Option JsValue
  resolves : Option JsValue
  minimumFreeHeapBytes : Binary64
  stackRemainingBytes : Binary64
  stackSizeBytes : Option JsValue
  readingLastUs : Option JsValue
  readingMaxUs : Binary64
  frameLastUs : Option JsValue
  frameMaxUs : Binary64
  recovery : Option (List Figures)

def metricsOf (samples : List Record) (recovery : Option (List Figures)) : Option RunMetrics :=
  samples.getLast?.map fun last =>
    { samples := samples.length
      readings := last.get "readings"
      resolves := last.get "resolves"
      minimumFreeHeapBytes := minimumOf conversions (samples.map (·.get "minimumFreeHeap"))
      stackRemainingBytes := minimumOf conversions (samples.map (·.get "stackRemaining"))
      stackSizeBytes := last.get "stackSize"
      readingLastUs := last.get "readingLastUs"
      readingMaxUs := maximumOf conversions (samples.map (·.get "readingMaxUs"))
      frameLastUs := last.get "frameLastUs"
      frameMaxUs := maximumOf conversions (samples.map (·.get "frameMaxUs"))
      recovery }

/-- The names that every object has from its prototype. -/
def inheritedNames : List String :=
  ["constructor", "hasOwnProperty", "isPrototypeOf", "propertyIsEnumerable", "toLocaleString",
    "toString", "valueOf", "__proto__", "__defineGetter__", "__defineSetter__", "__lookupGetter__",
    "__lookupSetter__"]

/-- `metrics[metric]`. What is no number is an empty object here. -/
def RunMetrics.get (metrics : RunMetrics) (metric : Text) : Option JsValue :=
  if metric = text "samples" then number metrics.samples
  else if metric = text "readings" then metrics.readings
  else if metric = text "resolves" then metrics.resolves
  else if metric = text "minimumFreeHeapBytes" then some (.num metrics.minimumFreeHeapBytes)
  else if metric = text "stackRemainingBytes" then some (.num metrics.stackRemainingBytes)
  else if metric = text "stackSizeBytes" then metrics.stackSizeBytes
  else if metric = text "readingLastUs" then metrics.readingLastUs
  else if metric = text "readingMaxUs" then some (.num metrics.readingMaxUs)
  else if metric = text "frameLastUs" then metrics.frameLastUs
  else if metric = text "frameMaxUs" then some (.num metrics.frameMaxUs)
  else if metric = text "recovery" then metrics.recovery.map fun _ => .obj []
  else if inheritedNames.any (text · == metric) then some (.obj [])
  else none

/-- The failures of one budget. -/
def budgetFailures (metrics : RunMetrics) (budget : Text × JsValue) : List Failure :=
  if timingFields.any (text · == budget.1) then [.budgetedTiming budget.1]
  else
    match metrics.get budget.1 with
    | none => [.unknownMetric budget.1]
    | some measured =>
        if !isCount (some budget.2) then [.invalidBudget budget.1]
        else if (safeInteger (some measured)).isNone then [.invalidMeasurement budget.1]
        else
          failIf (isLess conversions (some measured) (some budget.2) == some true)
            (.belowFloor budget.1 measured budget.2)

structure Verdict where
  mode : Mode
  failures : List Failure
  metrics : Option RunMetrics

def Verdict.passed (verdict : Verdict) : Bool := verdict.failures.isEmpty

/-- `counts.passed`. -/
def Verdict.count (verdict : Verdict) : Nat :=
  if verdict.passed then (verdict.metrics.map RunMetrics.samples).getD 0 else 0

/-- The failures that do not depend on outages and budgets. -/
def runFailures (mode : Mode) (records : List Record) : List Failure :=
  let samples := samplesOf records
  let ended := endedOf records
  (samples.mapIdx fun index sample => sampleFailures conversions mode ended.length index sample).flatten ++
    failIf (!records.any (·.isEvent "sensor-node-advertised")) .neverAdvertised ++
    (["sensor-node-restart", "sensor-node-unconfigured"].flatMap fun event =>
      failIf (records.any (·.isEvent event)) (.reported event)) ++
    ended.flatMap (endedFailures mode) ++
    failIf (samples.length < minimumSamples) (.tooFewSamples samples.length) ++
    lastFailures conversions mode samples ++
    stalledFailures conversions samples

/-- The failures of the floors that a profile declares. -/
def floorFailures (metrics : Option RunMetrics) (budgets : Option (List (Text × JsValue))) :
    List Failure :=
  match metrics, budgets with
  | some metrics, some budgets => budgets.flatMap (budgetFailures conversions metrics)
  | _, _ => []

/-- The failures of the outages, with their figures. -/
def Mode.recoveryOf (mode : Mode) (records : List Record) (outages : Option (List JsValue)) :
    List Failure × Option (List Figures) :=
  match mode with
  | .normal => ([], none)
  | .recovery => judgeRecovery conversions records outages

/-- `evaluateSensorRun`, with the entries of the budgets in their order. -/
def evaluateSensorRun (records : List Record) (budgets : Option (List (Text × JsValue))) (mode : Mode)
    (outages : Option (List JsValue)) : Verdict :=
  let recovery := mode.recoveryOf conversions records outages
  let metrics := metricsOf conversions (samplesOf records) recovery.2
  { mode
    failures := runFailures conversions mode records ++ recovery.1 ++
      floorFailures conversions metrics budgets
    metrics }

end

end AxolotyEmbedded.SensorNode
