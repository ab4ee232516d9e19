import Mathlib.Data.Finset.Card
import Mathlib.Data.Finset.Insert
import AxolotyEmbedded.Library.JsonParse

/-!
The host validator of the smoke protocol (`createEmbeddedSwiftSmokeValidator`): the
chained checksum, the checks of one record and the flags its kinds update. A call of
`observe` gives nothing when an exception leaves it, which only the conversion of a
count that is no number can cause. What such a value converts to is the parameter
`convert`.
-/
namespace AxolotyEmbedded.Smoke

/-- A value of `JSON.parse`. -/
abbrev JsValue := Json Binary64

def jsonParse (line : Text) : Option JsValue := Json.parse Numeral.toBinary64 line

def fatalFragments : List Text :=
  [text "Guru Meditation", text "Task watchdog got triggered", text "abort()",
    text "Backtrace:", text "axoloty:application-entry-failed"]

def recordStages : List Text :=
  [text "boot", text "execute", text "summary", text "completion"]

def evidenceStages : List Text :=
  [text "setup", text "build", text "flash", text "capture", text "boot", text "execute",
    text "summary", text "completion"]

def schemaVersion : Nat := 2

def maxDiagnosticLength : Nat := 256

/-! ### Reading values -/

/-- `value ?? 0` -/
def orZero : Option JsValue → JsValue
  | none => .num (.finite 0)
  | some .null => .num (.finite 0)
  | some value => value

/-- `value === t` -/
def isText (value : Option JsValue) (t : Text) : Bool :=
  match value with
  | some (.str s) => s = t
  | _ => false

/-- `value === q` -/
def isNumber (value : Option JsValue) (q : ℚ) : Bool :=
  match value with
  | some (.num (.finite p)) => p = q
  | _ => false

/-- `left === right` where one of the two is known to be an integer. -/
def sameNumber (left right : Option JsValue) : Bool :=
  match left with
  | some (.num (.finite q)) => isNumber right q
  | _ => false

def isString : Option JsValue → Bool
  | some (.str _) => true
  | _ => false

def isInteger : Option JsValue → Bool
  | some (.num n) => n.isInteger
  | _ => false

def textOf : Option JsValue → Text
  | some (.str s) => s
  | _ => []

def numberOf : Option JsValue → ℚ
  | some (.num (.finite q)) => q
  | _ => 0

/-! ### The checksum -/

def mixByte (hash : BitVec 32) (byte : BitVec 8) : BitVec 32 :=
  (hash ^^^ byte.setWidth 32) * 16777619

def mixText (hash : BitVec 32) (value : Text) : BitVec 32 := value.utf8.foldl mixByte hash

def mixUInt32 (hash value : BitVec 32) : BitVec 32 :=
  [0, 8, 16, 24].foldl (fun hash shift => mixByte hash ((value >>> shift).setWidth 8)) hash

section

variable (convert : JsValue → Option (BitVec 32))

/-- The left operand of `>>>`; nothing if its conversion throws. -/
def toUint32 : Option JsValue → Option (BitVec 32)
  | some (.num n) => some n.toUint32
  | some value => convert value
  | none => some 0

/-- `record.counts?.name ?? 0` -/
def count (name : Text) (record : JsValue) : JsValue :=
  orZero ((record.field (text "counts")).bind (Json.field name))

-- Every text that is mixed in was found to be a string by `commonFailure`.
def checksum (record : JsValue) (previous : BitVec 32) : Option (BitVec 32) := do
  let schema ← toUint32 convert (record.field (text "schemaVersion"))
  let sequence ← toUint32 convert (record.field (text "sequence"))
  let passed ← toUint32 convert (count (text "passed") record)
  let failed ← toUint32 convert (count (text "failed") record)
  let unsupported := count (text "unsupported") record
  let hash := mixUInt32 2166136261 schema
  let hash := mixText hash (textOf (record.field (text "runId")))
  let hash := mixUInt32 hash sequence
  let hash := mixText hash (textOf (record.field (text "caseId")))
  let hash := mixText hash (textOf (record.field (text "operation")))
  let hash := mixText hash (textOf (record.field (text "stage")))
  let hash := mixText hash (textOf (record.field (text "status")))
  let hash := mixUInt32 hash passed
  let hash := mixUInt32 hash failed
  if isNumber unsupported 0 then some (mixUInt32 hash previous)
  else do
    let bits ← toUint32 convert unsupported
    some (mixUInt32 (mixUInt32 hash bits) previous)

/-! ### The validator -/

structure Validator where
  expectedTests : Finset Text
  unsupportedTestsAllowed : Finset Text
  runId : Text

structure Failure where
  stage : Text
  diagnostic : Text

/-- The variables of the closure. `expectedSequence` counts accepted records, which
are at most three more than the expected tests. -/
structure State where
  seenTests : Finset Text
  unsupportedTests : Finset Text
  expectedSequence : Nat
  previousChecksum : BitVec 32
  bootSeen : Bool
  summary : Option JsValue
  completionSeen : Bool
  completionMetrics : Option JsValue
  failure : Option Failure

def State.initial : State where
  seenTests := ∅
  unsupportedTests := ∅
  expectedSequence := 0
  previousChecksum := 0
  bootSeen := false
  summary := none
  completionSeen := false
  completionMetrics := none
  failure := none

def boundedDiagnostic (value : Option JsValue) : Text :=
  let diagnostic := if textOf value = [] then text "embedded evidence validation failed" else textOf value
  if diagnostic.length ≤ maxDiagnosticLength then diagnostic
  else diagnostic.take (maxDiagnosticLength - 1) ++ [0x2026]

def failureResult (stage : Text) (reason : Option JsValue) : Failure where
  stage := if stage ∈ evidenceStages then stage else text "capture"
  diagnostic := boundedDiagnostic reason

def reject (s : State) (stage : Text) (reason : Option JsValue) : Bool × State :=
  (true, { s with failure := s.failure <|> some (failureResult stage reason) })

/-- `record.diagnostic ?? fallback` -/
def diagnosticOr (record : JsValue) (fallback : Text) : Option JsValue :=
  match record.field (text "diagnostic") with
  | none => some (.str fallback)
  | some .null => some (.str fallback)
  | some value => some value

def commonFailure (v : Validator) (s : State) (record : JsValue) : Option (Option Text) :=
  if !record.isObject then some (some (text "malformed record"))
  else if !isNumber (record.field (text "schemaVersion")) schemaVersion
      || !isText (record.field (text "runId")) v.runId then
    some (some (text "invalid schema identity"))
  else if !isNumber (record.field (text "sequence")) s.expectedSequence then
    some (some (text "invalid sequence"))
  else if !isString (record.field (text "caseId"))
      || !isString (record.field (text "operation")) then
    some (some (text "invalid record identity"))
  else if !recordStages.any (isText (record.field (text "stage"))) then
    some (some (text "invalid stage"))
  else if !isString (record.field (text "status")) then some (some (text "invalid status"))
  else if !isInteger (record.field (text "checksum"))
      || numberOf (record.field (text "checksum")) < 0
      || 0xffffffff < numberOf (record.field (text "checksum")) then
    some (some (text "invalid checksum"))
  else
    (checksum convert record s.previousChecksum).map fun expected =>
      if isNumber (record.field (text "checksum")) expected.toNat then none
      else some (text "checksum mismatch")

def validCount (value : Option JsValue) : Bool := isInteger value && 0 ≤ numberOf value

def validCounts (counts : Option JsValue) : Bool :=
  validCount (counts.bind (Json.field (text "passed")))
    && validCount (counts.bind (Json.field (text "failed")))
    && ((counts.bind (Json.field (text "unsupported"))).isNone
      || validCount (counts.bind (Json.field (text "unsupported"))))

def isFinished (record : JsValue) : Bool :=
  isText (record.field (text "status")) (text "completed")
    || isText (record.field (text "status")) (text "failed")

def observeBoot (s : State) (record : JsValue) : Bool × State :=
  if s.bootSeen || s.summary.isSome || s.completionSeen
      || !isText (record.field (text "operation")) (text "boot")
      || !isText (record.field (text "stage")) (text "boot")
      || !isText (record.field (text "status")) (text "started") then
    reject s (text "boot") (some (.str (text "unexpected reboot or invalid boot")))
  else (false, { s with bootSeen := true })

def observeTest (v : Validator) (s : State) (record : JsValue) (caseId : Text) : Bool × State :=
  if !s.bootSeen || s.summary.isSome || s.completionSeen
      || !isText (record.field (text "operation")) (text "smokeCheck")
      || !isText (record.field (text "stage")) (text "execute") then
    reject s (text "execute") (some (.str (text "test record out of order")))
  else if caseId ∈ s.seenTests then
    reject s (text "execute") (some (.str (text "duplicate test record: " ++ caseId)))
  else if isText (record.field (text "status")) (text "unsupported") then
    if caseId ∉ v.unsupportedTestsAllowed then
      reject s (text "execute")
        (some (.str (text "unsupported status is not allowed for " ++ caseId)))
    else if (record.field (text "diagnostic")).isSome then
      reject s (text "execute")
        (some (.str (text "unsupported test record has a failure diagnostic: " ++ caseId)))
    else
      (false, { s with unsupportedTests := insert caseId s.unsupportedTests,
                       seenTests := insert caseId s.seenTests })
  else if !isText (record.field (text "status")) (text "passed") then
    if textOf (record.field (text "diagnostic")) = []
        ∨ maxDiagnosticLength < (textOf (record.field (text "diagnostic"))).length then
      reject s (text "execute") (some (.str (text "failed test record: " ++ caseId
        ++ text ": missing or unbounded diagnostic")))
    else reject s (text "execute") (record.field (text "diagnostic"))
  else (false, { s with seenTests := insert caseId s.seenTests })

def observeSummary (s : State) (record : JsValue) : Bool × State :=
  let counts := record.field (text "counts")
  let unsupported := counts.bind (Json.field (text "unsupported"))
  if !s.bootSeen || s.summary.isSome || s.completionSeen
      || !isText (record.field (text "operation")) (text "summary")
      || !isText (record.field (text "stage")) (text "summary")
      || !isFinished record || !validCounts counts then
    reject s (text "summary") (some (.str (text "invalid summary record")))
  else if isText (record.field (text "status")) (text "failed") then
    reject s (text "summary")
      (diagnosticOr record (text "summary reports failed execution checks"))
  else if !isNumber (orZero unsupported) s.unsupportedTests.card then
    reject s (text "summary")
      (some (.str (text "unsupported count does not match unsupported records")))
  else if 0 < s.unsupportedTests.card ∧ unsupported.isNone then
    reject s (text "summary") (some (.str (text "summary omits the unsupported count")))
  else (false, { s with summary := counts })

def observeCompletion (s : State) (record : JsValue) : Bool × State :=
  let counts := record.field (text "counts")
  match s.summary with
  | none => reject s (text "summary") (some (.str (text "missing summary record")))
  | some summary =>
    if s.completionSeen
        || !isText (record.field (text "operation")) (text "complete")
        || !isText (record.field (text "stage")) (text "completion")
        || !isFinished record || !validCounts counts
        || !sameNumber (counts.bind (Json.field (text "passed"))) (summary.field (text "passed"))
        || !sameNumber (counts.bind (Json.field (text "failed"))) (summary.field (text "failed"))
        || !sameNumber (orZero (counts.bind (Json.field (text "unsupported"))))
          (orZero (summary.field (text "unsupported")))
        || !sameNumber (record.field (text "finalChecksum")) (record.field (text "checksum")) then
      reject s (text "completion") (some (.str (text "invalid completion record")))
    else if isText (record.field (text "status")) (text "failed") then
      reject s (text "completion")
        (diagnosticOr record (text "completion reports failed execution checks"))
    else
      (true, { s with completionMetrics := record.field (text "metrics"),
                      completionSeen := true })

/-- A record that passed the common checks, by its kind. -/
def observeKind (v : Validator) (s : State) (record : JsValue) : Bool × State :=
  let caseId := textOf (record.field (text "caseId"))
  if caseId = text "boot" then observeBoot s record
  else if caseId ∈ v.expectedTests then observeTest v s record caseId
  else if caseId = text "summary" then observeSummary s record
  else if caseId = text "completion" then observeCompletion s record
  else reject s (text "execute") (some (.str (text "unknown case identifier: " ++ caseId)))

def observeRecord (v : Validator) (s : State) (record : JsValue) : Option (Bool × State) :=
  (commonFailure convert v s record).map fun failed =>
    match failed with
    | some reason => reject s (text "capture") (some (.str reason))
    | none =>
      observeKind v
        { s with previousChecksum :=
                   BitVec.ofInt 32 (numberOf (record.field (text "checksum"))).num,
                 expectedSequence := s.expectedSequence + 1 } record

def isFatal (line : Text) : Bool := fatalFragments.any fun fragment => fragment <:+: line

def isRecordLine (line : Text) : Bool := line.head? = some (unit '{')

def observe (v : Validator) (s : State) (line : Text) : Option (Bool × State) :=
  if isFatal line then
    some (reject s (text "capture") (some (.str (text "fatal device output: " ++ line))))
  else if !isRecordLine line then some (false, s)
  else
    match jsonParse line with
    | none =>
      some (reject s (text "capture") (some (.str (text "malformed JSON record: " ++ line))))
    | some record => observeRecord convert v s record

inductive Result where
  | rejected (failure : Failure)
  | accepted (passed : Option JsValue) (unsupported : Option JsValue)
      (metrics : Option JsValue)

def Result.passed : Result → Bool
  | .accepted .. => true
  | .rejected _ => false

def result (v : Validator) (s : State) : Result :=
  let missing (stage reason : Text) := Result.rejected (failureResult stage (some (.str reason)))
  match s.failure with
  | some failure => .rejected failure
  | none =>
    if !s.bootSeen then missing (text "boot") (text "missing boot record")
    else if s.seenTests.card ≠ v.expectedTests.card then
      missing (text "execute") (text "missing expected test records")
    else
      match s.summary with
      | none => missing (text "summary") (text "missing summary record")
      | some summary =>
        if !s.completionSeen then missing (text "completion") (text "missing completion record")
        -- A set has fewer than `2 ^ 53` elements, so rounding never gives its size.
        else if !isNumber (summary.field (text "failed")) 0
            || numberOf (summary.field (text "passed"))
                + numberOf (orZero (summary.field (text "unsupported"))) ≠ v.expectedTests.card then
          missing (text "summary") (text "invalid summary counts")
        else
          .accepted (summary.field (text "passed"))
            (if isNumber (orZero (summary.field (text "unsupported"))) 0 then none
              else summary.field (text "unsupported"))
            s.completionMetrics

end

end AxolotyEmbedded.Smoke
