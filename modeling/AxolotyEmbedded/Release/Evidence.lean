import Mathlib.Data.List.Dedup
import Mathlib.Data.List.Sort
import AxolotyEmbedded.Library.Collect
import AxolotyEmbedded.Release.Values

/-!
The evidence of a release manifest: `validate_evidence` of one record, the records of a
profile below `docs/evidence`, what a manifest cites of them, and the checks that a profile
requires.
-/
namespace AxolotyEmbedded.Release

open PythonText Checked

variable (tables : PythonTables)

/-! ## One record -/

def statuses : List PyJson := texts ["passed", "failed", "unexecuted"]

def executedStatuses : List PyJson := texts ["passed", "failed"]

/-- `{"device", None}`. -/
def deviceTiers : List PyJson := [.str "device".toList, .none]

/-- The fields that an executed record of a tier names. -/
def executedFields (tier : PyJson) : List String :=
  if tier.equals (.str "component".toList) then
    ["component", "artifactSHA256", "coreRevision", "result", "toolchain"]
  else
    ["firmwareSHA256", "coreRevision", "result"] ++
      if tier.equals (.str "build".toList) then ["toolchain"] else ["device", "protocol"]

/-- `checksum and not HEX64.fullmatch(checksum)`, of one field and its width. -/
def isBadHex (record : PyJson) (field : String) (width : Nat) : Bool :=
  tables.strOf record field ≠ [] && !isHexText width (tables.strOf record field)

/-- The fields of an executed record that hold checksums and revisions. -/
def hexProblems (path : Str) (record : PyJson) : List Problem :=
  check (!isBadHex tables record "firmwareSHA256" 64)
      ⟨"%s: firmwareSHA256 must be 64 lowercase hexadecimal characters", [.str path]⟩ ++
    check (!isBadHex tables record "artifactSHA256" 64)
      ⟨"%s: artifactSHA256 must be 64 lowercase hexadecimal characters", [.str path]⟩ ++
    check (!isBadHex tables record "coreRevision" 40)
      ⟨"%s: coreRevision must be a full commit SHA", [.str path]⟩ ++
    check (!isBadHex tables record "firmwareRevision" 40)
      ⟨"%s: firmwareRevision must be a full commit SHA", [.str path]⟩

/-- `tier or "device"`. -/
def tierName (tier : PyJson) : PyJson := if tier.truth then tier else .str "device".toList

/-- What the status of a record asks of it. -/
def statusProblems (path : Str) (record status tier : PyJson) : Except Raised (List Problem) := do
  if ← inSet status executedStatuses then
    return ((executedFields tier).flatMap fun field =>
        check (record.get field).truth
          ⟨"%s: an executed %s record must name %s", [.str path, tierName tier, .str field.toList]⟩) ++
      hexProblems tables path record
  else
    return check (!(status.equals (.str "unexecuted".toList) && !(record.get "reason").truth))
      ⟨"%s: an unexecuted record must state a reason", [.str path]⟩

/-- `validate_evidence`. -/
def validateEvidence (record : PyJson) (path : Str) : Except Raised (List Problem) := do
  let version ← getField record "schemaVersion"
  let status := record.get "status"
  let known ← inSet status statuses
  let tier := record.get "tier"
  let tierKnown ← inSet tier (texts ["build", "component", "device"] ++ [.none])
  let byStatus ← statusProblems tables path record status tier
  return check (version.equals (.int 1)) ⟨"%s: schemaVersion must be 1", [.str path]⟩ ++
    check known ⟨"%s: status must be one of %s", [.str path, .list statuses]⟩ ++
    (["profile", "check", "recordedAt"].flatMap fun field =>
      check (record.get field).truth ⟨"%s: %s is required", [.str path, .str field.toList]⟩) ++
    check tierKnown
      ⟨"%s: tier must be build, component, or device when present, found %r", [.str path, tier]⟩ ++
    byStatus

/-! ## The records of a profile -/

/-- The files of `docs/evidence` by their names, with nothing for one that is no JSON. -/
abbrev EvidenceFiles := List (Str × Option PyJson)

/-- A record in the shape that a manifest cites. -/
def evidenceEntry (name : Str) (record : PyJson) : Except Raised PyJson := do
  let executed ← inSet (record.get "status") executedStatuses
  return .dict ([("path".toList, .str ("docs/evidence/".toList ++ name)),
      ("check".toList, record.get "check"), ("tier".toList, record.get "tier"),
      ("status".toList, record.get "status")] ++
    if executed then
      [("coreRevision".toList, record.get "coreRevision"),
        ("firmwareSHA256".toList, record.get "firmwareSHA256"),
        ("firmwareRevision".toList, record.get "firmwareRevision"),
        ("device".toList, record.get "device")]
    else [("reason".toList, record.get "reason")])

/-- The entry of a file that is a record of the profile. -/
def discoverFile (profileName : Str) (file : Str × Option PyJson) : Except Raised (List PyJson) :=
  if ".json".toList.isSuffixOf file.1 then
    match file.2 with
    | none => .error .value
    | some record =>
        if record.isDict && (record.get "profile").equals (.str profileName) then do
          return [← evidenceEntry file.1 record]
        else .ok []
  else .ok []

def sortedFiles (files : EvidenceFiles) : EvidenceFiles :=
  files.insertionSort fun first second => strLe first.1 second.1 = true

/-- `discover_evidence`. -/
def discoverEvidence (files : EvidenceFiles) (profileName : Str) : Except Raised (List PyJson) :=
  collect (discoverFile profileName) (sortedFiles files)

/-! ## What a manifest cites -/

def citedFields : List String :=
  ["check", "tier", "status", "coreRevision", "firmwareSHA256", "firmwareRevision", "device",
    "reason"]

/-- `actual.get(path)`; of two entries of a path the later one is kept. -/
def recordAt (discovered : List PyJson) (path : PyJson) : Option PyJson :=
  discovered.reverse.find? fun entry => (entry.get "path").same path

/-- The fields that a cited entry restates wrongly. -/
def fieldProblems (compareRevision : Bool) (entry record : PyJson) : List Problem :=
  citedFields.flatMap fun field =>
    if field = "firmwareRevision" ∧ compareRevision = false then []
    else check ((entry.get field).equals (record.get field))
      ⟨"evidence %s cites %s %r, but the record says %r; a certificate whose records were rerun needs a revocation record marking it superseded",
        [entry.get "path", .str field.toList, entry.get field, record.get field]⟩

def citedEntryProblems (discovered : List PyJson) (compareRevision : Bool) (entry : PyJson) :
    Except Raised (List Problem) := do
  if entry.isDict then
    refuseIf ((entry.get "path").hashable = false) .type
    match recordAt discovered (entry.get "path") with
    | none =>
        return [⟨"evidence %r is not a record of this profile in docs/evidence", [entry.get "path"]⟩]
    | some record => return fieldProblems compareRevision entry record
  else return []

/-- `{item.get("check") for item in required_checks if isinstance(item, dict)}`. -/
def requiredNames (requiredChecks : PyJson) : Except Raised (List PyJson) :=
  match requiredChecks.list? with
  | none => .ok []
  | some items =>
      collect (fun item => do
        if item.isDict then
          refuseIf ((item.get "check").hashable = false) .type
          return [item.get "check"]
        else return []) items

/-- A record that is left out though it failed or is one of a required check. -/
def omittedProblems (citedPaths required : List PyJson) (record : PyJson) :
    Except Raised (List Problem) := do
  if citedPaths.any fun path => (record.get "path").same path then return []
  else if (record.get "status").equals (.str "failed".toList) then
    return [⟨"evidence %s is a failed record of this profile and the manifest does not cite it",
      [record.get "path"]⟩]
  else if ← inSet (record.get "check") required then
    return [⟨"evidence %s is a record of required check %s and the manifest does not cite it",
      [record.get "path", record.get "check"]⟩]
  else return []

/-- `cited_paths` after the loop over the cited entries. -/
def citedPaths (cited : List PyJson) : List PyJson :=
  (cited.filter PyJson.isDict).map fun entry => entry.get "path"

/-- `cited_evidence_problems`. -/
def citedEvidenceProblems (cited discovered : List PyJson) (requiredChecks : PyJson)
    (compareRevision : Bool) : Except Raised (List Problem) := do
  let wrong ← collect (citedEntryProblems discovered compareRevision) cited
  let required ← requiredNames requiredChecks
  let omitted ← collect (omittedProblems (citedPaths cited) required) discovered
  return wrong ++ omitted

/-! ## The required checks -/

inductive Artifact where
  | release
  | variant
  deriving DecidableEq

/-- The fields of a required check that is well formed. -/
structure RequiredCheck where
  check : Str
  artifact : Artifact
  records : Nat
  units : Nat

/-- A positive integer that is no `bool`. -/
def readCount : PyJson → Option Nat
  | .int (.ofNat (value + 1)) => some (value + 1)
  | _ => none

/-- The fields of a required check, and nothing if it is malformed. The set of the artifacts is
asked only for a name of a check. -/
def readRequired (required : PyJson) : Except Raised (Option RequiredCheck) := do
  if isNonemptyString (required.get "check") then
    let known ← inSet (required.get "artifact") (texts ["release", "variant"])
    match (required.get "check").text?, readCount (required.get "records"),
        readCount (required.get "units") with
    | some name, some records, some units =>
        if known then
          let artifact := if (required.get "artifact").equals (.str "release".toList) then
            Artifact.release else .variant
          return some ⟨name, artifact, records, units⟩
        else return none
    | _, _, _ => return none
  else return none

/-- The build that a certificate names. A revision of `none` predates the rule. -/
structure Build where
  coreSha : Str
  imageSha : Str
  firmwareRevision : PyJson

/-- What a record of a required check is compared with, by its artifact. -/
def artifactMatches (build : Build) (artifact : Artifact) (entry : PyJson) : Bool :=
  match artifact with
  | .release => (entry.get "firmwareSHA256").equals (.str build.imageSha)
  | .variant => isHexText 64 (tables.strOf entry "firmwareSHA256") &&
      (build.firmwareRevision.equals .none ||
        (entry.get "firmwareRevision").equals build.firmwareRevision)

def isAccepted (build : Build) (artifact : Artifact) (entry : PyJson) : Except Raised Bool := do
  let tier ← inSet (entry.get "tier") deviceTiers
  return tier && (entry.get "status").equals (.str "passed".toList) &&
    (entry.get "coreRevision").equals (.str build.coreSha) &&
    artifactMatches tables build artifact entry

/-- `observed`: the units that are named. -/
def observedUnits (accepted : List PyJson) : List Str :=
  ((accepted.filter fun entry => isNonemptyString (entry.get "device")).filterMap fun entry =>
    (entry.get "device").text?).dedup

def isStale (build : Build) (artifact : Artifact) (entry : PyJson) : Bool :=
  artifact = .variant && !build.firmwareRevision.equals .none &&
    (entry.get "status").equals (.str "passed".toList) &&
    (entry.get "coreRevision").equals (.str build.coreSha) &&
    !(entry.get "firmwareRevision").equals build.firmwareRevision

/-- Why the records of a check do not satisfy it. -/
def checkProblems (build : Build) (required : RequiredCheck) (records accepted : List PyJson) :
    List Problem :=
  let name := PyJson.str required.check
  if records.isEmpty then [⟨"required check %s has no record", [name]⟩]
  else if accepted.length ≠ records.length then
    match records.find? (isStale build required.artifact) with
    | some stale =>
        [⟨"required check %s has a record from firmware revision %s, not this certificate's %s; rerun it at this revision",
          [name, stale.get "firmwareRevision", build.firmwareRevision]⟩]
    | none => [⟨"required check %s has a record that did not pass for this build", [name]⟩]
  else if accepted.length < required.records then
    [⟨"required check %s has %d of %d required records",
      [name, .int accepted.length, .int required.records]⟩]
  else if (observedUnits accepted).length < required.units then
    [⟨"required check %s ran on %d of %d required units",
      [name, .int (observedUnits accepted).length, .int required.units]⟩]
  else []

def recordsOf (entries : List PyJson) (name : Str) : List PyJson :=
  entries.filter fun entry => entry.isDict && (entry.get "check").equals (.str name)

def requiredProblems (entries : List PyJson) (build : Build) (required : PyJson) :
    Except Raised (List Problem) := do
  match ← readRequired required with
  | none => return [⟨"malformed required check: %r", [required]⟩]
  | some found =>
      let records := recordsOf entries found.check
      let accepted ← filterChecked (isAccepted tables build found.artifact) records
      return checkProblems build found records accepted

/-- `required_check_problems`. -/
def requiredCheckProblems (requiredChecks : PyJson) (entries : List PyJson) (build : Build) :
    Except Raised (List Problem) :=
  match requiredChecks.list? with
  | some (first :: rest) => collect (requiredProblems tables entries build) (first :: rest)
  | _ => .ok [⟨"qualification.requiredChecks must name at least one check", []⟩]

end AxolotyEmbedded.Release
