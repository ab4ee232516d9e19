import AxolotyEmbedded.Release.Values

/-!
`validate_size_report`: the size report of a release is checked field by field and bound to the
manifest that carries it and to the budgets of the profile.
-/
namespace AxolotyEmbedded.Release

open PythonText

def sizeMetrics : List String :=
  ["imageBytes", "flashTextBytes", "flashRodataBytes", "iramTextBytes", "initializedDataBytes",
    "dramBssBytes", "staticRamBytes"]

def budgetMetrics : List String := ["imageBytes", "flashTextBytes", "staticRamBytes", "dramBssBytes"]

def runtimeMetrics : List String := ["minimumFreeHeapBytes", "stackRemainingBytes"]

def maxSafeInteger : Int := 9007199254740991

/-- `safe_integer`. -/
def safeInteger (minimum : Int) (value : PyJson) : Bool :=
  (PyJson.int? value).any fun value => minimum ≤ value && value ≤ maxSafeInteger

/-- The values of a dictionary. -/
def valuesOf : PyJson → List PyJson
  | .dict entries => entries.map Prod.snd
  | _ => []

/-- `bool(HEX64.fullmatch(value))` of a text. -/
def isHexString (width : Nat) (value : PyJson) : Bool := value.text?.any (isHexText width)

def cOnlyReason : PyJson := .str "configured C-only carrier qualification image".toList

def networkVariantReason : PyJson :=
  .str "network-configured variant of an image whose budgets exclude the network stack".toList

def reportProblem (message : String) : Problem := ⟨"resources.report." ++ message, []⟩

section Report

variable (report manifest : PyJson) (profile : Option PyJson)

/-- `profile.get(name, default) if isinstance(profile, dict) else other`. -/
def profileField (name : String) (missing other : PyJson) : PyJson :=
  match profile with
  | some profile => if profile.isDict then (profile.get? name).getD missing else other
  | none => other

def validConfiguration (configuration : PyJson) : Bool :=
  (hasExactly configuration ["name", "sdkconfigSha256", "networkConfigured"] ||
      hasExactly configuration ["name", "sdkconfigSha256", "networkConfigured", "networkPlaceholder"]) &&
    isNonemptyString (configuration.get "name") &&
    (configuration.get "name").equals (profileField profile "configuration" (.str "default".toList) .none) &&
    isHexString 64 (configuration.get "sdkconfigSha256") &&
    (configuration.get "networkConfigured").isBool &&
    ((configuration.get? "networkPlaceholder").isNone ||
      (configuration.get "networkPlaceholder").isTrue && (configuration.get "networkConfigured").isTrue)

/-- The fields of the report that repeat the manifest's. -/
def identityProblems : List Problem :=
  [("profile", manifest.get "profile"), ("application", manifest.get "application"),
    ("platform", manifest.get "platform"), ("transport", (manifest.get "transport").get "name"),
    ("coreRevision", (manifest.get "axoloty").get "sha")].flatMap fun field =>
      check (isNonemptyString field.2 && (report.get field.1).equals field.2)
        (reportProblem (field.1 ++ " does not match manifest"))

def validMetrics (metrics : PyJson) : Bool :=
  hasExactly metrics sizeMetrics && (valuesOf metrics).all (safeInteger 0)

def staticRamMatches (metrics : PyJson) : Bool :=
  match PyJson.int? (metrics.get "iramTextBytes"), PyJson.int? (metrics.get "initializedDataBytes"),
      PyJson.int? (metrics.get "dramBssBytes") with
  | some iram, some data, some bss =>
      safeInteger 0 (.int (iram + data + bss)) &&
        (metrics.get "staticRamBytes").equals (.int (iram + data + bss))
  | _, _, _ => false

def validImage (image : PyJson) : Bool :=
  hasExactly image ["bytes", "sha256", "appPartitionBytes", "partitionHeadroomBytes"] &&
    safeInteger 1 (image.get "bytes") && safeInteger 1 (image.get "appPartitionBytes") &&
    match PyJson.int? (image.get "bytes"), PyJson.int? (image.get "appPartitionBytes"),
        PyJson.int? (image.get "partitionHeadroomBytes") with
    | some bytes, some partition, some headroom =>
        headroom.natAbs ≤ maxSafeInteger && headroom = partition - bytes &&
          isHexString 64 (image.get "sha256")
    | _, _, _ => false

def imageProblems (metrics image : PyJson) : List Problem :=
  check (validImage image) (reportProblem "image is invalid") ++
    if validImage image then
      check ((image.get "bytes").equals ((manifest.get "image").get "byteCount") &&
          (image.get "sha256").equals ((manifest.get "image").get "sha256"))
          (reportProblem "image does not match manifest image") ++
        if validMetrics metrics then
          check ((metrics.get "imageBytes").equals (image.get "bytes"))
            (reportProblem "image metric does not match image bytes")
        else []
    else []

/-- `declared`: the budgets of the profile. -/
def declaredBudgets : PyJson := profileField profile "budgets" (.dict []) (.dict [])

def declaredBuild : PyJson := (declaredBudgets profile).get "build"

/-- Budgets by the names of metrics. -/
def validBudgets (names : List String) (budgets : PyJson) : Bool :=
  budgets.isDict && budgets.truth && hasOnly budgets names && (valuesOf budgets).all (safeInteger 1)

def profileBudgetProblems : List Problem :=
  let declared := declaredBudgets profile
  (if (profile.bind fun profile => profile.get? "budgets").isSome then
      check (hasOnly declared ["basis", "build", "runtime", "networkStack"] &&
          ((declared.get? "basis").isNone || isNonemptyString (declared.get "basis")) &&
          ((declared.get? "networkStack").isNone || (declared.get "networkStack").isBool))
        (reportProblem "profile budgets are invalid")
    else []) ++
    (if (declared.get? "runtime").isSome then
      check (validBudgets runtimeMetrics (declared.get "runtime"))
        (reportProblem "profile runtime budgets are invalid")
    else []) ++
    if (declared.get? "build").isSome then
      check (validBudgets budgetMetrics (declared.get "build"))
        (reportProblem "profile build budgets are invalid")
    else []

/-- The verdict on one metric. -/
def verdict (metrics build : PyJson) (name : String) : Option (PyJson × Bool) :=
  match PyJson.int? (metrics.get name), PyJson.int? (build.get name) with
  | some measured, some budget =>
      some (.dict [("metric".toList, .str name.toList), ("measured".toList, .int measured),
        ("budget".toList, .int budget), ("headroomBytes".toList, .int (budget - measured)),
        ("passed".toList, .bool (measured ≤ budget))], measured ≤ budget)
  | _, _ => none

/-- `expected`. -/
def verdicts (metrics build : PyJson) : List (PyJson × Bool) :=
  (budgetMetrics.filter fun name => (build.get? name).isSome).filterMap (verdict metrics build)

/-- The budgets and the verdicts of a report that was held against budgets. -/
def enforcedProblems (metrics enforcement status : PyJson) : List Problem :=
  let budgets := report.get "budgets"
  let build := budgets.get "build"
  let valid := hasExactly budgets ["basis", "build"] && validBudgets budgetMetrics build
  check valid (reportProblem "budgets are invalid") ++
    if valid then
      check (build.equals (declaredBuild profile) &&
          (budgets.get "basis").equals ((declaredBudgets profile).get "basis"))
          (reportProblem "budgets do not match profile") ++
        check (hasExactly enforcement ["status", "results"] &&
          (enforcement.get "results").list?.isSome && validMetrics metrics &&
          (enforcement.get "results").dumpsSame (.list ((verdicts metrics build).map Prod.fst)) &&
          ((verdicts metrics build).all Prod.snd == status.equals (.str "passed".toList)))
          (reportProblem "verdicts are inconsistent")
    else []

/-- `unqualified`. -/
def isUnqualified : Bool :=
  ((manifest.get "qualification").get "status").equals (.str "unqualified".toList)

/-- The profile requires the C-only scenario of a variant. -/
def requiresScenario (profile : PyJson) : Bool :=
  match ((profile.get "qualification").get "requiredChecks").list? with
  | none => false
  | some requirements => requirements.any fun requirement =>
      (requirement.get "check").equals (.str "c-only-carrier-scenario".toList) &&
        (requirement.get "artifact").equals (.str "variant".toList)

/-- The conditions of the two reasons of `not-applicable`. -/
def notApplicableProblems (reason configuration : PyJson) : List Problem :=
  if reason.equals cOnlyReason then
    check (isUnqualified manifest &&
        (profile.any fun profile => (profile.get "transport").equals (.str "zenoh-pico".toList) &&
          requiresScenario profile))
      (reportProblem "C-only report requires the unqualified Zenoh qualification variant")
  else if reason.equals networkVariantReason then
    check (isUnqualified manifest && ((declaredBudgets profile).get "networkStack").isFalse &&
        (declaredBuild profile).isDict && (configuration.get "networkConfigured").isTrue)
      (reportProblem "network variant report requires an unqualified manifest, a profile whose budgets declare networkStack false, and a network-configured image")
  else []

/-- A report that was not held against budgets. -/
def unenforcedProblems (configuration enforcement status : PyJson) : List Problem :=
  let applicable := !status.equals (.str "not-applicable".toList)
  let reason := if applicable then .str "the profile declares no build budgets".toList
    else enforcement.get "reason"
  (if applicable then []
    else check (reason.equals cOnlyReason || reason.equals networkVariantReason)
      (reportProblem "not-applicable reason is not recognized")) ++
    check ((report.get "budgets").isNone &&
        enforcement.equals (.dict [("status".toList, status), ("reason".toList, reason)]))
      (reportProblem "enforcement is inconsistent") ++
    (if applicable then
      check (declaredBuild profile).isNone
        (reportProblem "not-configured contradicts profile budgets")
    else notApplicableProblems manifest profile reason configuration)

def enforcementProblems (metrics configuration enforcement : PyJson) : List Problem :=
  let status := enforcement.get "status"
  check (status.isIn ["passed", "not-applicable", "not-configured"])
      (reportProblem "enforcement status is invalid") ++
    profileBudgetProblems profile ++
    if status.isIn ["passed", "failed"] then
      enforcedProblems report profile metrics enforcement status
    else if status.isIn ["not-applicable", "not-configured"] then
      unenforcedProblems report manifest profile configuration enforcement status
    else []

/-- `validate_size_report`. -/
def validateSizeReport : List Problem :=
  if report.isDict then
    let configuration := report.get "configuration"
    let metrics := report.get "metrics"
    let enforcement := report.get "enforcement"
    let fields := check (hasExactly report ["schemaVersion", "kind", "profile", "application",
          "platform", "transport", "coreRevision", "configuration", "metrics", "image", "budgets",
          "enforcement"]) (reportProblem "has invalid fields") ++
      check (validConfiguration profile configuration)
        (reportProblem "configuration is invalid or does not match profile") ++
      check ((report.get "schemaVersion").int? == some 1 &&
          (report.get "kind").equals (.str "build-size".toList))
        (reportProblem "has invalid schema or kind") ++
      identityProblems report manifest ++
      check (validMetrics metrics) (reportProblem "metrics are invalid") ++
      (if validMetrics metrics then
        check (staticRamMatches metrics) (reportProblem "static RAM does not match components")
      else []) ++
      imageProblems manifest metrics (report.get "image")
    if enforcement.isDict then
      fields ++ enforcementProblems report manifest profile metrics configuration enforcement
    else fields ++ [⟨"resources.report.enforcement must be an object", []⟩]
  else [⟨"resources.report must be an object", []⟩]

end Report

end AxolotyEmbedded.Release
