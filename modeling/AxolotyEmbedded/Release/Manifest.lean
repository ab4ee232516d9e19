import AxolotyEmbedded.Release.Evidence
import AxolotyEmbedded.Release.SizeReport

/-!
`validate` of the release manifest validator: the manifest against the profile, the source of
the transport, the lock, `VERSION`, the size report and the evidence. What lies below the
repository is a parameter, with the paths resolved.
-/
namespace AxolotyEmbedded.Release

open PythonText Checked

/-! ## The repository -/

/-- A JSON file: missing, unreadable or its value. -/
inductive JsonFile where
  | missing
  | unreadable
  | content (loaded : LoadedJson)

/-- `load`. -/
def JsonFile.load : JsonFile → Except Raised PyJson
  | .content loaded => .ok loaded.value
  | _ => .error .value

/-- What a relative path of `versionSource` names. -/
inductive SourceFile where
  | outside
  | missing
  | component (content : Option PyJson)
  | undecodable
  | dependencies (content : Option Str)

/-- What a relative path of a cited record names. -/
inductive EvidenceFile where
  | outside
  | missing
  | unreadable
  | record (content : PyJson)

structure Repository where
  manifest : JsonFile
  manifestPath : Str
  revocation : JsonFile
  profiles : Str → JsonFile
  isDirectory : String → Str → Bool
  transportSource : Str → Str → SourceFile
  lock : JsonFile
  version : Option (Option Str)
  evidence : EvidenceFiles
  evidenceAt : Str → EvidenceFile

variable (tables : PythonTables) (repo : Repository)

/-! ## Revocation -/

/-- `load_revocation`, of a certificate whose revocation record is named by its path. -/
def loadRevocation : Option PyJson × List Problem :=
  match repo.revocation with
  | .missing => (none, [])
  | .unreadable => (none, [⟨"revocation %s is invalid: %s", []⟩])
  | .content ⟨record, _⟩ =>
      if record.isDict then
        (some record,
          check ((record.get "schemaVersion").equals (.int 1))
              ⟨"revocation %s: schemaVersion must be 1", []⟩ ++
            check ((record.get "status").equals (.str "revoked".toList))
              ⟨"revocation %s: status must be revoked", []⟩ ++
            check ((record.get "manifestPath").equals (.str repo.manifestPath))
              ⟨"revocation %s: manifestPath must be %r", [.str repo.manifestPath]⟩ ++
            check (isNonemptyString (record.get "reason"))
              ⟨"revocation %s: reason is required", []⟩)
      else (none, [⟨"revocation %s must be a JSON object", []⟩])

/-! ## The profile -/

def manifestTransportName (manifest : PyJson) : PyJson := (manifest.get "transport").get "name"

/-- A field of the manifest against the profile's declaration. -/
def declaredProblems (name : Str) (field : String) (declared actual : PyJson)
    (differs : String) : List Problem :=
  if isNonemptyString declared then
    check (actual.equals declared) ⟨differs, [actual, declared]⟩
  else [⟨"Profiles/%s/profile.json does not declare " ++ field, [.str name]⟩]

def axisProblems (field axis : String) (value : PyJson) : List Problem :=
  match value with
  | .str text =>
      if isNonemptyString value then
        check (repo.isDirectory axis text) ⟨field ++ " %r does not exist under " ++ axis ++ "/", [value]⟩
      else []
  | _ => []

def profileProblems (manifest : PyJson) (name : Str) (profile : PyJson) : List Problem :=
  (["application", "platform", "board"].flatMap fun field =>
    declaredProblems name field (profile.get field) (manifest.get field)
      (field ++ " is %r but the profile declares %r")) ++
    declaredProblems name "transport" (profile.get "transport") (manifestTransportName manifest)
      "transport.name is %r but the profile declares %r" ++
    axisProblems repo "application" "Applications" (manifest.get "application") ++
    axisProblems repo "platform" "Platforms" (manifest.get "platform") ++
    axisProblems repo "transport" "Transports" (manifestTransportName manifest)

/-- The profile that the manifest names, and the problems of its identity. -/
def checkProfile (manifest : PyJson) : Except Raised (Option PyJson × List Problem) :=
  match manifest.get "profile" with
  | .str name =>
      if isNonemptyString (.str name) then
        match repo.profiles name with
        | .missing =>
            .ok (none, [⟨"profile %r has no Profiles/%s/profile.json", [.str name, .str name]⟩])
        | file => do
            let profile ← file.load
            refuseIf (profile.isDict = false) .attribute
            return (some profile, profileProblems repo manifest name profile)
      else .ok (none, [⟨"profile is required", []⟩])
  | _ => .ok (none, [⟨"profile is required", []⟩])

/-! ## The transport -/

/-- `^ {2}[^\s].*:\s*$` of the line of a component. -/
def opensComponent (component line : Str) : Bool :=
  [' ', ' '].isPrefixOf line && (line.drop 2).head?.any (fun c => !isSpace c) &&
    (strip line).getLast? == some ':' && 2 ≤ (strip line).length &&
    strip line == component ++ [':']

/-- `^ {2}[^\s]`. -/
def opensEntry (line : Str) : Bool :=
  [' ', ' '].isPrefixOf line && (line.drop 2).head?.any fun c => !isSpace c

/-- `^ {4}version:\s*'?([^'\s]+)'?\s*$`. -/
def versionOf (line : Str) : Option Str :=
  if "    version:".toList.isPrefixOf line then
    let rest := (line.drop 12).dropWhile isSpace
    let quoted := if rest.head? = some '\'' then rest.tail else rest
    let version := quoted.takeWhile fun c => c ≠ '\'' && !isSpace c
    let after := quoted.dropWhile fun c => c ≠ '\'' && !isSpace c
    let closed := if after.head? = some '\'' then after.tail else after
    if version ≠ [] ∧ closed.all isSpace = true then some version else none
  else none

/-- `espidf_component_version`. -/
def espidfComponentVersion (text component : Str) : Option Str :=
  match (splitLines text).dropWhile fun line => !opensComponent component line with
  | [] => none
  | _ :: entry => (entry.takeWhile fun line => !opensEntry line).findSome? versionOf

/-- The identity of a backend that a JSON lock pins. -/
def componentProblems (transport source : PyJson) : List Problem :=
  (if isNonemptyString (source.get "component") then
      check ((transport.get "backend").equals (source.get "component"))
        ⟨"transport.backend %r does not match %s component %r",
          [transport.get "backend", source.get "component"]⟩
    else []) ++
    (if isNonemptyString (source.get "version") then
      check ((transport.get "version").equals (source.get "version"))
        ⟨"transport.version %r does not match %s version %r",
          [transport.get "version", source.get "version"]⟩
    else [⟨"%s does not declare a version", []⟩]) ++
    if (source.get "revision").isNone then
      check (transport.get "revision").isNone
        ⟨"transport.revision is %r but %s pins no revision", [transport.get "revision"]⟩
    else
      check ((transport.get "revision").equals (source.get "revision"))
        ⟨"transport.revision %r does not match %s revision %r",
          [transport.get "revision", source.get "revision"]⟩

/-- `ESPIDF_BACKENDS.get(name)`. -/
def espidfBackend (name : PyJson) : Except Raised (Option Str) := do
  refuseIf (name.hashable = false) .type
  return if name.equals (.str "mqtt-espidf".toList) then some "esp-idf/mqtt".toList else none

def dependencyProblems (transport : PyJson) (component : Str) (text : Option Str) :
    Except Raised (List Problem) := do
  let backend ← espidfBackend (transport.get "name")
  let identity := match backend with
    | none => [⟨"transport.name %r has no ESP-IDF backend identity", [transport.get "name"]⟩]
    | some expected => check ((transport.get "backend").equals (.str expected))
        ⟨"transport.backend %r does not match the ESP-IDF backend %r for transport %r",
          [transport.get "backend", .str expected, transport.get "name"]⟩
  match text with
  | none => return [⟨"%s is not readable: %s", []⟩]
  | some text =>
      return identity ++
        (match espidfComponentVersion text component with
          | none => [⟨"transport.component %r is not a component of %s", [.str component]⟩]
          | some version => check ((transport.get "version").equals (.str version))
              ⟨"transport.version %r does not match %s component %r version %r",
                [transport.get "version", .str component, .str version]⟩) ++
        check (transport.get "revision").isNone
          ⟨"transport.revision must be null for an ESP-IDF dependency manifest", []⟩

/-- `validate_transport_source`, of a file that is there. -/
def validateTransportSource (transport : PyJson) (source : SourceFile) :
    Except Raised (List Problem) :=
  match source with
  | .component none => .ok [⟨"%s is not readable JSON: %s", []⟩]
  | .component (some source) =>
      if source.isDict then .ok (componentProblems transport source)
      else .ok [⟨"%s must be a JSON object", []⟩]
  | .undecodable | .dependencies _ =>
      match transport.get "component" with
      | .str component =>
          if isNonemptyString (.str component) then
            match source with
            | .dependencies text => dependencyProblems transport component text
            | _ => do
                let _ ← espidfBackend (transport.get "name")
                .error .value
          else .ok [⟨"transport.component is required when the backend version comes from an ESP-IDF dependency manifest", []⟩]
      | _ => .ok [⟨"transport.component is required when the backend version comes from an ESP-IDF dependency manifest", []⟩]
  | .outside | .missing => .ok []

/-- `os.path.isabs(path) or ".." in path.split("/")`. -/
def leavesRepository (path : Str) : Bool :=
  path.head? = some '/' || (split '/' path).any fun part => part == "..".toList

def sourceProblems (manifest transport : PyJson) : Except Raised (List Problem) :=
  match transport.get "versionSource" with
  | .str path =>
      if isNonemptyString (.str path) then
        if leavesRepository path then
          .ok [⟨"transport.versionSource must be a repository-relative path", []⟩]
        else
          let source := match manifest.get "platform" with
            | .str platform =>
                if isNonemptyString (.str platform) then repo.transportSource platform path
                else .outside
            | _ => .outside
          match source with
          | .outside => .ok [⟨"transport.versionSource %r is outside Platforms/%s",
              [.str path, manifest.get "platform"]⟩]
          | .missing => .ok [⟨"transport.versionSource %r does not exist", [.str path]⟩]
          | source => validateTransportSource transport source
      else .ok []
  | _ => .ok []

def isRevision (value : PyJson) : Bool := isHexText 40 (tables.str value)

/-- The fields of the transport, and the source that it cites. -/
def checkTransport (manifest : PyJson) : Except Raised (List Problem) := do
  let transport := dictOrEmpty (manifest.get "transport")
  let source ← sourceProblems repo manifest transport
  return check (manifest.get "transport").isDict ⟨"transport must be an object", []⟩ ++
    (["name", "backend", "version", "versionSource"].flatMap fun field =>
      check (isNonemptyString (transport.get field)) ⟨"transport." ++ field ++ " is required", []⟩) ++
    (if (transport.get? "component").isNone then
      [⟨"transport.component is required; it names the pinned entry that supplies the backend", []⟩]
    else check ((transport.get "component").isNone || isNonemptyString (transport.get "component"))
      ⟨"transport.component must be a non-empty string or null", []⟩) ++
    (if (transport.get? "revision").isNone then
      [⟨"transport.revision is required; it is the pinned backend commit or null", []⟩]
    else check ((transport.get "revision").isNone || isRevision tables (transport.get "revision"))
      ⟨"transport.revision must be null or a full commit SHA", []⟩) ++
    source

/-! ## The Core revision -/

/-- `lock_core`. -/
def lockCore : Except Raised PyJson :=
  match repo.lock with
  | .missing => .ok (.dict [])
  | file => do
      let lock ← file.load
      return dictOrEmpty (← getField lock "core")

def checkAxoloty (mode axoloty lockCore : PyJson) : List Problem :=
  let sha := tables.strOf axoloty "sha"
  check (isHexText 40 sha)
      ⟨"axoloty.sha must be a full 40-character commit SHA, found %r", [axoloty.get "sha"]⟩ ++
    check (axoloty.get "dirty").isFalse
      ⟨"axoloty.dirty must be false; a release is built from a clean Core checkout", []⟩ ++
    check (isNonemptyString (axoloty.get "contractSha256") &&
        isHexText 64 (tables.strOf axoloty "contractSha256"))
      ⟨"axoloty.contractSha256 must be a SHA-256", []⟩ ++
    if mode.equals (.str "release".toList) then
      check ((lockCore.get "revision").equals (.str sha))
          ⟨"axoloty.sha does not match the lock revision", []⟩ ++
        check ((axoloty.get "version").equals (lockCore.get "version"))
          ⟨"axoloty.version does not match the lock version", []⟩ ++
        check ((axoloty.get "tag").equals (lockCore.get "tag"))
          ⟨"axoloty.tag does not match the lock tag", []⟩ ++
        check (isNonemptyString (axoloty.get "tag"))
          ⟨"axoloty.tag is required; a release certificate must name a tagged Core revision", []⟩
    else if mode.equals (.str "preview".toList) then
      check (!(lockCore.get "revision").equals (.str sha))
          ⟨"a preview manifest must build an off-lock Axoloty revision", []⟩ ++
        check ((axoloty.get "version").isNone && (axoloty.get "tag").isNone)
          ⟨"a preview manifest must not assert an Axoloty version or tag", []⟩
    else []

/-! ## The embedded version -/

/-- `\d+` parts between dots, three of them. -/
def isBaseVersion (text : Str) : Bool :=
  (split '.' text).length == 3 &&
    (split '.' text).all fun part => !part.isEmpty && part.all tables.isDigit

/-- `[1-9]\d*`. -/
def isCycle (text : Str) : Bool :=
  match text with
  | [] => false
  | first :: rest => '1' ≤ first && first ≤ '9' && rest.all tables.isDigit

/-- `VERSION.fullmatch(text)`: the base of the version. -/
def versionBase (text : Str) : Option Str :=
  let base := text.takeWhile fun c => c ≠ '-'
  let rest := text.dropWhile fun c => c ≠ '-'
  if isBaseVersion tables base ∧ "-embedded.".toList.isPrefixOf rest = true ∧
      isCycle tables (rest.drop "-embedded.".length) = true then some base
  else none

/-- The text of `VERSION`, which may be missing or no UTF-8. -/
def readVersion : Except Raised (Option Str) :=
  match repo.version with
  | none => .ok none
  | some none => .error .value
  | some (some text) => .ok (some text)

def checkEmbedded (version : Option Str) (mode embedded lockCore : PyJson) : List Problem :=
  (match version with
    | none => [⟨"VERSION is missing", []⟩]
    | some text =>
        let version := strip text
        check ((embedded.get "version").equals (.str version))
            ⟨"embedded.version %r does not match VERSION %r", [embedded.get "version", .str version]⟩ ++
          match versionBase tables version with
          | none => [⟨"VERSION is not <base>-embedded.<revision>: %r", [.str version]⟩]
          | some base =>
              check (mode.equals (.str "preview".toList) ||
                  (lockCore.get "version").equals (.str base))
                ⟨"VERSION base %s does not match the lock version %s", [.str base, lockCore.get "version"]⟩) ++
    check (isHexText 40 (tables.strOf embedded "sha"))
      ⟨"embedded.sha must be a full 40-character commit SHA", []⟩ ++
    check (embedded.get "dirty").isFalse
      ⟨"embedded.dirty must be false; a release is built from a clean firmware checkout", []⟩

/-! ## The image -/

/-- `os.path.basename(path) == path`. -/
def isFileName (path : PyJson) : Bool := isNonemptyString path && path.text?.any fun text => '/' ∉ text

def isPositiveInteger (value : PyJson) : Bool := (PyJson.int? value).any fun value => 0 < value

def checkImage (manifest : PyJson) : List Problem :=
  let toolchain := dictOrEmpty (manifest.get "toolchain")
  let image := dictOrEmpty (manifest.get "image")
  check (manifest.get "toolchain").isDict ⟨"toolchain must be an object", []⟩ ++
    (["swift", "sdk", "target"].flatMap fun field =>
      check (isNonemptyString (toolchain.get field))
        ⟨"toolchain." ++ field ++ " is required; the build observed it", []⟩) ++
    check (isHexText 64 (tables.strOf manifest "configurationFingerprint"))
      ⟨"configurationFingerprint must be a SHA-256", []⟩ ++
    check (manifest.get "image").isDict ⟨"image must be an object", []⟩ ++
    check (isFileName (image.get "path"))
      ⟨"image.path must be a file name, not a machine path", []⟩ ++
    check (isHexText 64 (tables.strOf image "sha256")) ⟨"image.sha256 must be a SHA-256", []⟩ ++
    check (isPositiveInteger (image.get "byteCount"))
      ⟨"image.byteCount must be a positive integer", []⟩

/-- `"%s/%s" % (profile_name, version)`. -/
def releaseKey (manifest embedded : PyJson) : Str :=
  tables.str (manifest.get "profile") ++ '/' :: tables.str (embedded.get "version")

def sizeReportGrandfathered : List String :=
  ["esp32c6-mqtt/0.8.2-embedded.2", "esp32c6-mqtt/0.10.0-embedded.2",
    "esp32c6-zenoh/0.10.0-embedded.1", "esp32c6-zenoh/0.10.0-embedded.2"]

def checkResources (manifest embedded : PyJson) (profile : Option PyJson) : List Problem :=
  let resources := manifest.get "resources"
  if resources.isNone then
    check (!((profile.any fun profile => ((profile.get "budgets").get? "build").isSome) &&
        !sizeReportGrandfathered.any fun key => key.toList == releaseKey tables manifest embedded))
      ⟨"resources is null but profile %s declares budgets.build; a release must carry a size report",
        [manifest.get "profile"]⟩
  else if hasExactly resources ["available", "report"] && (resources.get "available").isTrue then
    validateSizeReport (resources.get "report") manifest profile
  else [⟨"resources must be null or \x7bavailable: true, report: \x7b...\x7d\x7d", []⟩]

/-! ## The qualification -/

/-- `FIRMWARE_REVISION_GRANDFATHERED`. -/
def firmwareRevisionGrandfathered : List (String × String) :=
  [("esp32c6-mqtt/0.10.0-embedded.2", "0b4bc08406f25b1a4cb61423cc955a2690c54a1c"),
    ("esp32c6-zenoh/0.10.0-embedded.2", "e6543e140b226001765c925de4e566c3e29cb5e0")]

/-- `FIRMWARE_REVISION_GRANDFATHERED.get(release_key) == embedded.get("sha")`. -/
def isGrandfathered (manifest embedded : PyJson) : Bool :=
  let pinned := match firmwareRevisionGrandfathered.find? fun entry =>
      entry.1.toList == releaseKey tables manifest embedded with
    | some entry => PyJson.str entry.2.toList
    | none => .none
  pinned.equals (embedded.get "sha")

/-- One entry of the evidence: its problems, and whether it certifies this build. -/
def citedEntry (axolotySha imageSha : Str) (entry : PyJson) :
    Except Raised (List (Problem ⊕ Unit)) :=
  match entry.get "path" with
  | .str path =>
      if isNonemptyString (.str path) then
        match repo.evidenceAt path with
        | .outside => .ok [.inl ⟨"evidence path %r is outside docs/evidence", [.str path]⟩]
        | .missing => .ok [.inl ⟨"evidence path %r does not exist", [.str path]⟩]
        | .unreadable => .error .value
        | .record record => do
            let problems ← validateEvidence tables record path
            if (entry.get "status").equals (.str "passed".toList) &&
                (entry.get "coreRevision").equals (.str axolotySha) &&
                (entry.get "firmwareSHA256").equals (.str imageSha) then do
              let device ← inSet (record.get "tier") deviceTiers
              return problems.map Sum.inl ++ if device then [.inr ()] else []
            else return problems.map Sum.inl
      else .ok [.inl ⟨"each qualification.evidence entry must name a path", []⟩]
  | _ => .ok [.inl ⟨"each qualification.evidence entry must name a path", []⟩]

/-- The required checks that the profile declares. -/
def declaredChecks (profile : Option PyJson) : Except Raised PyJson :=
  match profile with
  | none => .ok .none
  | some profile =>
      if (profile.get "qualification").truth then getField (profile.get "qualification") "requiredChecks"
      else .ok .none

/-- `manifest.get("schemaVersion") == 2`. -/
def isSchema2 (manifest : PyJson) : Bool := (manifest.get "schemaVersion").equals (.int 2)

/-- The records of the profile that the manifest names. -/
def discovered (manifest : PyJson) : Except Raised (List PyJson) :=
  match manifest.get "profile" with
  | .str name =>
      if isNonemptyString (.str name) then discoverEvidence repo.evidence name else .ok []
  | _ => .ok []

/-- The required checks, which schema 1 does not have. -/
def schemaProblems (manifest : PyJson) (entries : List PyJson) (build : Build) :
    Except Raised (List Problem) :=
  if isSchema2 manifest then
    requiredCheckProblems tables ((manifest.get "qualification").get "requiredChecks") entries build
  else .ok []

/-- The required checks of the manifest against those of the profile. -/
def declaredCheckProblems (manifest declared : PyJson) : List Problem :=
  if declared.isNone then []
  else if isSchema2 manifest then
    check (((manifest.get "qualification").get "requiredChecks").equals declared)
      ⟨"qualification.requiredChecks does not match the profile", []⟩
  else [⟨"a qualified manifest of a profile with required checks must be schema 2", []⟩]

/-- What a qualified manifest is held against. -/
def qualifiedProblems (manifest embedded : PyJson) (profile : Option PyJson)
    (entries : List PyJson) (axolotySha imageSha : Str) : Except Raised (List Problem) := do
  let grandfathered := isGrandfathered tables manifest embedded
  let declared ← declaredChecks profile
  let records ← discovered repo manifest
  let cited ← citedEvidenceProblems entries records
    ((manifest.get "qualification").get "requiredChecks") (!grandfathered)
  let required ← schemaProblems tables manifest records
    ⟨axolotySha, imageSha, if grandfathered then .none else embedded.get "sha"⟩
  return declaredCheckProblems manifest declared ++ cited ++ required

def isQualified (manifest : PyJson) : Bool :=
  ((manifest.get "qualification").get "status").equals (.str "qualified".toList)

/-- The message reads the reason of the record, which may be missing. -/
def revokedProblems (allowRevoked : Bool) : Option PyJson → Except Raised (List Problem)
  | none => .ok []
  | some record =>
      if allowRevoked then .ok []
      else
        match record.get? "reason" with
        | none => .error .key
        | some reason => .ok [⟨"this release certificate is revoked: %s", [reason]⟩]

def checkQualification (requireQualified allowRevoked : Bool) (revocation : Option PyJson)
    (manifest axoloty embedded image : PyJson) (profile : Option PyJson) :
    Except Raised (List Problem) := do
  let qualification := dictOrEmpty (manifest.get "qualification")
  let status := qualification.get "status"
  let known ← inSet status (texts ["qualified", "unqualified"])
  let entries := (qualification.get "evidence").list?.getD []
  let axolotySha := tables.strOf axoloty "sha"
  let imageSha := tables.strOf image "sha256"
  let cited ← collect (citedEntry tables repo axolotySha imageSha) entries
  let qualified ← if isQualified manifest then
      qualifiedProblems tables repo manifest embedded profile entries axolotySha imageSha
    else .ok []
  let revoked ← revokedProblems allowRevoked revocation
  return check (manifest.get "qualification").isDict ⟨"qualification must be an object", []⟩ ++
    check known ⟨"qualification.status must be qualified or unqualified", []⟩ ++
    check (qualification.get "evidence").list?.isSome ⟨"qualification.evidence must be a list", []⟩ ++
    cited.filterMap Sum.getLeft? ++
    check (!(isQualified manifest && (cited.filterMap Sum.getRight?).isEmpty))
      ⟨"a qualified manifest needs a passed evidence record for this Core revision and image checksum", []⟩ ++
    qualified ++
    check (!requireQualified || isQualified manifest)
      ⟨"this manifest is not qualified; a published release must be", []⟩ ++
    revoked

/-! ## The whole manifest -/

def checkCompatibility (mode status compatibility : PyJson) : List Problem :=
  let expected := if mode.equals (.str "preview".toList) then .str "preview".toList else status
  check compatibility.isDict ⟨"compatibility must be an object", []⟩ ++
    check ((compatibility.get "scope").equals (.str "profile".toList))
      ⟨"compatibility.scope must be profile; compatibility is per profile", []⟩ ++
    check ((compatibility.get "status").equals expected)
      ⟨"compatibility.status must be %r, found %r", [expected, compatibility.get "status"]⟩ ++
    check (isNonemptyString (compatibility.get "description"))
      ⟨"compatibility.description is required", []⟩

/-- The checks of a manifest that is an object. -/
def checkManifest (requireQualified allowRevoked : Bool) (revocation : Option PyJson)
    (manifest : PyJson) : Except Raised (List Problem) := do
  let schema ← inSet (manifest.get "schemaVersion") [.int 1, .int 2]
  let mode := manifest.get "mode"
  let modeKnown ← inSet mode (texts ["release", "preview"])
  let (profile, identity) ← checkProfile repo manifest
  let transport ← checkTransport tables repo manifest
  let axoloty := dictOrEmpty (manifest.get "axoloty")
  let core ← lockCore repo
  let version ← readVersion repo
  let embedded := dictOrEmpty (manifest.get "embedded")
  let image := dictOrEmpty (manifest.get "image")
  let qualification ← checkQualification tables repo requireQualified allowRevoked revocation
    manifest axoloty embedded image profile
  return check schema ⟨"schemaVersion must be 1 or 2, found %r", [manifest.get "schemaVersion"]⟩ ++
    check modeKnown ⟨"mode must be release or preview, found %r", [mode]⟩ ++
    identity ++
    check (isNonemptyString (manifest.get "board"))
      ⟨"board is required; a release names the qualified board", []⟩ ++
    transport ++
    check (manifest.get "axoloty").isDict ⟨"axoloty must be an object", []⟩ ++
    checkAxoloty tables mode axoloty core ++
    check (manifest.get "embedded").isDict ⟨"embedded must be an object", []⟩ ++
    checkEmbedded tables version mode embedded core ++
    checkImage tables manifest ++
    checkResources tables manifest embedded profile ++
    qualification ++
    checkCompatibility mode ((manifest.get "qualification").get "status")
      (manifest.get "compatibility")

/-- `validate`: the problems, and the revocation record of the certificate. -/
def validate (requireQualified allowRevoked : Bool) :
    Except Raised (List Problem × Option PyJson) := do
  let manifest ← repo.manifest.load
  let (revocation, problems) := loadRevocation repo
  if allowRevoked && revocation.isSome then return (problems, revocation)
  else if manifest.isDict then
    return (problems ++ (← checkManifest tables repo requireQualified allowRevoked revocation manifest),
      revocation)
  else return ([⟨"manifest must be a JSON object, found %s", []⟩], revocation)

/-- `main`: the exit status, and the exception that leaves it. -/
def main (requireQualified allowRevoked : Bool) : Except Raised Nat :=
  match validate tables repo requireQualified allowRevoked with
  | .error .value => .ok 1
  | .error raised => .error raised
  | .ok (_ :: _, _) => .ok 1
  | .ok ([], revocation) => do
      let _ ← getField (← repo.manifest.load) "mode"
      match revocation with
      | none => return 0
      | some record =>
          match record.get? "reason" with
          | none => .error .key
          | some _ => return 0

end AxolotyEmbedded.Release
