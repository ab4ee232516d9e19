import AxolotyEmbedded.Release.Manifest
import AxolotyEmbedded.Release.RequiredChecks

/-!
What a certificate says: where `validate` finds no problem in a qualified manifest that is not
revoked, the records below `docs/evidence` satisfy every check that the profile requires, for
the Core revision, the image and the firmware revision that the manifest names, and the
manifest cites them as they are.
-/
namespace AxolotyEmbedded.Release

open PythonText Checked

variable {tables : PythonTables} {repo : Repository} {requireQualified allowRevoked : Bool}
  {manifest profile entry : PyJson} {entries : List PyJson} {file : Str × PyJson} {name : Str}

/-! ## Entries of records -/

theorem get_entryOf_path : (entryOf file).get "path" = .str ("docs/evidence/".toList ++ file.1) := rfl

theorem get_entryOf_check : (entryOf file).get "check" = file.2.get "check" := rfl

theorem get_entryOf_status : (entryOf file).get "status" = file.2.get "status" := rfl

theorem get_entryOf_executed (executed : isExecuted file.2 = true) :
    (entryOf file).get "coreRevision" = file.2.get "coreRevision" ∧
      (entryOf file).get "firmwareSHA256" = file.2.get "firmwareSHA256" ∧
      (entryOf file).get "firmwareRevision" = file.2.get "firmwareRevision" ∧
      (entryOf file).get "device" = file.2.get "device" := by
  unfold entryOf
  rw [if_pos executed]
  exact ⟨rfl, rfl, rfl, rfl⟩

/-- The records of a profile that are of a check. -/
def checkRecords (files : EvidenceFiles) (profileName check : Str) : List PyJson :=
  ((profileRecords files profileName).filter fun file =>
    (file.2.get "check").equals (.str check)).map Prod.snd

theorem recordsOf_map_entryOf (files : List (Str × PyJson)) (check : Str) :
    recordsOf (files.map entryOf) check =
      (files.filter fun file => (file.2.get "check").equals (.str check)).map entryOf := by
  unfold recordsOf
  rw [List.filter_map]
  rfl

theorem isExecuted_of_passed (passed : file.2.get "status" = .str "passed".toList) :
    isExecuted file.2 = true := by
  unfold isExecuted
  rw [passed]
  rfl

/-- What an entry of a record shows, the record shows. -/
theorem passedOn_record {build : Build} {artifact : Artifact}
    (passed : PassedOn tables build artifact (entryOf file)) :
    PassedOn tables build artifact file.2 := by
  have status : file.2.get "status" = .str "passed".toList := passed.status
  obtain ⟨core, image, revision, _⟩ := get_entryOf_executed (isExecuted_of_passed status)
  refine ⟨passed.tier, status, core ▸ passed.coreRevision, ?_⟩
  have shown := passed.artifact
  cases artifact with
  | release => exact image ▸ shown
  | variant =>
      obtain ⟨hex, same⟩ := shown
      refine ⟨?_, revision ▸ same⟩
      have entered : (entryOf file).get? "firmwareSHA256" =
          some (file.2.get "firmwareSHA256") := by
        unfold entryOf
        rw [if_pos (isExecuted_of_passed status)]
        rfl
      unfold PythonTables.strOf at hex ⊢
      rw [entered] at hex
      cases held : file.2.get? "firmwareSHA256" with
      | none =>
          have absent : file.2.get "firmwareSHA256" = .none := by
            rw [PyJson.get, held]
            rfl
          simp [absent, PythonTables.str, isHexText] at hex
      | some value =>
          have present : file.2.get "firmwareSHA256" = value := by
            rw [PyJson.get, held]
            rfl
          rwa [present] at hex

theorem observedUnits_map_entryOf {files : List (Str × PyJson)}
    (executed : ∀ file ∈ files, isExecuted file.2 = true) :
    observedUnits (files.map entryOf) = observedUnits (files.map Prod.snd) := by
  have device : ∀ file ∈ files, (entryOf file).get "device" = file.2.get "device" :=
    fun file member => (get_entryOf_executed (executed file member)).2.2.2
  unfold observedUnits
  congr 1
  rw [List.filter_map, List.filter_map, List.filterMap_map, List.filterMap_map]
  have same : files.filter ((fun entry => isNonemptyString (entry.get "device")) ∘ entryOf) =
      files.filter ((fun entry => isNonemptyString (entry.get "device")) ∘ Prod.snd) := by
    apply List.filter_congr
    intro file member
    simp only [Function.comp, device file member]
  rw [same]
  apply List.filterMap_congr
  intro file member
  simp only [Function.comp, device file (List.mem_of_mem_filter member)]

/-- Entries that satisfy a check are entries of records that do. -/
theorem satisfiedBy_records {build : Build} {found : RequiredCheck} {files : EvidenceFiles}
    (satisfied : SatisfiedBy tables build found
      (recordsOf ((profileRecords files name).map entryOf) found.check)) :
    SatisfiedBy tables build found (checkRecords files name found.check) := by
  rw [recordsOf_map_entryOf] at satisfied
  have passed : ∀ file ∈ (profileRecords files name).filter (fun file =>
      (file.2.get "check").equals (.str found.check)),
        PassedOn tables build found.artifact file.2 :=
    fun file member => passedOn_record (satisfied.passed _ (List.mem_map_of_mem member))
  have units := satisfied.units
  rw [observedUnits_map_entryOf fun file member =>
    isExecuted_of_passed (passed file member).status] at units
  refine ⟨?_, ?_, ?_, units⟩
  · intro none
    apply satisfied.present
    rw [checkRecords, List.map_eq_nil_iff] at none
    rw [none]
    rfl
  · intro record member
    obtain ⟨file, held, rfl⟩ := List.mem_map.mp member
    exact passed file held
  · have count := satisfied.count
    rw [List.length_map] at count
    rw [checkRecords, List.length_map]
    exact count

/-! ## What a manifest cites -/

/-- The manifest cites the record of a file. -/
def Cites (entries : List PyJson) (file : Str × PyJson) : Prop :=
  ∃ entry ∈ entries, entry.isDict = true ∧
    entry.get "path" = .str ("docs/evidence/".toList ++ file.1)

/-- The entry restates a record, but for the firmware revision of a grandfathered certificate. -/
def Restates (compareRevision : Bool) (entry : PyJson) (file : Str × PyJson) : Prop :=
  entry.get "path" = .str ("docs/evidence/".toList ++ file.1) ∧
    ∀ field ∈ citedFields, (field = "firmwareRevision" → compareRevision = true) →
      (entry.get field).equals ((entryOf file).get field) = true

theorem restates_of_silent {files : List (Str × PyJson)} {compareRevision : Bool}
    (silent : citedEntryProblems (files.map entryOf) compareRevision entry = .ok [])
    (dict : entry.isDict = true) : ∃ file ∈ files, Restates compareRevision entry file := by
  unfold citedEntryProblems at silent
  rw [if_pos dict] at silent
  obtain ⟨_, _, silent⟩ := bind_eq_ok.mp silent
  split at silent
  · cases silent
  · next record found =>
      unfold recordAt at found
      have path := List.find?_some found
      have held := List.mem_reverse.mp (List.mem_of_find?_eq_some found)
      obtain ⟨file, member, rfl⟩ := List.mem_map.mp held
      refine ⟨file, member, ?_, ?_⟩
      · rw [get_entryOf_path] at path
        exact PyJson.same_str.mp path
      · intro field listed compared
        have silent := List.flatMap_eq_nil_iff.mp (Except.ok.inj silent) field listed
        have shown : ¬(field = "firmwareRevision" ∧ compareRevision = false) := by
          intro both
          rw [compared both.1] at both
          exact Bool.noConfusion both.2
        rw [if_neg shown, check_eq_nil] at silent
        exact silent

theorem cites_of_silent {required : List PyJson}
    (silent : omittedProblems (citedPaths entries) required (entryOf file) = .ok [])
    (asked : file.2.get "status" = .str "failed".toList ∨
      (required.any fun check => (file.2.get "check").same check) = true) : Cites entries file := by
  unfold omittedProblems at silent
  split at silent
  · next cited =>
      obtain ⟨path, listed, same⟩ := List.any_eq_true.mp cited
      obtain ⟨entry, member, rfl⟩ := List.mem_map.mp listed
      obtain ⟨held, dict⟩ := List.mem_filter.mp member
      rw [get_entryOf_path] at same
      exact ⟨entry, held, dict, PyJson.same_str.mp same⟩
  · rw [get_entryOf_status, get_entryOf_check] at silent
    split at silent
    · cases silent
    · next passed =>
        obtain ⟨known, member, silent⟩ := bind_eq_ok.mp silent
        obtain ⟨_, rfl⟩ := inSet_eq_ok.mp member
        obtain failed | named := asked
        · exact absurd (PyJson.equals_str_right.mpr failed) passed
        · rw [if_pos named] at silent
          cases silent

/-! ## Certificates -/

def coreSha (tables : PythonTables) (manifest : PyJson) : Str :=
  tables.strOf (dictOrEmpty (manifest.get "axoloty")) "sha"

def imageSha (tables : PythonTables) (manifest : PyJson) : Str :=
  tables.strOf (dictOrEmpty (manifest.get "image")) "sha256"

/-- The firmware revision is not compared for this certificate. -/
def predatesRevision (tables : PythonTables) (manifest : PyJson) : Bool :=
  isGrandfathered tables manifest (dictOrEmpty (manifest.get "embedded"))

/-- The build that the manifest names. -/
def buildOf (tables : PythonTables) (manifest : PyJson) : Build :=
  ⟨coreSha tables manifest, imageSha tables manifest,
    if predatesRevision tables manifest then .none
    else (dictOrEmpty (manifest.get "embedded")).get "sha"⟩

def evidenceOf (manifest : PyJson) : List PyJson :=
  ((dictOrEmpty (manifest.get "qualification")).get "evidence").list?.getD []

def requiredChecksOf (value : PyJson) : PyJson := (value.get "qualification").get "requiredChecks"

/-- A certificate of a profile: its records satisfy all required checks and are cited. -/
structure Certified (tables : PythonTables) (files : EvidenceFiles) (manifest profile : PyJson)
    (name : Str) : Prop where
  revisions : isHexText 40 (coreSha tables manifest) = true ∧
    isHexText 64 (imageSha tables manifest) = true ∧
    isHexText 40 (tables.strOf (dictOrEmpty (manifest.get "embedded")) "sha") = true
  declared : (requiredChecksOf manifest).equals (requiredChecksOf profile) = true
  satisfied : ∃ items, items ≠ [] ∧ requiredChecksOf manifest = .list items ∧
    ∀ required ∈ items, ∃ found, readRequired required = .ok (some found) ∧
      SatisfiedBy tables (buildOf tables manifest) found (checkRecords files name found.check)
  failed : ∀ file ∈ profileRecords files name, file.2.get "status" = .str "failed".toList →
    Cites (evidenceOf manifest) file
  restated : ∀ entry ∈ evidenceOf manifest, ∃ file ∈ profileRecords files name,
    Restates (!predatesRevision tables manifest) entry file

/-- The pieces of a validation without problems. -/
theorem checkManifest_eq_nil {revocation : Option PyJson}
    (valid : checkManifest tables repo requireQualified allowRevoked revocation manifest = .ok []) :
    ∃ found, checkProfile repo manifest = .ok (found, []) ∧
      checkQualification tables repo requireQualified allowRevoked revocation manifest
        (dictOrEmpty (manifest.get "axoloty")) (dictOrEmpty (manifest.get "embedded"))
        (dictOrEmpty (manifest.get "image")) found = .ok [] ∧
      checkResources tables manifest (dictOrEmpty (manifest.get "embedded")) found = [] ∧
      isHexText 40 (coreSha tables manifest) = true ∧
      isHexText 64 (imageSha tables manifest) = true ∧
      isHexText 40 (tables.strOf (dictOrEmpty (manifest.get "embedded")) "sha") = true := by
  unfold checkManifest at valid
  obtain ⟨schema, _, valid⟩ := bind_eq_ok.mp valid
  obtain ⟨modeKnown, _, valid⟩ := bind_eq_ok.mp valid
  obtain ⟨⟨found, identity⟩, profiled, valid⟩ := bind_eq_ok.mp valid
  obtain ⟨transport, _, valid⟩ := bind_eq_ok.mp valid
  obtain ⟨core, _, valid⟩ := bind_eq_ok.mp valid
  obtain ⟨version, _, valid⟩ := bind_eq_ok.mp valid
  obtain ⟨qualification, qualified, valid⟩ := bind_eq_ok.mp valid
  have silent := Except.ok.inj valid
  simp only [List.append_eq_nil_iff] at silent
  obtain ⟨⟨⟨⟨⟨⟨⟨⟨⟨⟨_, rfl⟩, _⟩, _⟩, _⟩, axoloty⟩, _⟩, embedded⟩, image⟩, resources⟩, rfl⟩ := silent.1
  refine ⟨found, profiled, qualified, resources, ?_, ?_, ?_⟩
  · simp only [checkAxoloty, List.append_eq_nil_iff, check_eq_nil] at axoloty
    exact axoloty.1.1.1
  · simp only [checkImage, List.append_eq_nil_iff, check_eq_nil] at image
    exact image.1.2
  · simp only [checkEmbedded, List.append_eq_nil_iff, check_eq_nil] at embedded
    exact embedded.1.2

/-- The pieces of a qualification without problems. -/
theorem checkQualification_eq_nil {revocation : Option PyJson} {axoloty embedded image : PyJson}
    {found : Option PyJson}
    (valid : checkQualification tables repo requireQualified allowRevoked revocation manifest axoloty
      embedded image found = .ok []) (qualified : isQualified manifest = true) :
    (∃ cited, collect (citedEntry tables repo (tables.strOf axoloty "sha")
        (tables.strOf image "sha256")) (evidenceOf manifest) = .ok cited ∧
        cited.filterMap Sum.getLeft? = []) ∧
      qualifiedProblems tables repo manifest embedded found (evidenceOf manifest)
        (tables.strOf axoloty "sha") (tables.strOf image "sha256") = .ok [] := by
  unfold checkQualification at valid
  simp only [qualified, if_true] at valid
  obtain ⟨known, _, valid⟩ := bind_eq_ok.mp valid
  obtain ⟨cited, collected, valid⟩ := bind_eq_ok.mp valid
  obtain ⟨problems, checked, valid⟩ := bind_eq_ok.mp valid
  obtain ⟨revoked, _, valid⟩ := bind_eq_ok.mp valid
  have silent := Except.ok.inj valid
  simp only [List.append_eq_nil_iff] at silent
  obtain ⟨⟨⟨⟨⟨_, left⟩, _⟩, rfl⟩, _⟩, _⟩ := silent
  exact ⟨⟨cited, collected, left⟩, checked⟩

theorem checkProfile_eq_ok {found : Option PyJson} {profile : LoadedJson} (named : manifest.get "profile" = .str name)
    (profiled : repo.profiles name = .content profile)
    (checked : checkProfile repo manifest = .ok (found, [])) :
    isNonemptyString (.str name) = true ∧ found = some profile.value := by
  unfold checkProfile at checked
  rw [named] at checked
  simp only at checked
  split at checked
  · next nonempty =>
      rw [profiled] at checked
      obtain ⟨content, loaded, checked⟩ := bind_eq_ok.mp checked
      obtain ⟨_, _, checked⟩ := bind_eq_ok.mp checked
      cases loaded
      exact ⟨nonempty, (congrArg Prod.fst (Except.ok.inj checked)).symm⟩
  · cases checked

/-- A value that is false has no members. -/
theorem get_of_not_truth {value : PyJson} (false' : value.truth = false) (field : String) :
    value.get field = .none := by
  cases value with
  | dict entries =>
      have none : entries = [] := by simpa [PyJson.truth] using false'
      rw [none]
      rfl
  | _ => rfl

theorem declaredChecks_eq_ok {declared : PyJson} (read : declaredChecks (some profile) = .ok declared) :
    declared = requiredChecksOf profile := by
  unfold declaredChecks at read
  simp only at read
  split at read
  · obtain ⟨_, _, same⟩ := bind_eq_ok.mp read
    exact (Except.ok.inj same).symm
  · next falsy =>
      rw [Bool.not_eq_true] at falsy
      rw [requiredChecksOf, get_of_not_truth falsy]
      exact (Except.ok.inj read).symm

/-- A qualification that is held against the profile's checks without a problem. -/
theorem certified_of_qualified (named : manifest.get "profile" = .str name)
    (nonempty : isNonemptyString (.str name) = true)
    (declares : requiredChecksOf profile ≠ .none)
    (dicts : ∀ entry ∈ evidenceOf manifest, entry.isDict = true)
    (revisions : isHexText 40 (coreSha tables manifest) = true ∧
      isHexText 64 (imageSha tables manifest) = true ∧
      isHexText 40 (tables.strOf (dictOrEmpty (manifest.get "embedded")) "sha") = true)
    (silent : qualifiedProblems tables repo manifest (dictOrEmpty (manifest.get "embedded"))
      (some profile) (evidenceOf manifest) (coreSha tables manifest) (imageSha tables manifest) =
        .ok []) : Certified tables repo.evidence manifest profile name := by
  unfold qualifiedProblems at silent
  obtain ⟨declared, read, silent⟩ := bind_eq_ok.mp silent
  have same := declaredChecks_eq_ok read
  obtain ⟨records, found, silent⟩ := bind_eq_ok.mp silent
  obtain ⟨wrong, cited, silent⟩ := bind_eq_ok.mp silent
  obtain ⟨unmet, checked, silent⟩ := bind_eq_ok.mp silent
  have silent := Except.ok.inj silent
  simp only [List.append_eq_nil_iff] at silent
  obtain ⟨⟨schema, rfl⟩, rfl⟩ := silent
  unfold discovered at found
  rw [named] at found
  simp only [nonempty, if_true] at found
  obtain rfl := discoverEvidence_eq_ok found
  obtain ⟨entriesWrong, restated, cited⟩ := bind_eq_ok.mp cited
  obtain ⟨required, names, cited⟩ := bind_eq_ok.mp cited
  obtain ⟨omitted, kept, cited⟩ := bind_eq_ok.mp cited
  obtain ⟨rfl, rfl⟩ := List.append_eq_nil_iff.mp (Except.ok.inj cited)
  have declaredSome : declared.isNone = false := by
    cases value : declared with
    | none => exact absurd (same.symm.trans value) declares
    | _ => rfl
  unfold declaredCheckProblems at schema
  rw [declaredSome] at schema
  simp only [Bool.false_eq_true, if_false] at schema
  split at schema
  · next two =>
      unfold schemaProblems at checked
      rw [if_pos two, requiredCheckProblems_eq_nil] at checked
      rw [check_eq_nil, same] at schema
      obtain ⟨items, nonempty, listed, all⟩ := checked
      refine ⟨revisions, schema, ⟨items, nonempty, listed, fun required member => ?_⟩, ?_, ?_⟩
      · obtain ⟨found, wellFormed, satisfied⟩ := all required member
        exact ⟨found, wellFormed, satisfiedBy_records satisfied⟩
      · intro file member failed
        apply cites_of_silent _ (.inl failed)
        · exact required
        · exact collect_eq_nil.mp kept _ (List.mem_map_of_mem member)
      · intro entry member
        exact restates_of_silent (collect_eq_nil.mp restated entry member) (dicts entry member)
  · cases schema

/-- The entries of a qualified manifest are objects. -/
theorem isDict_of_cited {axolotySha image : Str} {cited : List (Problem ⊕ Unit)}
    (collected : collect (citedEntry tables repo axolotySha image) entries = .ok cited)
    (silent : cited.filterMap Sum.getLeft? = []) : ∀ entry ∈ entries, entry.isDict = true := by
  intro entry member
  by_contra other
  have path : entry.get "path" = .none := by
    cases entry with
    | dict fields => exact absurd rfl other
    | _ => rfl
  obtain ⟨here, yielded, inside⟩ := subset_of_collect collected member
  unfold citedEntry at yielded
  rw [path] at yielded
  cases yielded
  have problem := inside List.mem_cons_self
  rw [List.filterMap_eq_nil_iff] at silent
  exact absurd (silent _ problem) (by simp)

/-- A manifest that is validated without problems and not revoked passes all its checks. -/
theorem checkManifest_of_validate {manifest : LoadedJson}
    (valid : validate tables repo requireQualified allowRevoked = .ok ([], none))
    (loaded : repo.manifest = .content manifest) :
    checkManifest tables repo requireQualified allowRevoked none manifest.value = .ok [] := by
  unfold validate at valid
  obtain ⟨content, same, valid⟩ := bind_eq_ok.mp valid
  rw [loaded] at same
  cases same
  cases revoked : loadRevocation repo with
  | mk revocation problems =>
      rw [revoked] at valid
      simp only at valid
      split at valid
      · next allowed =>
          have none := congrArg Prod.snd (Except.ok.inj valid)
          simp only at none
          rw [none] at allowed
          simp at allowed
      · split at valid
        · obtain ⟨found, checked, valid⟩ := bind_eq_ok.mp valid
          have both := Except.ok.inj valid
          obtain ⟨silent, same⟩ := Prod.mk.inj both
          obtain ⟨_, rfl⟩ := List.append_eq_nil_iff.mp silent
          rw [← same]
          exact checked
        · cases valid

/-- A qualified manifest that is not revoked and has no problem is a certificate: all records of
each check that the profile requires are passed device records of the build that it names. -/
theorem certified_of_validate {manifest profile : LoadedJson}
    (valid : validate tables repo requireQualified allowRevoked = .ok ([], none))
    (loaded : repo.manifest = .content manifest) (qualified : isQualified manifest.value = true)
    (named : manifest.value.get "profile" = .str name)
    (profiled : repo.profiles name = .content profile)
    (declares : requiredChecksOf profile.value ≠ .none) :
    Certified tables repo.evidence manifest.value profile.value name := by
  have checked := checkManifest_of_validate valid loaded
  obtain ⟨found, profileRead, qualification, _, revisions⟩ := checkManifest_eq_nil checked
  obtain ⟨nonempty, rfl⟩ := checkProfile_eq_ok named profiled profileRead
  obtain ⟨⟨cited, collected, silent⟩, held⟩ := checkQualification_eq_nil qualification qualified
  exact certified_of_qualified named nonempty declares (isDict_of_cited collected silent) revisions held

/-! ## A certificate with one record -/

def textField (field value : String) : Str × PyJson := (field.toList, .str value.toList)

def hexField (field : String) (digit : Char) (width : Nat) : Str × PyJson :=
  (field.toList, .str (List.replicate width digit))

def requiredCheck : PyJson :=
  .dict [textField "check" "smoke", textField "artifact" "release", ("records".toList, .int 1),
    ("units".toList, .int 1)]

/-- A profile with one required check and some other fields. -/
def sampleProfile (fields : List (Str × PyJson)) : PyJson :=
  .dict (fields ++ [textField "application" "agent", textField "platform" "esp32c6",
    textField "board" "devkit", textField "transport" "zenoh-pico",
    ("qualification".toList, .dict [("requiredChecks".toList, .list [requiredCheck])])])

/-- What an executed record and its entry share. -/
def sampleShown : List (Str × PyJson) :=
  [textField "check" "smoke", textField "tier" "device", textField "status" "passed",
    hexField "coreRevision" 'a' 40, hexField "firmwareSHA256" 'b' 64, textField "device" "unit-1"]

def sampleRecord : PyJson :=
  .dict (sampleShown ++ [("schemaVersion".toList, .int 1), textField "profile" "esp32c6-zenoh",
    textField "recordedAt" "2026-01-01", textField "result" "ok", textField "protocol" "serial"])

/-- A qualified manifest with its `resources`. -/
def sampleManifest (resources : PyJson) : PyJson :=
  .dict [("schemaVersion".toList, .int 2), textField "mode" "release",
    textField "profile" "esp32c6-zenoh", textField "application" "agent",
    textField "platform" "esp32c6", textField "board" "devkit",
    ("transport".toList, .dict [textField "name" "zenoh-pico", textField "backend" "zenoh",
      textField "version" "1.0", textField "versionSource" "Platforms/esp32c6/lock.json",
      ("component".toList, .none), ("revision".toList, .none)]),
    ("axoloty".toList, .dict [hexField "sha" 'a' 40, ("dirty".toList, .bool false),
      hexField "contractSha256" 'c' 64, textField "version" "1.2.3", textField "tag" "v1.2.3"]),
    ("embedded".toList, .dict [textField "version" "1.2.3-embedded.1", hexField "sha" 'd' 40,
      ("dirty".toList, .bool false)]),
    ("toolchain".toList, .dict [textField "swift" "6", textField "sdk" "5", textField "target" "riscv"]),
    hexField "configurationFingerprint" 'e' 64,
    ("image".toList, .dict [textField "path" "image.bin", hexField "sha256" 'b' 64,
      ("byteCount".toList, .int 1)]),
    ("resources".toList, resources),
    ("qualification".toList, .dict [textField "status" "qualified",
      ("requiredChecks".toList, .list [requiredCheck]),
      ("evidence".toList, .list [.dict (textField "path" "docs/evidence/smoke.json" :: sampleShown)])]),
    ("compatibility".toList, .dict [textField "scope" "profile", textField "status" "qualified",
      textField "description" "qualified"])]

/-- The file of a value. -/
def JsonFile.ofValue (value : PyJson) : JsonFile :=
  if kept : value.wellFormed = true then .content ⟨value, kept⟩ else .unreadable

theorem JsonFile.ofValue_eq {value : PyJson} (kept : value.wellFormed = true) :
    ofValue value = .content ⟨value, kept⟩ := dif_pos kept

def sampleRepository (resources : PyJson) (fields : List (Str × PyJson)) : Repository where
  manifest := .ofValue (sampleManifest resources)
  manifestPath := []
  revocation := .missing
  profiles := fun _ => .ofValue (sampleProfile fields)
  isDirectory := fun _ _ => true
  transportSource := fun _ _ =>
    .component (some (.dict [textField "component" "zenoh", textField "version" "1.0"]))
  lock := .ofValue (.dict [("core".toList, .dict [hexField "revision" 'a' 40,
    textField "version" "1.2.3", textField "tag" "v1.2.3"])])
  version := some (some "1.2.3-embedded.1".toList)
  evidence := [("smoke.json".toList, some sampleRecord)]
  evidenceAt := fun _ => .record sampleRecord

def asciiTables : PythonTables := ⟨fun _ => [], fun _ => false⟩

/-- The validation of a sample by its results that can be decided. -/
theorem validate_sample {resources : PyJson} {fields : List (Str × PyJson)}
    (runs : (validate asciiTables (sampleRepository resources fields) true false).toOption.map
      (fun result => (result.1.isEmpty, result.2.isNone)) = some (true, true)) :
    validate asciiTables (sampleRepository resources fields) true false = .ok ([], none) := by
  cases validated : validate asciiTables (sampleRepository resources fields) true false with
  | error raised =>
      rw [validated] at runs
      cases runs
  | ok result =>
      rw [validated] at runs
      obtain ⟨problems, revocation⟩ := result
      obtain ⟨silent, unrevoked⟩ := Prod.mk.inj (Option.some.inj runs)
      obtain rfl := List.isEmpty_iff.mp silent
      obtain rfl := Option.isNone_iff_eq_none.mp unrevoked
      rfl

theorem certified_of_validate_sample :
    Certified asciiTables (sampleRepository .none []).evidence (sampleManifest .none)
      (sampleProfile []) "esp32c6-zenoh".toList := by
  have manifest : (sampleManifest .none).wellFormed = true := by decide +kernel
  have profile : (sampleProfile []).wellFormed = true := by decide +kernel
  have valid : validate asciiTables (sampleRepository .none []) true false = .ok ([], none) :=
    validate_sample (by decide +kernel)
  have qualified : isQualified (sampleManifest .none) = true := by decide +kernel
  apply certified_of_validate valid (JsonFile.ofValue_eq manifest) qualified rfl
    (JsonFile.ofValue_eq profile)
  intro none
  cases none

end AxolotyEmbedded.Release
