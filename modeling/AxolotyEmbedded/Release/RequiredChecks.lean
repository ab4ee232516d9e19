import AxolotyEmbedded.Release.Evidence

/-!
When the evidence satisfies the required checks, exactly: `required_check_problems` finds
nothing where each check is well formed and all records of its name are passed device records
of the build, as many and on as many units as it asks for. The records of a profile are those
of the files below `docs/evidence` that name it.
-/
namespace AxolotyEmbedded.Release

open PythonText Checked

variable {tables : PythonTables} {build : Build} {artifact : Artifact} {entry required value : PyJson}
  {entries members : List PyJson} {b : Bool}

theorem inSet_eq_ok :
    inSet value members = .ok b ↔
      value.hashable = true ∧ (members.any fun member => value.same member) = b := by
  rw [inSet, bind_eq_ok]
  constructor
  · intro asked
    obtain ⟨_, hashed, same⟩ := asked
    rw [refuseIf_eq_ok, Bool.not_eq_false] at hashed
    exact ⟨hashed, Except.ok.inj same⟩
  · intro asked
    obtain ⟨hashed, rfl⟩ := asked
    exact ⟨(), refuseIf_eq_ok.mpr (by simp [hashed]), rfl⟩

theorem same_none : value.same .none = true ↔ value = .none := by
  cases value <;> simp [PyJson.same, PyJson.number?]

/-- A value is one of some texts, or absent where that is allowed too. -/
theorem inSet_deviceTiers :
    inSet value deviceTiers = .ok true ↔ value = .str "device".toList ∨ value = .none := by
  simp only [inSet_eq_ok, deviceTiers, List.any_cons, List.any_nil, Bool.or_false, Bool.or_eq_true,
    PyJson.same_str_right, same_none]
  constructor
  · exact fun found => found.2
  · intro found
    refine ⟨?_, found⟩
    obtain rfl | rfl := found
    · rfl
    · rfl

/-! ## One check -/

/-- A passed device record of the build. -/
structure PassedOn (tables : PythonTables) (build : Build) (artifact : Artifact) (entry : PyJson) :
    Prop where
  tier : entry.get "tier" = .str "device".toList ∨ entry.get "tier" = .none
  status : entry.get "status" = .str "passed".toList
  coreRevision : entry.get "coreRevision" = .str build.coreSha
  artifact : match artifact with
    | .release => entry.get "firmwareSHA256" = .str build.imageSha
    | .variant => isHexText 64 (tables.strOf entry "firmwareSHA256") = true ∧
        (build.firmwareRevision = .none ∨
          (entry.get "firmwareRevision").equals build.firmwareRevision = true)

theorem artifactMatches_eq_true :
    artifactMatches tables build artifact entry = true ↔
      match artifact with
      | .release => entry.get "firmwareSHA256" = .str build.imageSha
      | .variant => isHexText 64 (tables.strOf entry "firmwareSHA256") = true ∧
          (build.firmwareRevision = .none ∨
            (entry.get "firmwareRevision").equals build.firmwareRevision = true) := by
  cases artifact with
  | release => exact PyJson.equals_str_right
  | variant =>
      simp only [artifactMatches, Bool.and_eq_true, Bool.or_eq_true, PyJson.equals_none_right]

theorem isAccepted_eq_true :
    isAccepted tables build artifact entry = .ok true ↔ PassedOn tables build artifact entry := by
  unfold isAccepted
  rw [bind_eq_ok]
  constructor
  · intro accepted
    obtain ⟨tier, known, all⟩ := accepted
    have all := Except.ok.inj all
    simp only [Bool.and_eq_true, PyJson.equals_str_right] at all
    obtain ⟨⟨⟨rfl, status⟩, core⟩, artifact⟩ := all
    exact ⟨inSet_deviceTiers.mp known, status, core, artifactMatches_eq_true.mp artifact⟩
  · intro passed
    refine ⟨true, inSet_deviceTiers.mpr passed.tier, ?_⟩
    simp [passed.status, passed.coreRevision, artifactMatches_eq_true.mpr passed.artifact, pure,
      Except.pure]

/-- All records of a check are passed device records of the build, as many and on as many units
as the check asks for. -/
structure SatisfiedBy (tables : PythonTables) (build : Build) (found : RequiredCheck)
    (records : List PyJson) : Prop where
  present : records ≠ []
  passed : ∀ entry ∈ records, PassedOn tables build found.artifact entry
  count : found.records ≤ records.length
  units : found.units ≤ (observedUnits records).length

theorem checkProblems_eq_nil {found : RequiredCheck} {records accepted : List PyJson} :
    checkProblems build found records accepted = [] ↔
      records ≠ [] ∧ accepted.length = records.length ∧ found.records ≤ accepted.length ∧
        found.units ≤ (observedUnits accepted).length := by
  unfold checkProblems
  simp only
  split
  · next none => simp [List.isEmpty_iff.mp none]
  · next some =>
      rw [List.isEmpty_iff] at some
      split
      · next differ => split <;> simp [differ]
      · next same =>
          rw [not_not] at same
          split
          · next few =>
              constructor
              · exact fun found => absurd found (by simp)
              · intro found
                omega
          · next enough =>
              split
              · next few =>
                  constructor
                  · exact fun found => absurd found (by simp)
                  · intro found
                    omega
              · next units => exact ⟨fun _ => ⟨some, same, Nat.not_lt.mp enough, Nat.not_lt.mp units⟩,
                  fun _ => rfl⟩

theorem requiredProblems_eq_nil :
    requiredProblems tables entries build required = .ok [] ↔
      ∃ found, readRequired required = .ok (some found) ∧
        SatisfiedBy tables build found (recordsOf entries found.check) := by
  unfold requiredProblems
  rw [bind_eq_ok]
  constructor
  · intro silent
    obtain ⟨read, wellFormed, silent⟩ := silent
    cases read with
    | none => cases silent
    | some found =>
        obtain ⟨accepted, filtered, silent⟩ := bind_eq_ok.mp silent
        obtain ⟨present, length, count, units⟩ := checkProblems_eq_nil.mp (Except.ok.inj silent)
        have all := filterChecked_all.mp ⟨accepted, filtered, length⟩
        obtain rfl := eq_of_filterChecked filtered length
        refine ⟨found, wellFormed, present, fun entry member => ?_, count, units⟩
        exact isAccepted_eq_true.mp (all entry member)
  · intro satisfied
    obtain ⟨found, wellFormed, satisfied⟩ := satisfied
    have all : ∀ entry ∈ recordsOf entries found.check,
        isAccepted tables build found.artifact entry = .ok true :=
      fun entry member => isAccepted_eq_true.mpr (satisfied.passed entry member)
    obtain ⟨accepted, filtered, length⟩ := filterChecked_all.mpr all
    have same := eq_of_filterChecked filtered length
    refine ⟨some found, wellFormed, bind_eq_ok.mpr ⟨accepted, filtered, ?_⟩⟩
    apply congrArg Except.ok
    rw [checkProblems_eq_nil, same]
    exact ⟨satisfied.present, rfl, satisfied.count, satisfied.units⟩

/-- The required checks of a manifest are satisfied by some entries. -/
theorem requiredCheckProblems_eq_nil {requiredChecks : PyJson} :
    requiredCheckProblems tables requiredChecks entries build = .ok [] ↔
      ∃ items, items ≠ [] ∧ requiredChecks = .list items ∧ ∀ required ∈ items,
        ∃ found, readRequired required = .ok (some found) ∧
          SatisfiedBy tables build found (recordsOf entries found.check) := by
  unfold requiredCheckProblems
  cases requiredChecks with
  | list items =>
      cases items with
      | nil => simp [PyJson.list?]
      | cons first rest =>
          simp only [PyJson.list?, collect_eq_nil, requiredProblems_eq_nil]
          constructor
          · exact fun all => ⟨_, List.cons_ne_nil _ _, rfl, all⟩
          · intro all
            obtain ⟨_, _, same, all⟩ := all
            cases same
            exact all
  | _ => simp [PyJson.list?]

/-! ## The records of a profile -/

/-- The file is a JSON file whose record names the profile. -/
def recordOf (profileName : Str) (file : Str × Option PyJson) : Option (Str × PyJson) :=
  match file.2 with
  | some record =>
      if ".json".toList.isSuffixOf file.1 && record.isDict &&
          (record.get "profile").equals (.str profileName) then some (file.1, record)
      else none
  | none => none

/-- The records of a profile with the names of their files, in the order of these. -/
def profileRecords (files : EvidenceFiles) (profileName : Str) : List (Str × PyJson) :=
  (sortedFiles files).filterMap (recordOf profileName)

/-- `record.get("status") in {"passed", "failed"}`. -/
def isExecuted (record : PyJson) : Bool :=
  executedStatuses.any fun status => (record.get "status").same status

/-- The entry of a record. -/
def entryOf (file : Str × PyJson) : PyJson :=
  .dict ([("path".toList, .str ("docs/evidence/".toList ++ file.1)),
      ("check".toList, file.2.get "check"), ("tier".toList, file.2.get "tier"),
      ("status".toList, file.2.get "status")] ++
    if isExecuted file.2 then
      [("coreRevision".toList, file.2.get "coreRevision"),
        ("firmwareSHA256".toList, file.2.get "firmwareSHA256"),
        ("firmwareRevision".toList, file.2.get "firmwareRevision"),
        ("device".toList, file.2.get "device")]
    else [("reason".toList, file.2.get "reason")])

theorem evidenceEntry_eq_ok {name : Str} {record : PyJson}
    (entered : evidenceEntry name record = .ok entry) : entry = entryOf (name, record) := by
  obtain ⟨executed, asked, same⟩ := bind_eq_ok.mp entered
  obtain ⟨_, rfl⟩ := inSet_eq_ok.mp asked
  exact (Except.ok.inj same).symm

/-- The discovered entries are those of the profile's records. -/
theorem discoverEvidence_eq_ok {files : EvidenceFiles} {profileName : Str}
    (discovered : discoverEvidence files profileName = .ok entries) :
    entries = (profileRecords files profileName).map entryOf := by
  rw [profileRecords, ← List.filterMap_eq_map, List.filterMap_filterMap]
  apply collect_eq_filterMap _ discovered
  intro file _ here yielded
  unfold discoverFile at yielded
  unfold recordOf
  split at yielded
  · next json =>
      split at yielded
      · cases yielded
      · next record content =>
          simp only [content, json, Bool.true_and]
          split at yielded
          · next named =>
              obtain ⟨found, entered, same⟩ := bind_eq_ok.mp yielded
              cases same
              rw [evidenceEntry_eq_ok entered, if_pos named]
              rfl
          · next other =>
              cases yielded
              rw [if_neg other]
              rfl
  · next other =>
      cases yielded
      cases file.2 with
      | none => rfl
      | some record =>
          rw [Bool.not_eq_true] at other
          simp only [other, Bool.false_and]
          rfl

end AxolotyEmbedded.Release
