import Mathlib.Data.List.Perm.Subperm
import AxolotyEmbedded.Release.Certificate

/-!
What the size report of a certificate says: a report without problems repeats the image of the
manifest, its parts add up, and if it passed then every budget that the profile declares is
met. A qualified certificate of a profile with build budgets cannot do with less.
-/
namespace AxolotyEmbedded.Release

open PythonText Checked

/-! ## Dictionaries -/

namespace PyDict

variable {entries others : List (Str × PyJson)} {key : Str} {value other : PyJson} {names : List String}

theorem mem_of_lookup (found : entries.lookup key = some value) : (key, value) ∈ entries := by
  induction entries with
  | nil => cases found
  | cons entry rest ih =>
      obtain ⟨name, held⟩ := entry
      rw [List.lookup_cons] at found
      split at found
      · next same =>
          obtain rfl := Option.some.inj found
          rw [beq_iff_eq.mp same]
          exact List.mem_cons_self
      · exact List.mem_cons_of_mem _ (ih found)

theorem lookup_isSome : (entries.lookup key).isSome = true ↔ key ∈ entries.map Prod.fst := by
  induction entries with
  | nil => simp
  | cons entry rest ih =>
      obtain ⟨name, held⟩ := entry
      rw [List.lookup_cons, List.map_cons, List.mem_cons, ← ih]
      split
      · next same => simp [beq_iff_eq.mp same]
      · next differ => simp [show key ≠ name by simpa using differ]

theorem exists_of_sameEntries (same : PyJson.sameEntries entries others = true)
    (member : (key, value) ∈ entries) :
    ∃ other, others.lookup key = some other ∧ value.same other = true := by
  induction entries with
  | nil => cases member
  | cons entry rest ih =>
      obtain ⟨name, held⟩ := entry
      rw [PyJson.sameEntries, Bool.and_eq_true] at same
      obtain ⟨here, later⟩ := same
      cases member with
      | head =>
          split at here
          · cases here
          · next other found => exact ⟨other, found, here⟩
      | tail _ member => exact ih later member

/-- Dictionaries that are equal have the same names. -/
theorem exists_lookup_of_same (distinct : (entries.map Prod.fst).Nodup)
    (same : PyJson.same (.dict entries) (.dict others) = true)
    (found : others.lookup key = some other) :
    ∃ value, entries.lookup key = some value ∧ value.same other = true := by
  rw [PyJson.same, Bool.and_eq_true, beq_iff_eq] at same
  obtain ⟨length, all⟩ := same
  have inside : entries.map Prod.fst ⊆ others.map Prod.fst := by
    intro name member
    obtain ⟨⟨_, held⟩, listed, rfl⟩ := List.mem_map.mp member
    obtain ⟨_, there, _⟩ := exists_of_sameEntries all listed
    rw [← lookup_isSome, there]
    rfl
  have perm : (entries.map Prod.fst).Perm (others.map Prod.fst) :=
    (List.subperm_of_subset distinct inside).perm_of_length_le (by simp [length])
  have named : key ∈ entries.map Prod.fst := by
    rw [perm.mem_iff, ← lookup_isSome, found]
    rfl
  obtain ⟨value, here⟩ := Option.isSome_iff_exists.mp (lookup_isSome.mpr named)
  obtain ⟨again, there, equal⟩ := exists_of_sameEntries all (mem_of_lookup here)
  rw [found] at there
  cases there
  exact ⟨value, here, equal⟩

end PyDict

def namesOf : PyJson → List Str
  | .dict entries => entries.map Prod.fst
  | _ => []

theorem wellFormed_of_mem {entries : List (Str × PyJson)} {entry : Str × PyJson}
    (kept : PyJson.wellFormedEntries entries = true) (member : entry ∈ entries) :
    entry.2.wellFormed = true := by
  induction entries with
  | nil => cases member
  | cons first rest ih =>
      rw [PyJson.wellFormedEntries, Bool.and_eq_true] at kept
      cases member with
      | head => exact kept.1
      | tail _ later => exact ih kept.2 later

theorem wellFormed_get {value : PyJson} (kept : value.wellFormed = true) (name : String) :
    (value.get name).wellFormed = true := by
  rw [PyJson.get]
  cases found : value.get? name with
  | none => rfl
  | some field =>
      cases value with
      | dict entries =>
          rw [PyJson.wellFormed, Bool.and_eq_true] at kept
          exact wellFormed_of_mem kept.2 (PyDict.mem_of_lookup found)
      | _ => cases found

theorem nodup_namesOf {value : PyJson} (kept : value.wellFormed = true) : (namesOf value).Nodup := by
  cases value with
  | dict entries =>
      rw [PyJson.wellFormed, Bool.and_eq_true] at kept
      exact of_decide_eq_true kept.1
  | _ => exact List.nodup_nil

variable {value metrics build : PyJson} {name : String} {names : List String} {minimum bytes : Int}

theorem safeInteger_eq_true :
    safeInteger minimum value = true ↔
      ∃ number, value = .int number ∧ minimum ≤ number ∧ number ≤ maxSafeInteger := by
  cases value with
  | int number =>
      rw [safeInteger, PyJson.int?, Option.any_some, Bool.and_eq_true, decide_eq_true_eq,
        decide_eq_true_eq]
      constructor
      · intro bounds
        exact ⟨number, rfl, bounds⟩
      · intro found
        obtain ⟨_, same, bounds⟩ := found
        cases same
        exact bounds
  | _ =>
      constructor
      · intro safe
        cases safe
      · intro found
        obtain ⟨_, same, _⟩ := found
        cases same

theorem same_int {first second : Int} : PyJson.same (.int first) (.int second) = true ↔ first = second := by
  rw [PyJson.same, PyJson.number?, beq_iff_eq, Option.some.injEq, PyFloat.finite.injEq]
  exact ⟨fun same => (Rat.intCast_inj.mp same).symm, fun same => Rat.intCast_inj.mpr same.symm⟩

theorem exists_int_of_valuesOf (all : (valuesOf value).all (safeInteger minimum) = true)
    (found : (value.get? name).isSome = true) :
    ∃ number, value.get? name = some (.int number) := by
  obtain ⟨held, found⟩ := Option.isSome_iff_exists.mp found
  cases value with
  | dict entries =>
      have member := PyDict.mem_of_lookup found
      have safe := List.all_eq_true.mp all held (List.mem_map.mpr ⟨_, member, rfl⟩)
      obtain ⟨number, rfl, _⟩ := safeInteger_eq_true.mp safe
      exact ⟨number, found⟩
  | _ => cases found

theorem isSome_of_hasExactly (exactly : hasExactly value names = true) (listed : name ∈ names) :
    (value.get? name).isSome = true := by
  cases value with
  | dict entries =>
      rw [hasExactly, Bool.and_eq_true] at exactly
      exact List.all_eq_true.mp exactly.2 name listed
  | _ => cases exactly

theorem exists_metric (valid : validMetrics metrics = true) (listed : name ∈ sizeMetrics) :
    ∃ number, metrics.get? name = some (.int number) := by
  rw [validMetrics, Bool.and_eq_true] at valid
  exact exists_int_of_valuesOf valid.2 (isSome_of_hasExactly valid.1 listed)

theorem get_of_get? {found : PyJson} (held : value.get? name = some found) : value.get name = found := by
  rw [PyJson.get, held]
  rfl

/-! ## Verdicts -/

theorem mem_of_hasOnly (only : hasOnly value names = true) (found : (value.get? name).isSome = true) :
    name ∈ names := by
  obtain ⟨held, found⟩ := Option.isSome_iff_exists.mp found
  cases value with
  | dict entries =>
      have listed := List.all_eq_true.mp only _ (PyDict.mem_of_lookup found)
      obtain ⟨known, member, same⟩ := List.any_eq_true.mp listed
      rw [beq_iff_eq, String.toList_inj] at same
      exact same ▸ member
  | _ => cases found

/-- Budgets that are valid, with the names that they are for. -/
theorem exists_budget (valid : validBudgets names build = true) (found : (build.get? name).isSome = true) :
    name ∈ names ∧ ∃ budget, build.get? name = some (.int budget) := by
  simp only [validBudgets, Bool.and_eq_true] at valid
  exact ⟨mem_of_hasOnly valid.1.2 found, exists_int_of_valuesOf valid.2 found⟩

/-- A passed verdict on a metric that has a budget. -/
theorem le_of_verdicts (all : (verdicts metrics build).all Prod.snd = true)
    (listed : name ∈ budgetMetrics) {measured budget : Int}
    (metric : metrics.get? name = some (.int measured)) (held : build.get? name = some (.int budget)) :
    measured ≤ budget := by
  have kept : name ∈ budgetMetrics.filter fun name => (build.get? name).isSome := by
    rw [List.mem_filter, held]
    exact ⟨listed, rfl⟩
  have made : verdict metrics build name = some (PyJson.dict [("metric".toList, .str name.toList),
      ("measured".toList, .int measured), ("budget".toList, .int budget),
      ("headroomBytes".toList, .int (budget - measured)),
      ("passed".toList, .bool (measured ≤ budget))], decide (measured ≤ budget)) := by
    unfold verdict
    rw [get_of_get? metric, get_of_get? held]
    rfl
  have passed := List.all_eq_true.mp all _ (List.mem_filterMap.mpr ⟨name, kept, made⟩)
  exact of_decide_eq_true passed

theorem budgetMetrics_subset : budgetMetrics ⊆ sizeMetrics := by
  decide

/-! ## Reports without problems -/

variable {report manifest : PyJson} {profile : Option PyJson}

/-- What a size report says of the image of a manifest. -/
structure Sized (report manifest : PyJson) : Prop where
  metrics : validMetrics (report.get "metrics") = true
  staticRam : ∃ iram data bss, (report.get "metrics").get "iramTextBytes" = .int iram ∧
    (report.get "metrics").get "initializedDataBytes" = .int data ∧
    (report.get "metrics").get "dramBssBytes" = .int bss ∧
    (report.get "metrics").get "staticRamBytes" = .int (iram + data + bss)
  image : ∃ bytes, (report.get "metrics").get "imageBytes" = .int bytes ∧
    (report.get "image").get "bytes" = .int bytes ∧
    (PyJson.int bytes).equals ((manifest.get "image").get "byteCount") = true
  checksum : (report.get "image").get "sha256" = (manifest.get "image").get "sha256"

theorem exists_of_staticRam (valid : validMetrics metrics = true) (sum : staticRamMatches metrics = true) :
    ∃ iram data bss, metrics.get "iramTextBytes" = .int iram ∧
      metrics.get "initializedDataBytes" = .int data ∧ metrics.get "dramBssBytes" = .int bss ∧
      metrics.get "staticRamBytes" = .int (iram + data + bss) := by
  obtain ⟨iram, iramHeld⟩ :=
    exists_metric valid (show "iramTextBytes" ∈ sizeMetrics by decide)
  obtain ⟨data, dataHeld⟩ :=
    exists_metric valid (show "initializedDataBytes" ∈ sizeMetrics by decide)
  obtain ⟨bss, bssHeld⟩ :=
    exists_metric valid (show "dramBssBytes" ∈ sizeMetrics by decide)
  obtain ⟨total, totalHeld⟩ :=
    exists_metric valid (show "staticRamBytes" ∈ sizeMetrics by decide)
  refine ⟨iram, data, bss, get_of_get? iramHeld, get_of_get? dataHeld, get_of_get? bssHeld, ?_⟩
  unfold staticRamMatches at sum
  rw [get_of_get? iramHeld, get_of_get? dataHeld, get_of_get? bssHeld, get_of_get? totalHeld] at sum
  simp only [PyJson.int?, Bool.and_eq_true] at sum
  rw [get_of_get? totalHeld]
  exact congrArg PyJson.int (same_int.mp sum.2)

theorem exists_of_validImage {image : PyJson} (valid : validImage image = true) :
    (∃ bytes, image.get "bytes" = .int bytes) ∧ ∃ checksum, image.get "sha256" = .str checksum := by
  unfold validImage at valid
  rw [Bool.and_eq_true, Bool.and_eq_true, Bool.and_eq_true] at valid
  obtain ⟨⟨⟨_, bytes⟩, _⟩, rest⟩ := valid
  obtain ⟨number, held, _⟩ := safeInteger_eq_true.mp bytes
  refine ⟨⟨number, held⟩, ?_⟩
  split at rest
  · rw [Bool.and_eq_true, Bool.and_eq_true] at rest
    have text := rest.2
    unfold isHexString at text
    cases checksum : (image.get "sha256").text? with
    | none =>
        rw [checksum] at text
        cases text
    | some held => exact ⟨held, PyJson.text?_eq_some.mp checksum⟩
  · cases rest

/-- A report without problems is sized, and enforced without problems. -/
theorem validateSizeReport_eq_nil (valid : validateSizeReport report manifest profile = []) :
    Sized report manifest ∧
      enforcementProblems report manifest profile (report.get "metrics") (report.get "configuration")
        (report.get "enforcement") = [] := by
  unfold validateSizeReport at valid
  split at valid
  · simp only at valid
    split at valid
    · simp only [List.append_eq_nil_iff, check_eq_nil] at valid
      obtain ⟨⟨⟨⟨⟨_, _⟩, metrics⟩, ram⟩, image⟩, enforced⟩ := valid
      refine ⟨?_, enforced⟩
      rw [if_pos metrics, check_eq_nil] at ram
      simp only [imageProblems, List.append_eq_nil_iff, check_eq_nil] at image
      obtain ⟨validImage, image⟩ := image
      rw [if_pos validImage, List.append_eq_nil_iff, if_pos metrics, check_eq_nil, check_eq_nil,
        Bool.and_eq_true] at image
      obtain ⟨⟨bytesSame, shaSame⟩, metricSame⟩ := image
      obtain ⟨⟨bytes, bytesHeld⟩, checksum, shaHeld⟩ := exists_of_validImage validImage
      obtain ⟨size, sizeHeld⟩ := exists_metric metrics (show "imageBytes" ∈ sizeMetrics by decide)
      rw [bytesHeld, get_of_get? sizeHeld] at metricSame
      obtain rfl : size = bytes := same_int.mp metricSame
      refine ⟨metrics, exists_of_staticRam metrics ram, ⟨size, get_of_get? sizeHeld, bytesHeld, ?_⟩, ?_⟩
      · rw [← bytesHeld]
        exact bytesSame
      · rw [shaHeld] at shaSame ⊢
        exact (PyJson.equals_str.mp shaSame).symm
    · simp at valid
  · cases valid

/-! ## Budgets of the profile -/

/-- Every budget that the profile declares is met by the report. -/
def BudgetsMet (report : PyJson) (profile : Option PyJson) : Prop :=
  ∀ name value, (declaredBuild profile).get? name = some value →
    ∃ budget measured, value = .int budget ∧
      (report.get "metrics").get name = .int measured ∧ measured ≤ budget

theorem declaredBuild_valid (silent : profileBudgetProblems profile = [])
    (declares : (declaredBuild profile).isNone = false) :
    validBudgets budgetMetrics (declaredBuild profile) = true := by
  have present : ((declaredBudgets profile).get? "build").isSome = true := by
    cases held : (declaredBudgets profile).get? "build" with
    | none =>
        rw [declaredBuild, PyJson.get, held] at declares
        cases declares
    | some value => rfl
  simp only [profileBudgetProblems, List.append_eq_nil_iff] at silent
  have build := silent.2
  rw [if_pos present, check_eq_nil] at build
  exact build

/-- A budget of the profile is in the budgets of a report that equal them. -/
theorem exists_budget_of_equals {declared : PyJson} {budget : Int}
    (distinct : (namesOf build).Nodup) (valid : validBudgets names build = true)
    (same : build.equals declared = true) (found : declared.get? name = some (.int budget)) :
    ∃ reported, build.get? name = some (.int reported) ∧ reported = budget := by
  cases build with
  | dict entries =>
      cases declared with
      | dict others =>
          obtain ⟨value, held, equal⟩ := PyDict.exists_lookup_of_same distinct same found
          obtain ⟨_, reported, again⟩ := exists_budget valid (show (PyJson.get? (.dict entries) name).isSome = true by
            rw [PyJson.get?, held]; rfl)
          rw [PyJson.get?, held] at again
          cases again
          exact ⟨reported, held, same_int.mp equal⟩
      | _ => cases found
  | _ => cases valid

/-- A report that passed without problems meets every budget of the profile. -/
theorem budgetsMet_of_passed {enforcement : PyJson}
    (profileSilent : profileBudgetProblems profile = [])
    (enforced : enforcedProblems report profile (report.get "metrics") enforcement
      (.str "passed".toList) = [])
    (distinct : (namesOf ((report.get "budgets").get "build")).Nodup) :
    BudgetsMet report profile := by
  simp only [enforcedProblems, List.append_eq_nil_iff, check_eq_nil] at enforced
  obtain ⟨valid, enforced⟩ := enforced
  rw [if_pos valid, List.append_eq_nil_iff, check_eq_nil, check_eq_nil, Bool.and_eq_true,
    Bool.and_eq_true, Bool.and_eq_true, Bool.and_eq_true] at enforced
  obtain ⟨⟨same, _⟩, ⟨⟨_, metrics⟩, _⟩, agree⟩ := enforced
  rw [Bool.and_eq_true] at valid
  have passed : (verdicts (report.get "metrics") ((report.get "budgets").get "build")).all
      Prod.snd = true := by
    rw [beq_iff_eq] at agree
    rw [agree]
    exact PyJson.equals_str.mpr rfl
  intro name value found
  have declares : (declaredBuild profile).isNone = false := by
    cases held : declaredBuild profile with
    | none =>
        rw [held] at found
        cases found
    | _ => rfl
  have declared := declaredBuild_valid profileSilent declares
  obtain ⟨listed, budget, budgetHeld⟩ := exists_budget declared (by rw [found]; rfl)
  rw [found] at budgetHeld
  cases budgetHeld
  obtain ⟨_, reported, rfl⟩ := exists_budget_of_equals distinct valid.2 same found
  obtain ⟨measured, metric⟩ := exists_metric metrics (budgetMetrics_subset listed)
  exact ⟨_, measured, rfl, get_of_get? metric,
    le_of_verdicts passed listed metric reported⟩

theorem isIn_eq_true {names : List String} :
    value.isIn names = true ↔ ∃ name ∈ names, value = .str name.toList := by
  simp only [PyJson.isIn, List.any_eq_true, PyJson.equals_str_right]

/-- A report that was held against nothing is of no qualified manifest of a profile with build
budgets. -/
theorem not_unenforced {configuration enforcement status : PyJson}
    (qualified : isQualified manifest = true) (declares : (declaredBuild profile).isNone = false)
    (known : status = .str "not-applicable".toList ∨ status = .str "not-configured".toList)
    (silent : unenforcedProblems report manifest profile configuration enforcement status = []) :
    False := by
  have notUnqualified : isUnqualified manifest = false := by
    have status := PyJson.equals_str_right.mp qualified
    rw [isUnqualified, status]
    rfl
  simp only [unenforcedProblems, List.append_eq_nil_iff] at silent
  obtain ⟨⟨reason, _⟩, rest⟩ := silent
  obtain rfl | rfl := known
  · have applicable : (!(PyJson.str "not-applicable".toList).equals
        (.str "not-applicable".toList)) = false := rfl
    simp only [applicable, Bool.false_eq_true, if_false, check_eq_nil, Bool.or_eq_true] at reason rest
    unfold notApplicableProblems at rest
    rw [notUnqualified] at rest
    split at rest
    · rw [check_eq_nil] at rest
      cases rest
    · next other =>
        rw [if_pos (reason.resolve_left other), check_eq_nil] at rest
        cases rest
  · have applicable : (!(PyJson.str "not-configured".toList).equals
        (.str "not-applicable".toList)) = true := rfl
    rw [if_pos applicable, check_eq_nil, declares] at rest
    cases rest

/-- In a qualified manifest of a profile with build budgets a report without problems meets all
of them. -/
theorem budgetsMet_of_valid (valid : validateSizeReport report manifest profile = [])
    (qualified : isQualified manifest = true) (declares : (declaredBuild profile).isNone = false)
    (distinct : (namesOf ((report.get "budgets").get "build")).Nodup) :
    Sized report manifest ∧ BudgetsMet report profile := by
  obtain ⟨sized, enforced⟩ := validateSizeReport_eq_nil valid
  refine ⟨sized, ?_⟩
  simp only [enforcementProblems, List.append_eq_nil_iff, check_eq_nil] at enforced
  obtain ⟨⟨known, profileSilent⟩, enforced⟩ := enforced
  obtain ⟨status, listed, held⟩ := isIn_eq_true.mp known
  rw [held] at enforced
  simp only [List.mem_cons, List.not_mem_nil, or_false] at listed
  obtain rfl | rfl | rfl := listed
  · exact budgetsMet_of_passed profileSilent enforced distinct
  · exact (not_unenforced qualified declares (.inl rfl) enforced).elim
  · exact (not_unenforced qualified declares (.inr rfl) enforced).elim

/-! ## Budgets of certificates -/

variable {tables : PythonTables} {repo : Repository} {requireQualified allowRevoked : Bool}
  {profileName : Str}

/-- The size report that a manifest carries. -/
def sizeReportOf (manifest : PyJson) : PyJson := (manifest.get "resources").get "report"

theorem buildBudgets_of_declared {declared : PyJson} (dict : declared.isDict = true)
    (declares : (declaredBuild (some declared)).isNone = false) :
    ((declared.get "budgets").get? "build").isSome = true := by
  cases held : declared.get? "budgets" with
  | none =>
      have empty : declaredBudgets (some declared) = .dict [] := by
        simp [declaredBudgets, profileField, dict, held]
      rw [declaredBuild, empty] at declares
      cases declares
  | some budgets =>
      have same : declaredBudgets (some declared) = budgets := by
        simp [declaredBudgets, profileField, dict, held]
      rw [get_of_get? held]
      rw [declaredBuild, same, PyJson.get] at declares
      cases build : budgets.get? "build" with
      | none =>
          rw [build] at declares
          cases declares
      | some value => rfl

/-- A certificate of a profile with build budgets carries a size report of its image that meets
all of them, unless it is one of the releases that are older than the reports. -/
theorem budgets_of_certificate {manifest declared : LoadedJson}
    (valid : validate tables repo requireQualified allowRevoked = .ok ([], none))
    (loaded : repo.manifest = .content manifest) (qualified : isQualified manifest.value = true)
    (named : manifest.value.get "profile" = .str profileName)
    (profiled : repo.profiles profileName = .content declared)
    (declares : (declaredBuild (some declared.value)).isNone = false)
    (recent : (sizeReportGrandfathered.any fun key =>
      key.toList == releaseKey tables manifest.value
        (dictOrEmpty (manifest.value.get "embedded"))) = false) :
    Sized (sizeReportOf manifest.value) manifest.value ∧
      BudgetsMet (sizeReportOf manifest.value) (some declared.value) := by
  have distinct : (namesOf (((sizeReportOf manifest.value).get "budgets").get "build")).Nodup := by
    apply nodup_namesOf
    apply wellFormed_get
    apply wellFormed_get
    apply wellFormed_get
    exact wellFormed_get manifest.wellFormed _
  obtain ⟨found, profileRead, _, resources, _⟩ :=
    checkManifest_eq_nil (checkManifest_of_validate valid loaded)
  obtain ⟨_, rfl⟩ := checkProfile_eq_ok named profiled profileRead
  have dict : declared.value.isDict = true := by
    cases held : declared.value with
    | dict entries => rfl
    | _ =>
        rw [held] at declares
        cases declares
  unfold checkResources at resources
  simp only at resources
  split at resources
  · rw [check_eq_nil, recent, Option.any_some, buildBudgets_of_declared dict declares] at resources
    cases resources
  · split at resources
    · exact budgetsMet_of_valid resources qualified declares distinct
    · cases resources

/-! ## A certificate with a budget -/

def sampleBudgets : Str × PyJson :=
  ("budgets".toList, .dict [("build".toList, .dict [("imageBytes".toList, .int 4)])])

def sampleMetrics : PyJson :=
  .dict [("imageBytes".toList, .int 1), ("flashTextBytes".toList, .int 0),
    ("flashRodataBytes".toList, .int 0), ("iramTextBytes".toList, .int 1),
    ("initializedDataBytes".toList, .int 2), ("dramBssBytes".toList, .int 3),
    ("staticRamBytes".toList, .int 6)]

/-- The size report of an image of one byte. -/
def sampleReport : PyJson :=
  .dict [("schemaVersion".toList, .int 1), textField "kind" "build-size",
    textField "profile" "esp32c6-zenoh", textField "application" "agent",
    textField "platform" "esp32c6", textField "transport" "zenoh-pico",
    hexField "coreRevision" 'a' 40,
    ("configuration".toList, .dict [textField "name" "default", hexField "sdkconfigSha256" 'f' 64,
      ("networkConfigured".toList, .bool false)]),
    ("metrics".toList, sampleMetrics),
    ("image".toList, .dict [("bytes".toList, .int 1), hexField "sha256" 'b' 64,
      ("appPartitionBytes".toList, .int 2), ("partitionHeadroomBytes".toList, .int 1)]),
    ("budgets".toList, .dict [("basis".toList, .none),
      ("build".toList, .dict [("imageBytes".toList, .int 4)])]),
    ("enforcement".toList, .dict [textField "status" "passed",
      ("results".toList, .list [.dict [textField "metric" "imageBytes", ("measured".toList, .int 1),
        ("budget".toList, .int 4), ("headroomBytes".toList, .int 3),
        ("passed".toList, .bool true)]])])]

def sampleResources : PyJson :=
  .dict [("available".toList, .bool true), ("report".toList, sampleReport)]

theorem budgets_of_certificate_sample :
    Sized sampleReport (sampleManifest sampleResources) ∧
      BudgetsMet sampleReport (some (sampleProfile [sampleBudgets])) := by
  have valid : validate asciiTables (sampleRepository sampleResources [sampleBudgets]) true false =
      .ok ([], none) := validate_sample (by decide +kernel)
  have manifest : (sampleManifest sampleResources).wellFormed = true := by decide +kernel
  have profile : (sampleProfile [sampleBudgets]).wellFormed = true := by decide +kernel
  have qualified : isQualified (sampleManifest sampleResources) = true := by decide +kernel
  have recent : (sizeReportGrandfathered.any fun key =>
      key.toList == releaseKey asciiTables (sampleManifest sampleResources)
        (dictOrEmpty ((sampleManifest sampleResources).get "embedded"))) = false := by
    decide +kernel
  exact budgets_of_certificate valid (JsonFile.ofValue_eq manifest) qualified rfl
    (JsonFile.ofValue_eq profile) rfl recent

end AxolotyEmbedded.Release
