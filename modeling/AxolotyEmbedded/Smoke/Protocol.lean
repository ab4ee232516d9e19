import AxolotyEmbedded.Smoke.Emission

/-!
The stream of the smoke firmware before the host validator. The first `2 ^ 32` lines are
the records the validator's chain expects. The stream is accepted exactly when the checks
are the expected ones, no name of them means something else to the validator, and the
sequence does not wrap; printed lines in another order or number are not accepted.
-/
namespace AxolotyEmbedded.Smoke.Firmware
open Transition

variable {convert : JsValue → Option (BitVec 32)} {build : Build} {calls : List Call}
  {metrics : Metrics} {v : Validator}

/-- The lines of a run, as the host reads them. -/
def stream (build : Build) (calls : List Call) (metrics : Metrics) : List Text :=
  (runSmoke build calls metrics).map line

def records (build : Build) (calls : List Call) (metrics : Metrics) : List JsValue :=
  (runSmoke build calls metrics).map recordOf

/-- Every check passed or is an allowed unsupported one, and their names are the expected
tests, each once. -/
def AllExpected (v : Validator) (calls : List Call) : Prop :=
  (∀ call ∈ calls, call.isOk = true
    ∨ call.isUnsupported = true ∧ call.name ∈ v.unsupportedTestsAllowed)
  ∧ (calls.map Call.name).Nodup ∧ (calls.map Call.name).toFinset = v.expectedTests

instance (v : Validator) (calls : List Call) : Decidable (AllExpected v calls) :=
  inferInstanceAs (Decidable (_ ∧ _ ∧ _))

/-- A name that no other kind of record has and that holds no fatal fragment. -/
def Distinctive (name : Text) : Prop :=
  name ∉ [text "boot", text "summary", text "completion"] ∧ isFatal name = false

instance (name : Text) : Decidable (Distinctive name) := inferInstanceAs (Decidable (_ ∧ _))

/-! ### Lines and records -/

theorem parse_stream (named : ∀ call ∈ calls, CaseName call.name) :
    (stream build calls metrics).map jsonParse = (records build calls metrics).map some := by
  rw [stream, records, List.map_map, List.map_map]
  exact List.map_congr_left fun members member => jsonParse_runSmoke named member

theorem record_lines {lines : List Text} (printed : ∀ l ∈ lines, l ∈ stream build calls metrics) :
    lines.filter isRecordLine = lines := by
  rw [List.filter_eq_self]
  intro l member
  obtain ⟨members, _, rfl⟩ := List.mem_map.mp (printed l member)
  exact isRecordLine_line members

theorem holds_stream (named : ∀ call ∈ calls, CaseName call.name) :
    Holds (stream build calls metrics) (records build calls metrics) := by
  rw [Holds, record_lines fun _ => id, parse_stream named]

/-- The records of the first lines are the first records. -/
theorem records_of_leading (named : ∀ call ∈ calls, CaseName call.name) {lines : List Text}
    {read : List JsValue} (within : lines <+: stream build calls metrics)
    (holds : Holds lines read) : read = (records build calls metrics).take lines.length := by
  rw [Holds, record_lines fun l member => within.subset member] at holds
  have first : lines = (stream build calls metrics).take lines.length :=
    List.prefix_iff_eq_take.mp within
  have parsed : lines.map jsonParse =
      ((records build calls metrics).take lines.length).map some := by
    conv_lhs => rw [first]
    rw [List.map_take, parse_stream named, List.map_take]
  exact List.map_injective_iff.mpr (Option.some_injective JsValue) (holds.symm.trans parsed)

/-- Among the first `2 ^ 32` lines, the line after lines that left no failure passes the
checks of schema, sequence and checksum. -/
theorem commonFailure_next (named : ∀ call ∈ calls, CaseName call.name)
    (run : v.runId = build.runId) {before : List Text} {l : Text} {s : State}
    (within : before ++ [l] <+: stream build calls metrics) (room : before.length < 2 ^ 32)
    (fed : feed convert v State.initial before = some s) (clean : s.failure = none) :
    ∃ record, jsonParse l = some record ∧ commonFailure convert v s record = some none := by
  obtain ⟨rest, whole⟩ := within
  rw [List.append_assoc, stream, eq_comm, List.map_eq_append_iff] at whole
  obtain ⟨first, others, split, rfl, ends⟩ := whole
  cases others with
  | nil => cases ends
  | cons members others =>
      obtain ⟨rfl, _⟩ := List.cons.inj ends
      rw [List.length_map] at room
      have among : members ∈ runSmoke build calls metrics := by simp [split]
      refine ⟨recordOf members, jsonParse_runSmoke named among, ?_⟩
      obtain ⟨_, read, holds, reads⟩ := run_of_feed rfl fed clean
      have same : read = first.map recordOf := by
        have printed : first.map line <+: stream build calls metrics := by
          rw [stream, split, List.map_append]
          exact List.prefix_append _ _
        rw [records_of_leading named printed holds, records, split, List.map_append, List.length_map,
          List.take_left' (List.length_map recordOf)]
      obtain ⟨_, chain, _⟩ := read_of_run reads
      obtain ⟨k, last, upTo⟩ := chain_runSmoke convert build named metrics
        (show first.length + 1 ≤ 2 ^ 32 by omega)
      have upToNext : (records build calls metrics).take (first.length + 1) =
          first.map recordOf ++ [recordOf members] := by
        have size : first.length + 1 = (first.map recordOf).length + 1 := by
          rw [List.length_map]
        rw [records, split, List.map_append, size, List.take_length_add_append, List.map_cons,
          List.take_succ_cons, List.take_zero]
      rw [← records, upToNext] at upTo
      obtain ⟨n, middle, earlier, own, linked, _⟩ := chain_append.mp upTo
      rw [same, run] at chain
      obtain ⟨rfl, rfl⟩ := chain_unique earlier chain
      exact commonFailure_iff.mpr ⟨own, run ▸ linked⟩

/-! ### The observed lines of an accepted stream -/

/-- Only the completion says that the run is complete. -/
theorem operation_records {record : JsValue} {first : List JsValue} {last : JsValue}
    (all : records build calls metrics = first ++ [last]) (among : record ∈ first) :
    isText (record.field (text "operation")) (text "complete") = false := by
  have others : ∀ members ∈ (boot build).1 :: (emitAll build (boot build).2 calls).1
      ++ [(summary build (after build calls)).1],
      isText ((recordOf members).field (text "operation")) (text "complete") = false := by
    have unlike : ∀ {record : JsValue} {operation stage status : Text},
        Reports record operation stage status → operation ≠ text "complete" →
          isText (record.field (text "operation")) (text "complete") = false := by
      intro record operation stage status reports other
      exact Bool.eq_false_iff.mpr fun same => other (isText_unique reports.1 same)
    rw [List.cons_append, List.forall_mem_cons, List.forall_mem_append, List.forall_mem_singleton]
    refine ⟨rfl, forall_emitAll _ fun call _ members emitted => unlike emitted.reports (by decide), ?_⟩
    rw [summary_eq]
    exact unlike (reports_record (summaryExtra_extra _)) (by decide)
  have split : records build calls metrics =
      ((boot build).1 :: (emitAll build (boot build).2 calls).1
        ++ [(summary build (after build calls)).1]).map recordOf
        ++ [recordOf (completion build (summary build (after build calls)).2 metrics)] := by
    simp [records, runSmoke_eq]
  rw [split] at all
  obtain ⟨same, _⟩ := List.append_inj' all rfl
  rw [← same] at among
  obtain ⟨members, member, rfl⟩ := List.mem_map.mp among
  exact others members member

/-- An accepted stream whose observed lines begin a run is the whole run. -/
theorem whole_of_accepted (named : ∀ call ∈ calls, CaseName call.name) {lines : List Text}
    {read : List JsValue} {s : State} (within : lines <+: stream build calls metrics)
    (holds : Holds lines read) (run : Run (accept convert v) unguarded State.initial read s)
    (accepted : (result v s).passed = true) :
    lines = stream build calls metrics
      ∧ ∃ boot tests summary completion m last,
        records build calls metrics = boot :: tests ++ [summary, completion]
        ∧ Chain convert v.runId 0 0 (records build calls metrics) m last
        ∧ Complete v boot tests summary completion := by
  obtain ⟨boot, tests, summary, completion, m, last, rfl, chain, complete⟩ :=
    complete_of_run run accepted
  have initial := records_of_leading named within holds
  have begins : boot :: tests ++ [summary] ++ [completion] <+: records build calls metrics := by
    rw [List.append_assoc, List.singleton_append]
    exact initial ▸ List.take_prefix _ _
  obtain ⟨first, final, split⟩ : ∃ first final, records build calls metrics = first ++ [final] :=
    ⟨_, _, (List.dropLast_append_getLast (by simp [records, runSmoke_eq])).symm⟩
  have all : boot :: tests ++ [summary] ++ [completion] = records build calls metrics := by
    rw [split] at begins ⊢
    cases List.prefix_concat_iff.mp begins with
    | inl same => exact same
    | inr early =>
        have among : completion ∈ first := early.subset (by simp)
        have other := operation_records split among
        rw [complete.completed.reports.1] at other
        cases other
  rw [List.append_assoc, List.singleton_append] at all
  rw [all] at initial chain
  have long : (stream build calls metrics).length ≤ lines.length := by
    have size := congrArg List.length initial
    rw [List.length_take] at size
    simp only [records, stream, List.length_map] at size ⊢
    omega
  exact ⟨within.eq_of_length (le_antisymm within.length_le long), boot, tests, summary, completion,
    m, last, all.symm, chain, complete⟩

/-! ### Calls and their records -/

theorem EmittedAs.isUnsupported {call : Call} {members : Members}
    (emitted : EmittedAs build call members) :
    Smoke.isUnsupported (recordOf members) = call.isUnsupported := by
  rw [Smoke.isUnsupported, isText_iff.mp emitted.reports.2.2]
  cases call with
  | record name ok => cases ok <;> rfl
  | recordUnsupported name => rfl

/-- A record counts as passed where its check passed or is an allowed unsupported one. -/
theorem EmittedAs.testPassed {call : Call} {members : Members}
    (emitted : EmittedAs build call members) :
    TestPassed v (recordOf members) ↔
      call.isOk = true ∨ call.isUnsupported = true ∧ call.name ∈ v.unsupportedTestsAllowed := by
  have reports := emitted.reports
  have unlike : ∀ {status : Text}, call.status ≠ status →
      ¬Reports (recordOf members) (text "smokeCheck") (text "execute") status :=
    fun other same => other (isText_unique reports.2.2 same.2.2)
  rw [TestPassed, emitted.caseId]
  cases call with
  | record name ok =>
      cases ok with
      | true => simp [Call.isOk, show Reports _ _ _ (text "passed") from reports]
      | false =>
          simp [Call.isOk, Call.isUnsupported, unlike (show text "failed" ≠ text "passed" by decide),
            unlike (show text "failed" ≠ text "unsupported" by decide)]
  | recordUnsupported name =>
      have quiet : (recordOf members).field (text "diagnostic") = none := by
        obtain ⟨sequence, own, rfl⟩ := emitted
        rw [field_extra (by decide)]
        rfl
      simp [Call.isOk, Call.isUnsupported, Call.name, quiet,
        show Reports _ _ _ (text "unsupported") from reports,
        unlike (show text "unsupported" ≠ text "passed" by decide)]

/-- The records between boot and summary. -/
def checkRecords (build : Build) (calls : List Call) : List JsValue :=
  (emitAll build (boot build).2 calls).1.map recordOf

theorem map_checkRecords {α : Type} {f : JsValue → α} {g : Call → α}
    (same : ∀ call members, EmittedAs build call members → f (recordOf members) = g call) :
    (checkRecords build calls).map f = calls.map g := by
  rw [checkRecords, List.map_map]
  have emitted : List.Forall₂ (EmittedAs build) calls (emitAll build (boot build).2 calls).1 :=
    emitAll_emitted _ calls
  generalize (emitAll build (boot build).2 calls).1 = checks at emitted
  induction emitted with
  | nil => rfl
  | cons first _ ih => exact congrArg₂ List.cons (same _ _ first) ih

theorem names_checkRecords : (checkRecords build calls).map caseIdOf = calls.map Call.name :=
  map_checkRecords fun _ _ emitted => emitted.caseId

theorem passed_checkRecords :
    (∀ test ∈ checkRecords build calls, TestPassed v test) ↔
      ∀ call ∈ calls, call.isOk = true
        ∨ call.isUnsupported = true ∧ call.name ∈ v.unsupportedTestsAllowed := by
  have same : (checkRecords build calls).map (TestPassed v) = calls.map fun call =>
      call.isOk = true ∨ call.isUnsupported = true ∧ call.name ∈ v.unsupportedTestsAllowed :=
    map_checkRecords fun _ _ emitted => propext emitted.testPassed
  calc (∀ test ∈ checkRecords build calls, TestPassed v test)
      ↔ ∀ p ∈ (checkRecords build calls).map (TestPassed v), p := by
        simp only [List.forall_mem_map]
    _ ↔ _ := by
        simp only [same, List.forall_mem_map]

theorem countP_checkRecords (f : Bool → Bool) :
    (checkRecords build calls).countP (fun record => f (Smoke.isUnsupported record)) =
      calls.countP fun call => f call.isUnsupported := by
  have same : (checkRecords build calls).map Smoke.isUnsupported = calls.map Call.isUnsupported :=
    map_checkRecords fun _ _ emitted => emitted.isUnsupported
  calc (checkRecords build calls).countP (fun record => f (Smoke.isUnsupported record))
      = ((checkRecords build calls).map Smoke.isUnsupported).countP f := List.countP_map.symm
    _ = calls.countP fun call => f call.isUnsupported := by
        rw [same]
        exact List.countP_map

theorem records_eq (calls : List Call) (metrics : Metrics) :
    records build calls metrics = recordOf (boot build).1 :: checkRecords build calls
      ++ [recordOf (summary build (after build calls)).1,
        recordOf (completion build (summary build (after build calls)).2 metrics)] := by
  simp [records, runSmoke_eq, checkRecords]

theorem exists_emitAll {call : Call} (e : Emitter) (among : call ∈ calls) :
    ∃ members ∈ (emitAll build e calls).1, EmittedAs build call members := by
  induction calls generalizing e with
  | nil => cases among
  | cons first calls ih =>
      cases List.mem_cons.mp among with
      | inl same => exact ⟨_, List.mem_cons_self, _, _, by rw [same]⟩
      | inr later =>
          obtain ⟨members, member, emitted⟩ := ih _ later
          exact ⟨members, List.mem_cons_of_mem _ member, emitted⟩

theorem EmittedAs.name_infix {call : Call} {members : Members}
    (emitted : EmittedAs build call members) : call.name <:+: line members := by
  obtain ⟨sequence, own, rfl⟩ := emitted
  have among : (text "caseId", Printed.string call.name) ∈ printPrefix build.runId call.name
      (text "smokeCheck") (text "execute") call.status sequence own ++ call.diagnostic := by
    simp [printPrefix]
  exact infix_line among

/-! ### Acceptance -/

/-- Accepted streams have the expected checks under names that mean nothing else, and their
sequence does not wrap. -/
theorem expected_of_passed (named : ∀ call ∈ calls, CaseName call.name)
    (accepted : passed convert v (stream build calls metrics) = true) :
    AllExpected v calls ∧ (∀ call ∈ calls, Distinctive call.name)
      ∧ calls.length + 3 ≤ 2 ^ 32 := by
  obtain ⟨s, fed, accepted⟩ := passed_iff.mp accepted
  rw [observeAll_eq_feed] at fed
  obtain ⟨harmless, read, holds, reads⟩ := run_of_feed rfl fed (result_passed_iff.mp accepted).1
  obtain ⟨same, first, tests, total, final, m, last, split, chain, complete⟩ :=
    whole_of_accepted named (observed_leads _ _) holds reads accepted
  rw [same] at harmless
  have unreserved := unreserved_of_run reads accepted
  rw [records_eq] at split
  obtain ⟨starts, ends⟩ := List.append_inj' split rfl
  obtain ⟨rfl, rfl⟩ := List.cons.inj starts
  have all := complete.tested.all
  have once := complete.tested.once
  rw [names_checkRecords] at all once
  refine ⟨⟨passed_checkRecords.mp complete.tested.passed, once, all⟩, fun call among => ⟨?_, ?_⟩, ?_⟩
  · have expected : call.name ∈ v.expectedTests := by
      rw [← all, List.mem_toFinset]
      exact List.mem_map_of_mem among
    have apart := Finset.disjoint_left.mp unreserved expected
    simpa using apart
  · obtain ⟨members, member, emitted⟩ := exists_emitAll (boot build).2 among
    have printed : line members ∈ stream build calls metrics :=
      List.mem_map_of_mem (List.mem_cons_of_mem _ (List.mem_append_left _ member))
    exact Quiet.infix (harmless _ printed) emitted.name_infix
  · have last_record : (records build calls metrics)[calls.length + 2]? =
        some (recordOf (completion build (summary build (after build calls)).2 metrics)) := by
      rw [records_eq, List.getElem?_append_right (by simp [checkRecords, length_emitAll])]
      simp [checkRecords, length_emitAll]
    have position := chain_position chain last_record
    obtain ⟨own, -, same⟩ := completion_eq build (summary build (after build calls)).2 metrics
    rw [same, field_append_prefixed (completionExtra_extra _ _ _) (by decide), prefixField_sequence,
      isNumber_num, Nat.cast_inj] at position
    have bound := (summary build (after build calls)).2.sequence.isLt
    omega

def QuietMembers (members : Members) : Prop := ∀ m ∈ members, Quiet m.1 ∧ m.2.Quiet

theorem quiet_leading {caseId operation stage status : Text} {sequence own : BitVec 32}
    (quietCase : Quiet caseId) (quietOperation : Quiet operation) (quietStage : Quiet stage)
    (quietStatus : Quiet status) :
    QuietMembers (printPrefix build.runId caseId operation stage status sequence own) := by
  have runId : Quiet build.runId := runId_cases (by decide) (by decide)
  simp only [QuietMembers, printPrefix, List.forall_mem_cons, Printed.Quiet, and_true, runId,
    quietCase, quietOperation, quietStage, quietStatus]
  refine ⟨?_, ?_, ?_, ?_, ?_, ?_, ?_, ?_, fun _ member => by cases member⟩ <;> decide

theorem counts_quiet (e : Emitter) : Quiet (counts e).1 ∧ (counts e).2.Quiet := by
  refine ⟨show Quiet (text "counts") by decide, ?_⟩
  rw [counts]
  split
  · simp only [Printed.Quiet, List.cons_append, List.nil_append, List.forall_mem_cons]
    refine ⟨?_, ?_, ?_, fun _ member => by cases member⟩ <;> decide
  · simp only [Printed.Quiet, List.append_nil, List.forall_mem_cons]
    refine ⟨?_, ?_, fun _ member => by cases member⟩ <;> decide

theorem metrics_quiet (metrics : Metrics) : ∀ m ∈ metrics.members, Quiet m.1 := by
  have names : ∀ name ∈ metrics.members.map Prod.fst, Quiet name := by
    rw [show metrics.members.map Prod.fst = metricNames from rfl]
    decide
  exact fun m member => names m.1 (List.mem_map_of_mem member)

theorem EmittedAs.quiet {call : Call} {members : Members} (emitted : EmittedAs build call members)
    (name : Quiet call.name) (kept : call.isFailed = false) : Quiet (line members) := by
  obtain ⟨sequence, own, rfl⟩ := emitted
  have silent : call.diagnostic = [] := by
    cases call with
    | record name ok =>
        cases ok with
        | true => rfl
        | false => cases kept
    | recordUnsupported name => rfl
  rw [silent, List.append_nil]
  exact quiet_line (quiet_leading name (by decide) (by decide)
    (status_cases call (by decide) (by decide) (by decide)))

theorem summary_quiet (e : Emitter) : Quiet (line (summary build e).1) := by
  refine quiet_line ?_
  rw [summary_eq, List.forall_mem_append, summaryExtra, List.forall_mem_cons]
  refine ⟨quiet_leading (by decide) (by decide) (by decide)
    (summaryStatus_cases _ (by decide) (by decide)), counts_quiet e, ?_⟩
  split
  · rw [List.forall_mem_singleton]
    exact ⟨show Quiet (text "diagnostic") by decide,
      show Quiet (text "one or more execution checks failed") by decide⟩
  · exact List.forall_mem_nil _

theorem completion_quiet (e : Emitter) (metrics : Metrics) :
    Quiet (line (completion build e metrics)) := by
  obtain ⟨own, -, same⟩ := completion_eq build e metrics
  refine quiet_line ?_
  rw [same, List.forall_mem_append, completionExtra, List.cons_append, List.cons_append,
    List.forall_mem_cons, List.forall_mem_cons, List.forall_mem_append, List.forall_mem_singleton]
  refine ⟨quiet_leading (by decide) (by decide) (by decide)
    (summaryStatus_cases _ (by decide) (by decide)), counts_quiet e,
    ⟨show Quiet (text "finalChecksum") by decide, trivial⟩, ?_,
    show Quiet (text "metrics") by decide, metrics_quiet metrics⟩
  split
  · rw [List.forall_mem_singleton]
    exact ⟨show Quiet (text "diagnostic") by decide,
      show Quiet (text "completion reflects failed execution checks") by decide⟩
  · exact List.forall_mem_nil _

/-- The lines of a run without failed checks are harmless when the names are. -/
theorem quiet_stream (kept : ∀ call ∈ calls, call.isFailed = false)
    (names : ∀ call ∈ calls, Quiet call.name) :
    ∀ l ∈ stream build calls metrics, isFatal l = false := by
  rw [stream, List.forall_mem_map, runSmoke_eq, List.cons_append, List.forall_mem_cons,
    List.forall_mem_append, List.forall_mem_cons, List.forall_mem_singleton]
  exact ⟨quiet_line (quiet_leading (by decide) (by decide) (by decide) (by decide)),
    forall_emitAll _ fun call among members emitted =>
      emitted.quiet (names call among) (kept call among),
    summary_quiet _, completion_quiet _ _⟩

variable (build) in
/-- Without failed checks, summary and completion count the calls. -/
theorem counted_after (kept : ∀ call ∈ calls, call.isFailed = false)
    (room : calls.length + 3 ≤ 2 ^ 32) :
    (after build calls).passed.toNat = (checkRecords build calls).countP (!Smoke.isUnsupported ·)
      ∧ (after build calls).failed = 0
      ∧ (after build calls).unsupported.toNat =
        (checkRecords build calls).countP Smoke.isUnsupported := by
  obtain ⟨passed, failed, unsupported⟩ :=
    emitAll_counts (boot build).2 ⟨Nat.zero_le _, Nat.zero_le _, Nat.zero_le _⟩
      (show 1 + calls.length < 2 ^ 32 by omega)
  have noneFailed : calls.countP Call.isFailed = 0 := by
    rw [List.countP_eq_zero]
    intro call among failed
    rw [kept call among] at failed
    cases failed
  have others : calls.countP Call.isOk = calls.countP (!Call.isUnsupported ·) := by
    apply List.countP_congr
    intro call among
    have good := kept call among
    cases call with
    | record name ok =>
        cases ok with
        | true => simp [Call.isOk, Call.isUnsupported]
        | false => cases good
    | recordUnsupported name => simp [Call.isOk, Call.isUnsupported]
  refine ⟨?_, BitVec.eq_of_toNat_eq ?_, ?_⟩
  · rw [countP_checkRecords not, ← others]
    exact passed.trans (Nat.zero_add _)
  · exact failed.trans (by rw [noneFailed]; rfl)
  · exact (unsupported.trans (Nat.zero_add _)).trans (countP_checkRecords id).symm

theorem passed_of_expected (named : ∀ call ∈ calls, CaseName call.name)
    (run : v.runId = build.runId) (expected : AllExpected v calls)
    (distinctive : ∀ call ∈ calls, Distinctive call.name) (room : calls.length + 3 ≤ 2 ^ 32) :
    passed convert v (stream build calls metrics) = true := by
  obtain ⟨allowed, once, all⟩ := expected
  have kept : ∀ call ∈ calls, call.isFailed = false := by
    intro call among
    have good := allowed call among
    cases call with
    | record name ok => simpa [Call.isOk, Call.isUnsupported, Call.isFailed] using good
    | recordUnsupported name => rfl
  have harmless : ∀ l ∈ stream build calls metrics, isFatal l = false :=
    quiet_stream kept fun call among => (distinctive call among).2
  have reserved : Disjoint v.expectedTests {text "boot", text "summary", text "completion"} := by
    rw [Finset.disjoint_left, ← all]
    intro name expected other
    obtain ⟨call, among, rfl⟩ := List.mem_map.mp (List.mem_toFinset.mp expected)
    exact (distinctive call among).1 (by simpa using other)
  obtain ⟨k, last, chain⟩ := chain_runSmoke convert build named metrics room
  rw [List.take_of_length_le (by rw [List.length_map, length_runSmoke]), ← records, ← run] at chain
  obtain ⟨passed, failed, unsupported⟩ := counted_after build kept room
  have status : summaryStatus (after build calls) = text "completed" := if_pos failed
  have complete : Complete v (recordOf (boot build).1) (checkRecords build calls)
      (recordOf (summary build (after build calls)).1)
      (recordOf (completion build (summary build (after build calls)).2 metrics)) := by
    refine ⟨⟨rfl, rfl, rfl, rfl⟩, ⟨passed_checkRecords.mpr allowed, ?_, ?_⟩, ?_, ?_⟩
    · rw [names_checkRecords]
      exact once
    · rw [names_checkRecords]
      exact all
    · rw [summary_eq, status]
      refine ⟨caseIdOf_record (summaryExtra_extra _), reports_record (summaryExtra_extra _),
        counts_of_counts ?_ passed (failed ▸ rfl) unsupported⟩
      rw [field_extra (by decide), field_counts_summary]
    · obtain ⟨own, -, same⟩ := completion_eq build (summary build (after build calls)).2 metrics
      have finished : summaryStatus (summary build (after build calls)).2 = text "completed" := status
      rw [same, finished]
      have extra := completionExtra_extra (summary build (after build calls)).2 own metrics
      refine ⟨caseIdOf_record extra, reports_record extra,
        counts_of_counts (e := (summary build (after build calls)).2) ?_ passed (failed ▸ rfl)
          unsupported, sameNumber_iff.mpr ⟨own.toNat, ?_, ?_⟩⟩
      · rw [field_extra (by decide), field_counts_completion]
      · rw [field_extra (by decide), field_final_completion]
      · rw [field_append_prefixed extra (by decide), prefixField_checksum]
  rw [records_eq] at chain
  obtain ⟨s, reads, accepted⟩ := run_of_complete reserved chain complete
  rw [← records_eq] at reads
  exact passed_iff.mpr ⟨s, observeAll_of_run rfl harmless (holds_stream named) reads, accepted⟩

/-! ### Other sequences of printed lines -/

/-- The sequence number that is printed on a line is its place. -/
theorem place_of_line (named : ∀ call ∈ calls, CaseName call.name)
    (room : calls.length + 3 ≤ 2 ^ 32) {l : Text} {i : Nat}
    (place : (stream build calls metrics)[i]? = some l) :
    ∃ record, jsonParse l = some record
      ∧ isNumber (record.field (text "sequence")) (i : ℚ) = true := by
  obtain ⟨_, _, all⟩ := chain_runSmoke (fun _ => some 0) build named metrics room
  rw [List.take_of_length_le (by rw [List.length_map, length_runSmoke]), ← records] at all
  have parsed := congrArg (·[i]?)
    (parse_stream named : (stream build calls metrics).map jsonParse = _)
  simp only [List.getElem?_map, place, Option.map_some] at parsed
  obtain ⟨record, at_i, same⟩ := Option.map_eq_some_iff.mp parsed.symm
  have position := chain_position all at_i
  rw [Nat.zero_add] at position
  exact ⟨record, same.symm, position⟩

theorem place_unique (named : ∀ call ∈ calls, CaseName call.name)
    (room : calls.length + 3 ≤ 2 ^ 32) {l : Text} {i j : Nat}
    (one : (stream build calls metrics)[i]? = some l)
    (other : (stream build calls metrics)[j]? = some l) : i = j := by
  obtain ⟨record, parsed, position⟩ := place_of_line named room one
  obtain ⟨record', parsed', position'⟩ := place_of_line named room other
  obtain rfl := Option.some.inj (parsed.symm.trans parsed')
  rw [isNumber_iff.mp position, isNumber_num, Nat.cast_inj] at position'
  exact position'

/-- Accepted lines of a run are in their places. -/
theorem prefix_of_chain (named : ∀ call ∈ calls, CaseName call.name)
    (room : calls.length + 3 ≤ 2 ^ 32) {lines : List Text} {read : List JsValue} {m : Nat}
    {last : BitVec 32} (printed : ∀ l ∈ lines, l ∈ stream build calls metrics)
    (holds : Holds lines read) (chain : Chain convert v.runId 0 0 read m last) :
    lines <+: stream build calls metrics := by
  rw [Holds, record_lines printed] at holds
  rw [List.prefix_iff_getElem?]
  intro k inside
  obtain ⟨i, place⟩ := List.getElem?_of_mem (printed lines[k] (List.getElem_mem inside))
  obtain ⟨record, parsed, position⟩ := place_of_line named room place
  have here := congrArg (·[k]?) holds
  simp only [List.getElem?_map] at here
  rw [List.getElem?_eq_getElem inside, Option.map_some, parsed] at here
  obtain ⟨record', read_k, same⟩ := Option.map_eq_some_iff.mp here.symm
  obtain rfl := Option.some.inj same
  have position' := chain_position chain read_k
  rw [isNumber_iff.mp position, isNumber_num, Nat.cast_inj, Nat.zero_add] at position'
  exact position' ▸ place

/-- Printed lines that are accepted begin with the whole stream. -/
theorem stream_prefix_of_passed (named : ∀ call ∈ calls, CaseName call.name)
    (room : calls.length + 3 ≤ 2 ^ 32) {lines : List Text}
    (printed : ∀ l ∈ lines, l ∈ stream build calls metrics)
    (accepted : passed convert v lines = true) : stream build calls metrics <+: lines := by
  obtain ⟨s, fed, accepted⟩ := passed_iff.mp accepted
  rw [observeAll_eq_feed] at fed
  obtain ⟨_, read, holds, reads⟩ := run_of_feed rfl fed (result_passed_iff.mp accepted).1
  obtain ⟨_, chain, _⟩ := read_of_run reads
  have within : observed convert v State.initial lines <+: lines := observed_leads _ lines
  have begins := prefix_of_chain named room (fun l member => printed l (within.subset member)) holds
    chain
  obtain ⟨same, _⟩ := whole_of_accepted named begins holds reads accepted
  exact same ▸ within

theorem getElem?_of_prefix {lines others : List Text} (within : lines <+: others) {k : Nat}
    (inside : k < lines.length) : others[k]? = lines[k]? := by
  rw [List.prefix_iff_getElem?.mp within k inside, List.getElem?_eq_getElem inside]

theorem mem_of_mem_set_set {lines : List Text} {i j : Nat} {a b l : Text} (hasA : a ∈ lines)
    (hasB : b ∈ lines) (member : l ∈ (lines.set i b).set j a) : l ∈ lines := by
  obtain among | rfl := List.mem_or_eq_of_mem_set member
  · obtain among | rfl := List.mem_or_eq_of_mem_set among
    · exact among
    · exact hasB
  · exact hasA

/-- No stream is accepted that lacks a line, repeats one or has two of them exchanged. -/
theorem altered_not_passed (named : ∀ call ∈ calls, CaseName call.name)
    (room : calls.length + 3 ≤ 2 ^ 32) :
    let lines := stream build calls metrics
    (∀ i, i < lines.length → passed convert v (lines.eraseIdx i) = false)
    ∧ (∀ i j l, lines[i]? = some l → i + 1 < lines.length → j < lines.length →
      passed convert v (lines.insertIdx j l) = false)
    ∧ ∀ i j a b, i < j → lines[i]? = some a → lines[j]? = some b →
      passed convert v ((lines.set i b).set j a) = false := by
  refine ⟨fun i inside => ?_, fun i j l place early inside => ?_, fun i j a b below first second => ?_⟩
  · rw [← Bool.not_eq_true]
    intro accepted
    have whole := stream_prefix_of_passed named room (fun l => List.mem_of_mem_eraseIdx) accepted
    have short := whole.length_le
    rw [List.length_eraseIdx_of_lt inside] at short
    omega
  · rw [← Bool.not_eq_true]
    intro accepted
    have printed : ∀ m ∈ (stream build calls metrics).insertIdx j l,
        m ∈ stream build calls metrics := by
      intro m member
      obtain rfl | among := (List.mem_insertIdx inside.le).mp member
      · exact List.mem_of_getElem? place
      · exact among
    have whole := stream_prefix_of_passed named room printed accepted
    have there := getElem?_of_prefix whole inside
    rw [List.getElem?_insertIdx_self, if_pos inside.le] at there
    obtain rfl := place_unique named room place there.symm
    -- The second copy stands where the next line belongs.
    have next := getElem?_of_prefix whole early
    rw [List.getElem?_insertIdx_of_gt (Nat.lt_add_one i), Nat.add_sub_cancel, place] at next
    exact absurd (place_unique named room place next.symm) (Nat.ne_of_lt (Nat.lt_add_one i))
  · rw [← Bool.not_eq_true]
    intro accepted
    have inside : i < (stream build calls metrics).length := (List.getElem?_eq_some_iff.mp first).1
    have whole := stream_prefix_of_passed named room
      (fun l => mem_of_mem_set_set (List.mem_of_getElem? first) (List.mem_of_getElem? second)) accepted
    have there := getElem?_of_prefix whole inside
    rw [List.getElem?_set_ne below.ne', List.getElem?_set_self inside] at there
    exact absurd (place_unique named room second there.symm) below.ne'

/-! ### The protocol -/

/-- The firmware's stream before the validator of its own run. -/
theorem smoke_protocol (convert : JsValue → Option (BitVec 32)) (build : Build)
    (expectedTests unsupportedTestsAllowed : Finset Text) (calls : List Call) (metrics : Metrics)
    (named : ∀ call ∈ calls, CaseName call.name) :
    let v : Validator := ⟨expectedTests, unsupportedTestsAllowed, build.runId⟩
    let lines := stream build calls metrics
    (∀ before l s, before ++ [l] <+: lines → before.length < 2 ^ 32 →
      feed convert v State.initial before = some s → s.failure = none →
        ∃ record, jsonParse l = some record ∧ commonFailure convert v s record = some none)
    ∧ (passed convert v lines = true ↔
      AllExpected v calls ∧ (∀ call ∈ calls, Distinctive call.name) ∧ calls.length + 3 ≤ 2 ^ 32)
    ∧ (passed convert v lines = true →
      (∀ i, i < lines.length → passed convert v (lines.eraseIdx i) = false)
      ∧ (∀ i j l, lines[i]? = some l → i + 1 < lines.length → j < lines.length →
        passed convert v (lines.insertIdx j l) = false)
      ∧ ∀ i j a b, i < j → lines[i]? = some a → lines[j]? = some b →
        passed convert v ((lines.set i b).set j a) = false) := by
  refine ⟨fun before l s within room fed clean => ?_, ⟨fun accepted => ?_, ?_⟩, fun accepted => ?_⟩
  · exact commonFailure_next named rfl within room fed clean
  · exact expected_of_passed named accepted
  · rintro ⟨expected, distinctive, room⟩
    exact passed_of_expected named rfl expected distinctive room
  · exact altered_not_passed named (expected_of_passed named accepted).2.2

theorem smoke_protocol_topic :
    passed (fun _ => some 0) ⟨{text "topic:exact"}, ∅, Build.withParser.runId⟩
      (stream .withParser [.record (text "topic:exact") true]
        ⟨0, 0, 0, 0, 0, 0, 0, 0, 0, 0, 0, 0, 0, 0, 0, 0, 0, 0, 0⟩) = true :=
  (smoke_protocol (fun _ => some 0) .withParser {text "topic:exact"} ∅
    [.record (text "topic:exact") true]
    ⟨0, 0, 0, 0, 0, 0, 0, 0, 0, 0, 0, 0, 0, 0, 0, 0, 0, 0, 0⟩ (by decide)).2.1.mpr
    ⟨by decide, by decide, by decide⟩

theorem caseName_decimal (n : Nat) : CaseName (Json.decimal n) := by
  intro u member
  have digit := Json.isDigit_of_mem_decimal member
  have bounds : 0x30 ≤ u.toNat ∧ u.toNat ≤ 0x39 := by simpa [Json.isDigit] using digit
  refine ⟨by omega, by omega, ?_, ?_⟩
  · rintro rfl
    exact absurd digit (by decide)
  · rintro rfl
    exact absurd digit (by decide)

/-- Names that make a passed check fatal or another kind of record, and a run whose sequence
wraps. -/
theorem expected_stream_rejected :
    (∀ name ∈ [text "abort()", text "summary"], ∀ convert metrics,
      let v : Validator := ⟨{name}, ∅, Build.withParser.runId⟩
      CaseName name ∧ AllExpected v [.record name true]
        ∧ passed convert v (stream .withParser [.record name true] metrics) = false)
    ∧ ∀ convert metrics,
      let calls := (List.range (2 ^ 32)).map fun n => Call.record (Json.decimal n) true
      let v : Validator := ⟨(calls.map Call.name).toFinset, ∅, Build.withParser.runId⟩
      (∀ call ∈ calls, CaseName call.name) ∧ AllExpected v calls
        ∧ passed convert v (stream .withParser calls metrics) = false := by
  refine ⟨fun name member convert metrics => ?_, fun convert metrics => ?_⟩
  · have each : ∀ name ∈ [text "abort()", text "summary"], CaseName name
        ∧ AllExpected ⟨{name}, ∅, Build.withParser.runId⟩ [.record name true]
        ∧ ¬Distinctive name := by decide
    obtain ⟨named, expected, ambiguous⟩ := each name member
    refine ⟨named, expected, Bool.eq_false_iff.mpr fun accepted => ambiguous ?_⟩
    have only : ∀ call ∈ [Call.record name true], CaseName call.name :=
      List.forall_mem_singleton.mpr named
    exact (expected_of_passed only accepted).2.1 _ (List.mem_singleton_self _)
  · intro calls v
    have named : ∀ call ∈ calls, CaseName call.name := by
      intro call among
      obtain ⟨n, -, rfl⟩ := List.mem_map.mp among
      exact caseName_decimal n
    have names : calls.map Call.name = (List.range (2 ^ 32)).map Json.decimal := List.map_map
    refine ⟨named, ⟨fun call among => ?_, ?_, rfl⟩, Bool.eq_false_iff.mpr fun accepted => ?_⟩
    · obtain ⟨n, -, rfl⟩ := List.mem_map.mp among
      exact .inl rfl
    · rw [names]
      exact List.nodup_range.map Json.decimal_injective
    · have short := (expected_of_passed named accepted).2.2
      simp only [calls, List.length_map, List.length_range] at short
      omega

end AxolotyEmbedded.Smoke.Firmware
