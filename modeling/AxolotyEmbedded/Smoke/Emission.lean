import AxolotyEmbedded.Smoke.Printed
import AxolotyEmbedded.Smoke.Acceptance

/-!
The records of a run of the smoke firmware: every line is the JSON text of its record,
and as long as the 32-bit sequence does not wrap the records are one chain of the
validator and the counters are the numbers of calls.
-/
namespace AxolotyEmbedded.Smoke.Firmware
open Transition

/-- A printable ASCII name without quotes and backslashes. -/
def CaseName (name : Text) : Prop :=
  ∀ u ∈ name, 0x20 ≤ u.toNat ∧ u.toNat < 0x7F ∧ u ≠ unit '"' ∧ u ≠ unit '\\'

instance (name : Text) : Decidable (CaseName name) := List.decidableBAll _ name

namespace Call

def isOk : Call → Bool
  | record _ ok => ok
  | recordUnsupported _ => false

def isFailed : Call → Bool
  | record _ ok => !ok
  | recordUnsupported _ => false

def isUnsupported : Call → Bool
  | record _ _ => false
  | recordUnsupported _ => true

end Call

theorem CaseName.plain {name : Text} (named : CaseName name) : Json.Plain name :=
  fun u member => ⟨(named u member).1, (named u member).2.2⟩

theorem CaseName.ascii {name : Text} (named : CaseName name) : Text.Ascii name := by
  intro u member
  have bounds := named u member
  omega

/-! ### The records of a run -/

variable {convert : JsValue → Option (BitVec 32)} {build : Build}

theorem runId_cases {P : Text → Prop} (first : P (text "embedded-swift-smoke-v2"))
    (second : P (text "embedded-swift-smoke-v3")) : P build.runId := by
  cases build with
  | withParser => exact first
  | withoutParser => exact second

theorem status_cases {P : Text → Prop} (call : Call) (passed : P (text "passed"))
    (failed : P (text "failed")) (unsupported : P (text "unsupported")) : P call.status := by
  cases call with
  | record name ok =>
      cases ok with
      | true => exact passed
      | false => exact failed
  | recordUnsupported name => exact unsupported

theorem plain_leads {caseId operation stage status : Text} {sequence own : BitVec 32}
    (plainCase : Json.Plain caseId) (plainOperation : Json.Plain operation)
    (plainStage : Json.Plain stage) (plainStatus : Json.Plain status) :
    PlainMembers (printPrefix build.runId caseId operation stage status sequence own) := by
  have plainRun : Json.Plain build.runId := runId_cases (by decide) (by decide)
  simp only [PlainMembers, printPrefix, List.forall_mem_cons, Printed.Plain, and_true, plainRun,
    plainCase, plainOperation, plainStage, plainStatus]
  refine ⟨?_, ?_, ?_, ?_, ?_, ?_, ?_, ?_, fun _ member => by cases member⟩ <;> decide

theorem Call.extra (call : Call) : ExtraMembers call.diagnostic := by
  cases call with
  | record name ok =>
      cases ok with
      | true => exact fun m member => by cases member
      | false =>
          intro m member
          rw [List.mem_singleton.mp member]
          exact show text "diagnostic" ∈ extraNames by decide
  | recordUnsupported name => exact fun m member => by cases member

theorem Call.plain {call : Call} (named : CaseName call.name) : PlainMembers call.diagnostic := by
  cases call with
  | record name ok =>
      cases ok with
      | true => exact fun m member => by cases member
      | false =>
          intro m member
          rw [List.mem_singleton.mp member]
          refine ⟨show Json.Plain (text "diagnostic") by decide, fun u among => ?_⟩
          cases List.mem_append.mp among with
          | inl fixed => exact (show Json.Plain (text "failed check: ") by decide) u fixed
          | inr own => exact named.plain u own
  | recordUnsupported name => exact fun m member => by cases member

/-- The members that a call prints. -/
def EmittedAs (build : Build) (call : Call) (members : Members) : Prop :=
  ∃ sequence own, members = printPrefix build.runId call.name (text "smokeCheck") (text "execute")
    call.status sequence own ++ call.diagnostic

theorem EmittedAs.plain {call : Call} {members : Members} (emitted : EmittedAs build call members)
    (named : CaseName call.name) : PlainMembers members := by
  obtain ⟨sequence, own, rfl⟩ := emitted
  intro m member
  cases List.mem_append.mp member with
  | inl first =>
      have status : Json.Plain call.status :=
        status_cases call (by decide) (by decide) (by decide)
      exact plain_leads named.plain (by decide) (by decide) status m first
  | inr last => exact Call.plain named m last

theorem EmittedAs.caseId {call : Call} {members : Members} (emitted : EmittedAs build call members) :
    caseIdOf (recordOf members) = call.name := by
  obtain ⟨sequence, own, rfl⟩ := emitted
  exact caseIdOf_record call.extra

theorem EmittedAs.reports {call : Call} {members : Members} (emitted : EmittedAs build call members) :
    Reports (recordOf members) (text "smokeCheck") (text "execute") call.status := by
  obtain ⟨sequence, own, rfl⟩ := emitted
  exact reports_record call.extra

/-- The calls print one record each. -/
theorem emitAll_emitted (e : Emitter) (calls : List Call) :
    List.Forall₂ (EmittedAs build) calls (emitAll build e calls).1 := by
  induction calls generalizing e with
  | nil => exact .nil
  | cons call calls ih => exact .cons ⟨_, _, rfl⟩ (ih _)

theorem toNat_succ {n : BitVec 32} (room : n.toNat + 1 < 2 ^ 32) : (n + 1).toNat = n.toNat + 1 := by
  rw [BitVec.toNat_add, show BitVec.toNat (1 : BitVec 32) = 1 by rfl]
  omega

theorem toNat_ofNat {n : Nat} (room : n < 2 ^ 32) : (BitVec.ofNat 32 n).toNat = n := by
  rw [BitVec.toNat_ofNat, Nat.mod_eq_of_lt room]

theorem ofNat_succ (n : Nat) : BitVec.ofNat 32 n + 1 = BitVec.ofNat 32 (n + 1) := by
  apply BitVec.eq_of_toNat_eq
  simp

/-- The sequence counts the calls, and wraps. -/
theorem emitAll_sequence (build : Build) (calls : List Call) {e : Emitter} {n : Nat}
    (start : e.sequence = BitVec.ofNat 32 n) :
    (emitAll build e calls).2.sequence = BitVec.ofNat 32 (n + calls.length) := by
  induction calls generalizing e n with
  | nil => exact start
  | cons call calls ih =>
      have next : (emit build e call).2.sequence = BitVec.ofNat 32 (n + 1) := by
        change e.sequence + 1 = _
        rw [start, ofNat_succ]
      rw [List.length_cons, Nat.add_comm calls.length, ← Nat.add_assoc]
      exact ih next

variable (convert build) in
/-- The calls continue the chain up to the wrap. -/
theorem emitAll_chain {calls : List Call} (named : ∀ call ∈ calls, CaseName call.name)
    {e : Emitter} {n : Nat} (start : e.sequence = BitVec.ofNat 32 n)
    (room : n + calls.length ≤ 2 ^ 32) :
    Chain convert build.runId n e.rollingChecksum ((emitAll build e calls).1.map recordOf)
      (n + calls.length) (emitAll build e calls).2.rollingChecksum := by
  induction calls generalizing e n with
  | nil => exact ⟨rfl, rfl⟩
  | cons call calls ih =>
      rw [List.forall_mem_cons] at named
      rw [List.length_cons] at room
      have next : (emit build e call).2.sequence = BitVec.ofNat 32 (n + 1) := by
        change e.sequence + 1 = _
        rw [start, ofNat_succ]
      have chain := ih named.2 next (by omega)
      rw [List.length_cons, Nat.add_comm calls.length, ← Nat.add_assoc]
      refine ⟨_, linked_record call.extra (counted_of_none ?_) (runId_cases (by decide) (by decide))
        named.1.ascii (by decide) (by decide)
        (status_cases call (by decide) (by decide) (by decide))
        (start ▸ toNat_ofNat (by omega)) (by decide) rfl, chain⟩
      rw [field_extra (by decide)]
      cases call with
      | record name ok => cases ok <;> rfl
      | recordUnsupported name => rfl

/-! ### The counters -/

/-- No counter has passed the sequence. -/
structure Emitter.Within (e : Emitter) : Prop where
  passed : e.passed.toNat ≤ e.sequence.toNat
  failed : e.failed.toNat ≤ e.sequence.toNat
  unsupported : e.unsupported.toNat ≤ e.sequence.toNat

/-- A call adds one to one of the counters. -/
theorem emit_counts (build : Build) {e : Emitter} (within : e.Within) (room : e.sequence.toNat + 1 < 2 ^ 32)
    (call : Call) :
    (emit build e call).2.passed.toNat = e.passed.toNat + (if call.isOk then 1 else 0)
      ∧ (emit build e call).2.failed.toNat = e.failed.toNat + (if call.isFailed then 1 else 0)
      ∧ (emit build e call).2.unsupported.toNat =
        e.unsupported.toNat + (if call.isUnsupported then 1 else 0) := by
  obtain ⟨fewPassed, fewFailed, fewUnsupported⟩ := within
  cases call with
  | record name ok =>
      cases ok with
      | true => exact ⟨toNat_succ (by omega), rfl, rfl⟩
      | false => exact ⟨rfl, toNat_succ (by omega), rfl⟩
  | recordUnsupported name => exact ⟨rfl, rfl, toNat_succ (by omega)⟩

theorem emitAll_counts {calls : List Call} (e : Emitter) (within : e.Within)
    (room : e.sequence.toNat + calls.length < 2 ^ 32) :
    (emitAll build e calls).2.passed.toNat = e.passed.toNat + calls.countP Call.isOk
      ∧ (emitAll build e calls).2.failed.toNat = e.failed.toNat + calls.countP Call.isFailed
      ∧ (emitAll build e calls).2.unsupported.toNat =
        e.unsupported.toNat + calls.countP Call.isUnsupported := by
  induction calls generalizing e with
  | nil => exact ⟨rfl, rfl, rfl⟩
  | cons call calls ih =>
      rw [List.length_cons] at room
      have next : (emit build e call).2.sequence.toNat = e.sequence.toNat + 1 :=
        toNat_succ (by omega)
      obtain ⟨passed, failed, unsupported⟩ := emit_counts build within (by omega) call
      obtain ⟨fewPassed, fewFailed, fewUnsupported⟩ := within
      have still : (emit build e call).2.Within := by
        constructor
        · rw [passed, next]
          split <;> omega
        · rw [failed, next]
          split <;> omega
        · rw [unsupported, next]
          split <;> omega
      obtain ⟨restPassed, restFailed, restUnsupported⟩ := ih _ still (by omega)
      rw [passed] at restPassed
      rw [failed] at restFailed
      rw [unsupported] at restUnsupported
      simp only [List.countP_cons]
      exact ⟨by rw [emitAll, restPassed]; omega, by rw [emitAll, restFailed]; omega,
        by rw [emitAll, restUnsupported]; omega⟩

/-! ### Summary and completion -/

def summaryExtra (e : Emitter) : Members :=
  counts e :: if e.failed ≠ 0 then
    [(text "diagnostic", .string (text "one or more execution checks failed"))] else []

def completionExtra (e : Emitter) (own : BitVec 32) (metrics : Metrics) : Members :=
  counts e :: (text "finalChecksum", .uint own) :: (if e.failed ≠ 0 then
    [(text "diagnostic", .string (text "completion reflects failed execution checks"))] else [])
    ++ [(text "metrics", .object metrics.members)]

theorem summary_eq (e : Emitter) :
    (summary build e).1 = printPrefix build.runId (text "summary") (text "summary") (text "summary")
      (summaryStatus e) e.sequence (summary build e).2.rollingChecksum ++ summaryExtra e := by
  simp [summary, summaryExtra]

variable (build) in
theorem completion_eq (e : Emitter) (metrics : Metrics) :
    ∃ own, own = nextChecksum build.runId (text "completion") (text "complete") (text "completion")
        (summaryStatus e) e.rollingChecksum e.sequence e.passed e.failed e.unsupported
      ∧ completion build e metrics = printPrefix build.runId (text "completion") (text "complete")
        (text "completion") (summaryStatus e) e.sequence own ++ completionExtra e own metrics :=
  ⟨_, rfl, by simp [completion, completionExtra]⟩

theorem summaryExtra_extra (e : Emitter) : ExtraMembers (summaryExtra e) := by
  rw [summaryExtra]
  split
  · simp only [ExtraMembers, counts, List.forall_mem_cons]
    decide
  · simp only [ExtraMembers, counts, List.forall_mem_cons]
    decide

theorem completionExtra_extra (e : Emitter) (own : BitVec 32) (metrics : Metrics) :
    ExtraMembers (completionExtra e own metrics) := by
  rw [completionExtra]
  split
  · simp only [ExtraMembers, counts, List.cons_append, List.nil_append, List.forall_mem_cons]
    decide
  · simp only [ExtraMembers, counts, List.cons_append, List.nil_append, List.forall_mem_cons]
    decide

theorem summaryStatus_cases {P : Text → Prop} (e : Emitter) (completed : P (text "completed"))
    (failed : P (text "failed")) : P (summaryStatus e) := by
  rw [summaryStatus]
  split
  · exact completed
  · exact failed

theorem field_counts_summary (e : Emitter) :
    (recordOf (summaryExtra e)).field (text "counts") = some (counts e).2.value := by
  rw [summaryExtra]
  split <;> rfl

theorem field_counts_completion (e : Emitter) (own : BitVec 32) (metrics : Metrics) :
    (recordOf (completionExtra e own metrics)).field (text "counts") = some (counts e).2.value := by
  rw [completionExtra]
  split <;> rfl

theorem field_final_completion (e : Emitter) (own : BitVec 32) (metrics : Metrics) :
    (recordOf (completionExtra e own metrics)).field (text "finalChecksum") =
      some (.num (.finite own.toNat)) := by
  rw [completionExtra]
  split <;> rfl

theorem counts_plain (e : Emitter) : Json.Plain (counts e).1 ∧ (counts e).2.Plain := by
  refine ⟨show Json.Plain (text "counts") by decide, ?_⟩
  rw [counts]
  split
  · simp only [Printed.Plain, List.cons_append, List.nil_append, List.forall_mem_cons]
    refine ⟨by simp, ?_, ?_, ?_, fun _ member => by cases member⟩ <;> decide
  · simp only [Printed.Plain, List.append_nil, List.forall_mem_cons]
    refine ⟨by simp, ?_, ?_, fun _ member => by cases member⟩ <;> decide

def metricNames : List Text :=
  [text "freeInternalHeap", text "minimumFreeInternalHeap", text "largestInternalBlock",
    text "mainStackHighWater", text "mainStackSize", text "resetReason", text "hotPathAllocations",
    text "topicParseP50ns", text "topicParseP95ns", text "readerP50ns", text "readerP95ns",
    text "dtoDecodeP50ns", text "dtoDecodeP95ns", text "dtoEncodeP50ns", text "dtoEncodeP95ns",
    text "combinedP50ns", text "combinedP95ns", text "borrowedP50ns", text "borrowedP95ns"]

theorem metrics_plain (metrics : Metrics) :
    metrics.members ≠ [] ∧ ∀ m ∈ metrics.members, Json.Plain m.1 := by
  have names : ∀ name ∈ metrics.members.map Prod.fst, Json.Plain name := by
    rw [show metrics.members.map Prod.fst = metricNames from rfl]
    decide
  exact ⟨by simp [Metrics.members], fun m member => names m.1 (List.mem_map_of_mem member)⟩

theorem summaryExtra_plain (e : Emitter) : PlainMembers (summaryExtra e) := by
  rw [summaryExtra, PlainMembers, List.forall_mem_cons]
  refine ⟨counts_plain e, ?_⟩
  split
  · rw [List.forall_mem_singleton]
    exact ⟨show Json.Plain (text "diagnostic") by decide,
      show Json.Plain (text "one or more execution checks failed") by decide⟩
  · exact List.forall_mem_nil _

theorem completionExtra_plain (e : Emitter) (own : BitVec 32) (metrics : Metrics) :
    PlainMembers (completionExtra e own metrics) := by
  rw [completionExtra, PlainMembers, List.cons_append, List.cons_append, List.forall_mem_cons,
    List.forall_mem_cons, List.forall_mem_append, List.forall_mem_singleton]
  refine ⟨counts_plain e, ⟨show Json.Plain (text "finalChecksum") by decide, trivial⟩, ?_,
    show Json.Plain (text "metrics") by decide, metrics_plain metrics⟩
  split
  · rw [List.forall_mem_singleton]
    exact ⟨show Json.Plain (text "diagnostic") by decide,
      show Json.Plain (text "completion reflects failed execution checks") by decide⟩
  · exact List.forall_mem_nil _

/-! ### The whole run -/

/-- The counters after the calls. -/
def after (build : Build) (calls : List Call) : Emitter := (emitAll build (boot build).2 calls).2

theorem runSmoke_eq (calls : List Call) (metrics : Metrics) :
    runSmoke build calls metrics =
      (boot build).1 :: (emitAll build (boot build).2 calls).1
        ++ [(summary build (after build calls)).1,
          completion build (summary build (after build calls)).2 metrics] := rfl

theorem length_emitAll (e : Emitter) (calls : List Call) :
    (emitAll build e calls).1.length = calls.length :=
  (emitAll_emitted e calls).length_eq.symm

theorem length_runSmoke (calls : List Call) (metrics : Metrics) :
    (runSmoke build calls metrics).length = calls.length + 3 := by
  simp [runSmoke_eq, length_emitAll]

/-- What holds of the records of each call holds of all records between boot and summary. -/
theorem forall_emitAll {P : Members → Prop} (e : Emitter) {calls : List Call}
    (each : ∀ call ∈ calls, ∀ members, EmittedAs build call members → P members) :
    ∀ members ∈ (emitAll build e calls).1, P members := by
  induction calls generalizing e with
  | nil => exact List.forall_mem_nil _
  | cons call calls ih =>
      rw [List.forall_mem_cons] at each
      exact List.forall_mem_cons.mpr ⟨each.1 _ ⟨_, _, rfl⟩, ih _ each.2⟩

/-- The texts of every line of a run need no escape. -/
theorem plain_runSmoke {calls : List Call} (named : ∀ call ∈ calls, CaseName call.name)
    (metrics : Metrics) : ∀ members ∈ runSmoke build calls metrics, PlainMembers members := by
  rw [runSmoke_eq, List.cons_append, List.forall_mem_cons, List.forall_mem_append,
    List.forall_mem_cons, List.forall_mem_singleton]
  refine ⟨?_, ?_, ?_, ?_⟩
  · exact plain_leads (by decide) (by decide) (by decide) (by decide)
  · exact forall_emitAll _ fun call among members emitted => emitted.plain (named call among)
  · rw [summary_eq, PlainMembers, List.forall_mem_append]
    exact ⟨plain_leads (by decide) (by decide) (by decide)
      (summaryStatus_cases _ (by decide) (by decide)), summaryExtra_plain _⟩
  · obtain ⟨own, _, same⟩ := completion_eq build (summary build (after build calls)).2 metrics
    rw [same, PlainMembers, List.forall_mem_append]
    exact ⟨plain_leads (by decide) (by decide) (by decide)
      (summaryStatus_cases _ (by decide) (by decide)), completionExtra_plain _ _ _⟩

theorem ne_nil_runSmoke (calls : List Call) (metrics : Metrics) :
    ∀ members ∈ runSmoke build calls metrics, members ≠ [] := by
  rw [runSmoke_eq, List.cons_append, List.forall_mem_cons, List.forall_mem_append,
    List.forall_mem_cons, List.forall_mem_singleton]
  refine ⟨by simp [boot, printPrefix], ?_, by simp [summary, printPrefix],
    by simp [completion, printPrefix]⟩
  refine forall_emitAll _ fun call _ members emitted => ?_
  obtain ⟨sequence, own, rfl⟩ := emitted
  simp [printPrefix]

/-- Every line of a run is JSON text of its record. -/
theorem jsonParse_runSmoke {calls : List Call} (named : ∀ call ∈ calls, CaseName call.name)
    {metrics : Metrics} {members : Members} (member : members ∈ runSmoke build calls metrics) :
    jsonParse (line members) = some (recordOf members) :=
  jsonParse_line (plain_runSmoke named metrics members member)
    (ne_nil_runSmoke calls metrics members member)

variable (convert build) in
/-- The boot record and the calls are a chain. -/
theorem chain_checks {calls : List Call} (named : ∀ call ∈ calls, CaseName call.name)
    (room : calls.length + 1 ≤ 2 ^ 32) :
    Chain convert build.runId 0 0
      (recordOf (boot build).1 :: (emitAll build (boot build).2 calls).1.map recordOf)
      (1 + calls.length) (after build calls).rollingChecksum := by
  refine ⟨_, ?_, emitAll_chain convert build named rfl (by omega)⟩
  rw [← List.append_nil (boot build).1]
  exact linked_record (List.forall_mem_nil _) (counted_of_none rfl)
    (runId_cases (by decide) (by decide)) (by decide) (by decide) (by decide) (by decide) rfl
    (by decide) rfl

theorem after_sequence (build : Build) (calls : List Call) :
    (after build calls).sequence = BitVec.ofNat 32 (1 + calls.length) :=
  emitAll_sequence build calls rfl

variable (convert build) in
theorem linked_summary {calls : List Call} (room : calls.length + 2 ≤ 2 ^ 32) :
    Linked convert build.runId (1 + calls.length) (after build calls).rollingChecksum
      (recordOf (summary build (after build calls)).1)
      (summary build (after build calls)).2.rollingChecksum := by
  rw [summary_eq]
  refine linked_record (summaryExtra_extra _) (counted_of_counts ?_)
    (runId_cases (by decide) (by decide)) (by decide) (by decide) (by decide)
    (summaryStatus_cases _ (by decide) (by decide)) ?_ (by decide) rfl
  · rw [field_extra (by decide), field_counts_summary]
  · rw [after_sequence, toNat_ofNat (by omega)]

variable (convert build) in
theorem linked_completion {calls : List Call} (metrics : Metrics)
    (room : calls.length + 3 ≤ 2 ^ 32) :
    ∃ own, Linked convert build.runId (1 + calls.length + 1)
      (summary build (after build calls)).2.rollingChecksum
      (recordOf (completion build (summary build (after build calls)).2 metrics)) own := by
  obtain ⟨own, computed, same⟩ := completion_eq build (summary build (after build calls)).2 metrics
  refine ⟨own, ?_⟩
  rw [same]
  refine linked_record (completionExtra_extra _ _ _) (counted_of_counts ?_)
    (runId_cases (by decide) (by decide)) (by decide) (by decide) (by decide)
    (summaryStatus_cases _ (by decide) (by decide)) ?_ (by decide) computed
  · rw [field_extra (by decide), field_counts_completion]
  · change ((after build calls).sequence + 1).toNat = 1 + calls.length + 1
    rw [after_sequence, ofNat_succ, toNat_ofNat (by omega)]

theorem emitAll_take (e : Emitter) (calls : List Call) (n : Nat) :
    (emitAll build e (calls.take n)).1 = (emitAll build e calls).1.take n := by
  induction calls generalizing e n with
  | nil => simp [emitAll]
  | cons call calls ih =>
      cases n with
      | zero => rfl
      | succ n => exact congrArg ((emit build e call).1 :: ·) (ih _ n)

variable (convert build) in
/-- The first `2 ^ 32` records of a run are a chain of the validator. -/
theorem chain_runSmoke {calls : List Call} (named : ∀ call ∈ calls, CaseName call.name)
    (metrics : Metrics) {m : Nat} (room : m ≤ 2 ^ 32) :
    ∃ k last, Chain convert build.runId 0 0
      (((runSmoke build calls metrics).map recordOf).take m) k last := by
  have records : (runSmoke build calls metrics).map recordOf =
      (recordOf (boot build).1 :: (emitAll build (boot build).2 calls).1.map recordOf)
        ++ [recordOf (summary build (after build calls)).1,
          recordOf (completion build (summary build (after build calls)).2 metrics)] := by
    simp [runSmoke_eq]
  have length : (recordOf (boot build).1
      :: (emitAll build (boot build).2 calls).1.map recordOf).length = calls.length + 1 := by
    simp [length_emitAll]
  rw [records, List.take_append, length]
  by_cases few : m ≤ calls.length + 1
  · rw [Nat.sub_eq_zero_of_le few, List.take_zero, List.append_nil]
    cases m with
    | zero => exact ⟨0, 0, rfl, rfl⟩
    | succ j =>
        have taken : calls.take j ⊆ calls := List.take_subset j calls
        have size : (calls.take j).length ≤ j := List.length_take_le j calls
        rw [List.take_succ_cons, ← List.map_take, ← emitAll_take]
        exact ⟨_, _, chain_checks convert build (fun call among => named call (taken among)) (by omega)⟩
  · have checks := chain_checks convert build named (by omega)
    have room' : calls.length + 2 ≤ 2 ^ 32 := by omega
    have summarized := linked_summary convert build room'
    rw [List.take_of_length_le (by omega)]
    obtain ⟨j, rest⟩ : ∃ j, m - (calls.length + 1) = j + 1 := ⟨m - calls.length - 2, by omega⟩
    rw [rest, List.take_succ_cons]
    cases j with
    | zero => exact ⟨_, _, chain_append.mpr ⟨_, _, checks, _, summarized, rfl, rfl⟩⟩
    | succ j =>
        have room'' : calls.length + 3 ≤ 2 ^ 32 := by omega
        obtain ⟨own, completed⟩ := linked_completion convert build metrics room''
        rw [List.take_succ_cons, List.take_nil]
        exact ⟨_, _, chain_append.mpr ⟨_, _, checks, _, summarized, own, completed, rfl, rfl⟩⟩

end AxolotyEmbedded.Smoke.Firmware
