import Mathlib.Data.List.Dedup
import Mathlib.Data.Finset.Dedup
import AxolotyEmbedded.Library.Transition
import AxolotyEmbedded.Smoke.ValidatorSteps

/-!
The streams the validator accepts. The lines a harness feeds up to the first call of
`observe` that returns true are accepted when they hold one complete chain of records,
and no others are; the invariant over the records read so far is `Read`.
-/
namespace AxolotyEmbedded.Smoke
open Transition

section

variable (convert : JsValue → Option (BitVec 32))

/-- Feeds lines until a call returns true. -/
def observeAll (v : Validator) (s : State) : List Text → Option State
  | [] => some s
  | line :: lines =>
    match observe convert v s line with
    | none => none
    | some (true, t) => some t
    | some (false, t) => observeAll v t lines

/-- The lines that are fed. -/
def observed (v : Validator) (s : State) : List Text → List Text
  | [] => []
  | line :: lines =>
    match observe convert v s line with
    | none => [line]
    | some (true, _) => [line]
    | some (false, t) => line :: observed v t lines

/-- Feeds every line, whatever the calls return. -/
def feed (v : Validator) (s : State) : List Text → Option State
  | [] => some s
  | line :: lines => (observe convert v s line).bind fun r => feed v r.2 lines

def passed (v : Validator) (lines : List Text) : Bool :=
  (observeAll convert v State.initial lines).any fun s => (result v s).passed

/-! ### The accepted streams -/

/-- Sequence numbers and checksums follow each other from one record to the next. -/
def Chain (runId : Text) : Nat → BitVec 32 → List JsValue → Nat → BitVec 32 → Prop
  | n, previous, [], m, last => n = m ∧ previous = last
  | n, previous, record :: records, m, last =>
    ∃ own, Linked convert runId n previous record own ∧ Chain runId (n + 1) own records m last

/-- The lines that start with a brace are JSON texts of the records. -/
def Holds (lines : List Text) (records : List JsValue) : Prop :=
  (lines.filter isRecordLine).map jsonParse = records.map some

def IsBoot (record : JsValue) : Prop :=
  caseIdOf record = text "boot" ∧ Reports record (text "boot") (text "boot") (text "started")

structure IsSummary (record : JsValue) (passed unsupported : Nat) : Prop where
  kind : caseIdOf record = text "summary"
  reports : Reports record (text "summary") (text "summary") (text "completed")
  counts : Counts record passed 0 unsupported

structure IsCompletion (record : JsValue) (passed unsupported : Nat) : Prop where
  kind : caseIdOf record = text "completion"
  reports : Reports record (text "complete") (text "completion") (text "completed")
  counts : Counts record passed 0 unsupported
  final : sameNumber (record.field (text "finalChecksum")) (record.field (text "checksum")) = true

/-- Every expected test once, each passed or unsupported where that is allowed. -/
structure TestsComplete (v : Validator) (tests : List JsValue) : Prop where
  passed : ∀ test ∈ tests, TestPassed v test
  once : (tests.map caseIdOf).Nodup
  all : (tests.map caseIdOf).toFinset = v.expectedTests

/-- The records of a whole stream, in order. -/
structure Complete (v : Validator) (boot : JsValue) (tests : List JsValue)
    (summary completion : JsValue) : Prop where
  started : IsBoot boot
  tested : TestsComplete v tests
  summarized : IsSummary summary (tests.countP (!isUnsupported ·)) (tests.countP isUnsupported)
  completed :
    IsCompletion completion (tests.countP (!isUnsupported ·)) (tests.countP isUnsupported)

def Stream (v : Validator) (lines : List Text) : Prop :=
  (∀ line ∈ lines, isFatal line = false)
    ∧ ∃ boot tests summary completion m last,
      Holds lines (boot :: tests ++ [summary, completion])
        ∧ Chain convert v.runId 0 0 (boot :: tests ++ [summary, completion]) m last
        ∧ Complete v boot tests summary completion

/-! ### Records that leave no failure -/

/-- The state after a record that is accepted. -/
def accept (v : Validator) (s : State) (record : JsValue) : Option State :=
  match observeRecord convert v s record with
  | some (_, t) => if t.failure.isNone then some t else none
  | none => none

end

variable {convert : JsValue → Option (BitVec 32)} {v : Validator}

theorem accept_iff {s t : State} {record : JsValue} (clean : s.failure = none) :
    accept convert v s record = some t ↔
      ∃ own b, Linked convert v.runId s.expectedSequence s.previousChecksum record own
        ∧ Accepts v (s.advance own) record b t := by
  have returns : accept convert v s record = some t ↔
      ∃ b, observeRecord convert v s record = some (b, t) ∧ t.failure = none := by
    constructor
    · intro taken
      simp only [accept] at taken
      split at taken
      · next b u returned =>
          split at taken
          · next kept =>
              cases taken
              exact ⟨b, returned, Option.isNone_iff_eq_none.mp kept⟩
          · cases taken
      · cases taken
    · rintro ⟨b, returned, kept⟩
      simp [accept, returned, kept]
  rw [returns]
  simp only [observeRecord_iff clean]
  exact exists_comm

theorem accept_clean {s t : State} {record : JsValue} (taken : accept convert v s record = some t) :
    t.failure = none := by
  simp only [accept] at taken
  split at taken
  · split at taken
    · next kept =>
        cases taken
        exact Option.isNone_iff_eq_none.mp kept
    · cases taken
  · cases taken

theorem Accepts.running {s t : State} {record : JsValue} {b : Bool}
    (accepted : Accepts v s record b t) : s.completionSeen = false := by
  cases accepted with
  | boot _ _ _ running _ => exact running
  | test _ _ _ _ running _ _ => exact running
  | summary _ _ _ _ _ _ running _ _ => exact running
  | completion _ _ _ _ _ _ _ running _ _ _ _ => exact running

/-- Only the completion makes `observe` return true. -/
theorem Accepts.completionSeen {s t : State} {record : JsValue} {b : Bool}
    (accepted : Accepts v s record b t) : t.completionSeen = b := by
  cases accepted with
  | boot _ _ _ running _ => exact running
  | test _ _ _ _ running _ _ => exact running
  | summary _ _ _ _ _ _ running _ _ => exact running
  | completion => rfl

/-- No record is accepted after the completion. -/
theorem Accepted.nil_of_completed {s t : State} {records : List JsValue}
    (clean : s.failure = none) (completed : s.completionSeen = true)
    (run : Run (accept convert v) unguarded s records t) : records = [] := by
  cases records with
  | nil => rfl
  | cons record records =>
      obtain ⟨u, -, taken, -⟩ := Run.cons_iff.mp run
      obtain ⟨own, b, -, accepted⟩ := (accept_iff clean).mp taken
      have running := accepted.running
      simp only [State.advance, completed, Bool.true_eq_false] at running

/-! ### Lines -/

theorem reject_sticks {s : State} {stage : Text} {reason : Option JsValue} :
    (reject s stage reason).2.failure.isSome = true :=
  Option.isSome_iff_ne_none.mpr (reject_failure s stage reason)

/-- A failure stays whatever record is observed next. -/
theorem observeKind_sticks {s : State} (record : JsValue) (failed : s.failure.isSome = true) :
    (observeKind v s record).2.failure.isSome = true := by
  simp only [observeKind]
  split
  · simp only [observeBoot]
    split
    · exact reject_sticks
    · exact failed
  · split
    · simp only [observeTest]
      repeat' split
      all_goals first | exact reject_sticks | exact failed
    · split
      · simp only [observeSummary]
        repeat' split
        all_goals first | exact reject_sticks | exact failed
      · split
        · simp only [observeCompletion]
          repeat' split
          all_goals first | exact reject_sticks | exact failed
        · exact reject_sticks

theorem observe_sticks {s t : State} {line : Text} {b : Bool} (failed : s.failure.isSome = true)
    (returned : observe convert v s line = some (b, t)) : t.failure.isSome = true := by
  have after : ∀ {r : Bool × State}, r.2.failure.isSome = true → some r = some (b, t) →
      t.failure.isSome = true := by
    intro r kept same
    obtain rfl := Option.some.inj same
    exact kept
  simp only [observe] at returned
  split at returned
  · exact after reject_sticks returned
  · split at returned
    · exact after failed returned
    · split at returned
      · exact after reject_sticks returned
      · next record _ =>
          rw [observeRecord, Option.map_eq_some_iff] at returned
          obtain ⟨common, _, kind⟩ := returned
          refine after ?_ (congrArg some kind)
          cases common with
          | none => exact observeKind_sticks record failed
          | some reason => exact reject_sticks

theorem feed_sticks {lines : List Text} {s t : State} (failed : s.failure.isSome = true)
    (fed : feed convert v s lines = some t) : t.failure.isSome = true := by
  induction lines generalizing s with
  | nil =>
      cases fed
      exact failed
  | cons line lines ih =>
      rw [feed, Option.bind_eq_some_iff] at fed
      obtain ⟨⟨b, u⟩, returned, rest⟩ := fed
      exact ih (observe_sticks failed returned) rest

/-- What a line does without leaving a failure: nothing, or it holds an accepted record. -/
theorem observe_clean {s t : State} {line : Text} {b : Bool} (clean : s.failure = none)
    (kept : t.failure = none) :
    observe convert v s line = some (b, t) ↔
      isFatal line = false ∧
        (isRecordLine line = false ∧ b = false ∧ t = s
          ∨ isRecordLine line = true ∧ ∃ record, jsonParse line = some record
            ∧ accept convert v s record = some t ∧ t.completionSeen = b) := by
  have accepted : ∀ {record : JsValue}, observeRecord convert v s record = some (b, t) ↔
      accept convert v s record = some t ∧ t.completionSeen = b := by
    intro record
    rw [accept_iff clean]
    have returns : (observeRecord convert v s record = some (b, t) ∧ t.failure = none) ↔ _ :=
      observeRecord_iff clean
    simp only [kept, and_true] at returns
    rw [returns]
    constructor
    · rintro ⟨own, linked, taken⟩
      exact ⟨⟨own, b, linked, taken⟩, taken.completionSeen⟩
    · rintro ⟨⟨own, c, linked, taken⟩, seen⟩
      obtain rfl : c = b := taken.completionSeen.symm.trans seen
      exact ⟨own, linked, taken⟩
  have rejected : ∀ {stage : Text} {reason : Option JsValue},
      some (reject s stage reason) ≠ some (b, t) := by
    intro stage reason returned
    exact reject_kept.mp ⟨Option.some.inj returned, kept⟩
  simp only [observe]
  split
  · next fatal => simp [rejected, fatal]
  · next harmless =>
      split
      · next other =>
          simp only [Bool.not_eq_true'] at other
          simp [harmless, other, eq_comm]
      · next brace =>
          simp only [Bool.not_eq_true', Bool.not_eq_false] at brace
          split
          · next malformed => simp [rejected, malformed, brace]
          · next record parsed => simp [harmless, brace, parsed, accepted]

/-! ### From lines to records and back -/

theorem holds_cons_other {line : Text} {lines : List Text} {records : List JsValue}
    (other : isRecordLine line = false) :
    Holds (line :: lines) records ↔ Holds lines records := by
  rw [Holds, List.filter_cons_of_neg (by simp [other]), Holds]

theorem holds_cons_record {line : Text} {lines : List Text} {records : List JsValue}
    (brace : isRecordLine line = true) :
    Holds (line :: lines) records ↔
      ∃ record others, records = record :: others ∧ jsonParse line = some record
        ∧ Holds lines others := by
  rw [Holds, List.filter_cons_of_pos brace, List.map_cons]
  cases records with
  | nil => simp
  | cons record records =>
      simp only [List.map_cons, List.cons.injEq, Holds]
      constructor
      · rintro ⟨parsed, rest⟩
        exact ⟨record, records, ⟨rfl, rfl⟩, parsed, rest⟩
      · rintro ⟨_, _, ⟨rfl, rfl⟩, parsed, rest⟩
        exact ⟨parsed, rest⟩

/-- Lines that leave no failure are a run over the records they hold. -/
theorem run_of_feed {lines : List Text} {s t : State} (clean : s.failure = none)
    (fed : feed convert v s lines = some t) (kept : t.failure = none) :
    (∀ line ∈ lines, isFatal line = false)
      ∧ ∃ records, Holds lines records ∧ Run (accept convert v) unguarded s records t := by
  induction lines generalizing s with
  | nil =>
      cases fed
      exact ⟨List.forall_mem_nil _, [], rfl, .nil⟩
  | cons line lines ih =>
      rw [feed, Option.bind_eq_some_iff] at fed
      obtain ⟨⟨b, u⟩, returned, fed⟩ := fed
      have unfailed : u.failure = none := by
        by_contra failed
        have sticks := feed_sticks (Option.isSome_iff_ne_none.mpr failed) fed
        rw [kept] at sticks
        cases sticks
      obtain ⟨rest, records, holds, run⟩ := ih unfailed fed
      obtain ⟨harmless, kind⟩ := (observe_clean clean unfailed).mp returned
      refine ⟨List.forall_mem_cons.mpr ⟨harmless, rest⟩, ?_⟩
      obtain ⟨other, _, rfl⟩ | ⟨brace, record, parsed, taken, _⟩ := kind
      · exact ⟨records, (holds_cons_other other).mpr holds, run⟩
      · exact ⟨record :: records, (holds_cons_record brace).mpr ⟨record, records, rfl, parsed, holds⟩,
          Run.cons_iff.mpr ⟨u, trivial, taken, run⟩⟩

theorem observeAll_eq_feed (s : State) (lines : List Text) :
    observeAll convert v s lines = feed convert v s (observed convert v s lines) := by
  induction lines generalizing s with
  | nil => rfl
  | cons line lines ih =>
      simp only [observed, observeAll]
      split
      · next threw => simp [feed, threw]
      · next t returned => simp [feed, returned]
      · next t returned => simp [feed, returned, ih]

theorem observed_leads (s : State) (lines : List Text) : observed convert v s lines <+: lines := by
  induction lines generalizing s with
  | nil => exact List.prefix_refl []
  | cons line lines ih =>
      simp only [observed]
      split
      · exact ⟨lines, rfl⟩
      · exact ⟨lines, rfl⟩
      · exact (List.prefix_cons_inj line).mpr (ih _)

/-- The records of harmless lines decide what feeding the lines does. -/
theorem observeAll_of_run {lines : List Text} {records : List JsValue} {s t : State}
    (clean : s.failure = none) (harmless : ∀ line ∈ lines, isFatal line = false)
    (holds : Holds lines records) (run : Run (accept convert v) unguarded s records t) :
    observeAll convert v s lines = some t := by
  induction lines generalizing s records with
  | nil =>
      obtain rfl : records = [] := by
        simpa [Holds] using holds.symm
      rw [Run.nil_iff.mp run, observeAll]
  | cons line lines ih =>
      have fatal : isFatal line = false := harmless line List.mem_cons_self
      have others : ∀ line ∈ lines, isFatal line = false := fun line' member =>
        harmless line' (List.mem_cons_of_mem line member)
      cases brace : isRecordLine line with
      | false =>
          have returned : observe convert v s line = some (false, s) :=
            (observe_clean clean clean).mpr ⟨fatal, .inl ⟨brace, rfl, rfl⟩⟩
          simp only [observeAll, returned]
          exact ih clean others ((holds_cons_other brace).mp holds) run
      | true =>
          obtain ⟨record, rest, rfl, parsed, holds⟩ := (holds_cons_record brace).mp holds
          obtain ⟨u, -, taken, run⟩ := Run.cons_iff.mp run
          have unfailed := accept_clean taken
          have returned : observe convert v s line = some (u.completionSeen, u) :=
            (observe_clean clean unfailed).mpr ⟨fatal, .inr ⟨brace, record, parsed, taken, rfl⟩⟩
          cases completed : u.completionSeen with
          | false =>
              simp only [observeAll, returned, completed]
              exact ih unfailed others holds run
          | true =>
              simp only [observeAll, returned, completed]
              cases Accepted.nil_of_completed unfailed completed run
              rw [Run.nil_iff.mp run]

/-! ### The records of a run -/

theorem chain_append {runId : Text} {before after : List JsValue} {n m : Nat}
    {previous last : BitVec 32} :
    Chain convert runId n previous (before ++ after) m last ↔
      ∃ k middle, Chain convert runId n previous before k middle
        ∧ Chain convert runId k middle after m last := by
  induction before generalizing n previous with
  | nil =>
      constructor
      · exact fun chain => ⟨n, previous, ⟨rfl, rfl⟩, chain⟩
      · rintro ⟨_, _, ⟨rfl, rfl⟩, chain⟩
        exact chain
  | cons first before ih =>
      simp only [List.cons_append, Chain, ih]
      constructor
      · rintro ⟨next, linked, k, middle, chain, rest⟩
        exact ⟨k, middle, ⟨next, linked, chain⟩, rest⟩
      · rintro ⟨k, middle, ⟨next, linked, chain⟩, rest⟩
        exact ⟨next, linked, k, middle, chain, rest⟩

theorem chain_snoc {runId : Text} {records : List JsValue} {record : JsValue} {n m : Nat}
    {previous own : BitVec 32} :
    Chain convert runId n previous (records ++ [record]) m own ↔
      ∃ k last, Chain convert runId n previous records k last
        ∧ Linked convert runId k last record own ∧ m = k + 1 := by
  rw [chain_append]
  constructor
  · rintro ⟨k, last, before, next, linked, rfl, rfl⟩
    exact ⟨k, last, before, linked, rfl⟩
  · rintro ⟨k, last, before, linked, rfl⟩
    exact ⟨k, last, before, own, linked, rfl, rfl⟩

/-- The records fix where a chain ends. -/
theorem chain_unique {runId : Text} {records : List JsValue} {n m m' : Nat}
    {previous last last' : BitVec 32} (one : Chain convert runId n previous records m last)
    (other : Chain convert runId n previous records m' last') : m = m' ∧ last = last' := by
  induction records generalizing n previous with
  | nil => exact ⟨one.1.symm.trans other.1, one.2.symm.trans other.2⟩
  | cons first records ih =>
      obtain ⟨own, linked, one⟩ := one
      obtain ⟨own', linked', other⟩ := other
      obtain rfl := Option.some.inj (linked.computed.symm.trans linked'.computed)
      exact ih one other

/-- The records of a chain are numbered one after the other. -/
theorem chain_position {runId : Text} {records : List JsValue} {record : JsValue} {n m k : Nat}
    {previous last : BitVec 32} (chain : Chain convert runId n previous records m last)
    (at_k : records[k]? = some record) :
    isNumber (record.field (text "sequence")) (n + k : Nat) = true := by
  induction records generalizing n previous k with
  | nil => simp at at_k
  | cons first records ih =>
      obtain ⟨own, linked, rest⟩ := chain
      cases k with
      | zero =>
          obtain rfl : first = record := by simpa using at_k
          exact linked.position
      | succ k =>
          have position := ih rest (by simpa using at_k)
          rw [show n + (k + 1) = n + 1 + k by omega]
          exact position

def unsupportedOf (tests : List JsValue) : List Text := (tests.filter isUnsupported).map caseIdOf

/-- After the boot record and these test records. -/
structure Tested (v : Validator) (tests : List JsValue) (s : State) : Prop where
  booted : s.bootSeen = true
  early : s.summary = none
  running : s.completionSeen = false
  passed : ∀ test ∈ tests, TestPassed v test
  expected : ∀ test ∈ tests, caseIdOf test ∈ v.expectedTests
  ordinary : ∀ test ∈ tests, caseIdOf test ≠ text "boot"
  once : (tests.map caseIdOf).Nodup
  seen : s.seenTests = (tests.map caseIdOf).toFinset
  unsupported : s.unsupportedTests = (unsupportedOf tests).toFinset

/-- After the summary as well, whose failed count `result` reads only later. -/
structure Summarized (v : Validator) (tests : List JsValue) (summary : JsValue)
    (passed failed : Nat) (s : State) : Prop where
  booted : s.bootSeen = true
  tested : ∀ test ∈ tests, TestPassed v test
  expected : ∀ test ∈ tests, caseIdOf test ∈ v.expectedTests
  ordinary : ∀ test ∈ tests, caseIdOf test ≠ text "boot"
  once : (tests.map caseIdOf).Nodup
  seen : s.seenTests = (tests.map caseIdOf).toFinset
  kind : caseIdOf summary = text "summary"
  reserved : text "summary" ∉ v.expectedTests
  reports : Reports summary (text "summary") (text "summary") (text "completed")
  counts : Counts summary passed failed (tests.countP isUnsupported)
  kept : s.summary = summary.field (text "counts")

/-- What the records that were read so far are, and what the flags say about them. -/
inductive Read (v : Validator) : List JsValue → State → Prop where
  | nothing : Read v [] State.initial
  | tests {boot : JsValue} {tests : List JsValue} {s : State} (started : IsBoot boot)
      (tested : Tested v tests s) : Read v (boot :: tests) s
  | summary {boot : JsValue} {tests : List JsValue} {summary : JsValue} {passed failed : Nat}
      {s : State} (started : IsBoot boot)
      (summarized : Summarized v tests summary passed failed s)
      (running : s.completionSeen = false) : Read v (boot :: tests ++ [summary]) s
  | completion {boot : JsValue} {tests : List JsValue} {summary completion : JsValue}
      {passed failed : Nat} {s : State} (started : IsBoot boot)
      (summarized : Summarized v tests summary passed failed s)
      (completed : s.completionSeen = true)
      (kind : caseIdOf completion = text "completion")
      (reserved : text "completion" ∉ v.expectedTests)
      (reports : Reports completion (text "complete") (text "completion") (text "completed"))
      (counts : Counts completion passed failed (tests.countP isUnsupported))
      (final : sameNumber (completion.field (text "finalChecksum"))
        (completion.field (text "checksum")) = true) :
      Read v (boot :: tests ++ [summary, completion]) s

theorem toFinset_snoc (names : List Text) (name : Text) :
    (names ++ [name]).toFinset = insert name names.toFinset := by
  ext other
  simp

theorem Tested.start {s : State} (early : s.summary = none) (running : s.completionSeen = false)
    (unseen : s.seenTests = ∅) (supported : s.unsupportedTests = ∅) :
    Tested v [] { s with bootSeen := true } where
  booted := rfl
  early := early
  running := running
  passed := fun _ member => by cases member
  expected := fun _ member => by cases member
  ordinary := fun _ member => by cases member
  once := .nil
  seen := unseen
  unsupported := supported

theorem Tested.snoc {tests : List JsValue} {record : JsValue} {s : State} {own : BitVec 32}
    (tested : Tested v tests s) (ordinary : caseIdOf record ≠ text "boot")
    (expected : caseIdOf record ∈ v.expectedTests) (first : caseIdOf record ∉ s.seenTests)
    (passed : TestPassed v record) :
    Tested v (tests ++ [record])
      { s.advance own with
          seenTests := insert (caseIdOf record) s.seenTests,
          unsupportedTests :=
            if isUnsupported record then insert (caseIdOf record) s.unsupportedTests
            else s.unsupportedTests } where
  booted := tested.booted
  early := tested.early
  running := tested.running
  passed := by
    intro test member
    cases List.mem_append.mp member with
    | inl before => exact tested.passed test before
    | inr last => exact List.mem_singleton.mp last ▸ passed
  expected := by
    intro test member
    cases List.mem_append.mp member with
    | inl before => exact tested.expected test before
    | inr last => exact List.mem_singleton.mp last ▸ expected
  ordinary := by
    intro test member
    cases List.mem_append.mp member with
    | inl before => exact tested.ordinary test before
    | inr last => exact List.mem_singleton.mp last ▸ ordinary
  once := by
    rw [List.map_append, List.map_singleton, List.nodup_append_comm, List.singleton_append,
      List.nodup_cons]
    rw [tested.seen, List.mem_toFinset] at first
    exact ⟨first, tested.once⟩
  seen := by
    rw [List.map_append, List.map_singleton, toFinset_snoc, tested.seen]
  unsupported := by
    cases unsupported : isUnsupported record with
    | true =>
        rw [if_pos rfl, unsupportedOf, List.filter_append, List.map_append,
          List.filter_singleton, unsupported, cond_true, List.map_singleton, toFinset_snoc,
          tested.unsupported, unsupportedOf]
    | false =>
        simp [tested.unsupported, unsupportedOf, List.filter_append, unsupported]

theorem Tested.card {tests : List JsValue} {s : State} (tested : Tested v tests s) :
    s.unsupportedTests.card = tests.countP isUnsupported := by
  have once : (unsupportedOf tests).Nodup :=
    tested.once.sublist (List.filter_sublist.map caseIdOf)
  rw [tested.unsupported, List.toFinset_card_of_nodup once, unsupportedOf, List.length_map,
    List.countP_eq_length_filter]

theorem Tested.summarize {tests : List JsValue} {record : JsValue} {passed failed : Nat}
    {s : State} {own : BitVec 32} (tested : Tested v tests s)
    (kind : caseIdOf record = text "summary") (reserved : text "summary" ∉ v.expectedTests)
    (reports : Reports record (text "summary") (text "summary") (text "completed"))
    (counts : Counts record passed failed (tests.countP isUnsupported)) :
    Summarized v tests record passed failed
      { s.advance own with summary := record.field (text "counts") } where
  booted := tested.booted
  tested := tested.passed
  expected := tested.expected
  ordinary := tested.ordinary
  once := tested.once
  seen := tested.seen
  kind := kind
  reserved := reserved
  reports := reports
  counts := counts
  kept := rfl

theorem Counts.given {record : JsValue} {passed failed unsupported : Nat}
    (counts : Counts record passed failed unsupported) :
    ∃ counts, record.field (text "counts") = some counts := by
  cases given : record.field (text "counts") with
  | none =>
      have number := counts.1
      rw [given] at number
      cases number
  | some counts => exact ⟨counts, rfl⟩

/-- The counts are the only ones that the validator compares as equal. -/
theorem Counts.unique {record counts : JsValue} {passed failed unsupported : Nat}
    {passed' failed' unsupported' : Nat} (one : Counts record passed failed unsupported)
    (given : record.field (text "counts") = some counts)
    (same : isNumber (counts.field (text "passed")) passed' = true
      ∧ isNumber (counts.field (text "failed")) failed' = true
      ∧ isNumber (orZero (counts.field (text "unsupported"))) unsupported' = true) :
    passed = passed' ∧ failed = failed' ∧ unsupported = unsupported' := by
  have samePassed := one.1
  have sameFailed := one.2.1
  have sameUnsupported := one.orZero_eq
  rw [given, Option.bind_some] at samePassed sameFailed sameUnsupported
  rw [isNumber_iff.mp samePassed, isNumber_iff.mp sameFailed, sameUnsupported, isNumber_num,
    isNumber_num, isNumber_num] at same
  exact_mod_cast same

theorem Read.snoc {records : List JsValue} {record : JsValue} {s t : State} {own : BitVec 32}
    {b : Bool} (read : Read v records s) (accepted : Accepts v (s.advance own) record b t) :
    Read v (records ++ [record]) t := by
  cases accepted with
  | boot kind fresh early running reports =>
      cases read with
      | nothing => exact .tests ⟨kind, reports⟩ (.start rfl rfl rfl rfl)
      | tests _ tested => exact absurd (tested.booted.symm.trans fresh) (by decide)
      | summary _ summarized _ => exact absurd (summarized.booted.symm.trans fresh) (by decide)
      | completion _ _ completed =>
          exact absurd (completed.symm.trans running) (by decide)
  | test kind expected booted early running first passed =>
      cases read with
      | nothing => cases booted
      | tests started tested => exact .tests started (tested.snoc kind expected first passed)
      | summary _ summarized _ =>
          obtain ⟨counts', given⟩ := summarized.counts.given
          exact absurd (given.symm.trans (summarized.kept.symm.trans early)) (by simp)
      | completion _ _ completed =>
          exact absurd (completed.symm.trans running) (by decide)
  | summary passed failed kind reserved booted early running reports counts =>
      cases read with
      | nothing => cases booted
      | tests started tested =>
          refine .summary started (tested.summarize kind reserved reports (?_ : Counts _ passed failed _)) ?_
          · rw [← tested.card]
            exact counts
          · exact running
      | summary _ summarized _ =>
          obtain ⟨counts', given⟩ := summarized.counts.given
          exact absurd (given.symm.trans (summarized.kept.symm.trans early)) (by simp)
      | completion _ _ completed =>
          exact absurd (completed.symm.trans running) (by decide)
  | completion summary passed failed unsupported kind reserved summarized running reports counts
      same final =>
      cases read with
      | nothing => cases summarized
      | tests _ tested => exact absurd (tested.early.symm.trans summarized) (by simp)
      | @summary _ _ before _ _ _ started read _ =>
          have given : before.field (text "counts") = some summary :=
            read.kept.symm.trans summarized
          have restated := read.counts
          obtain ⟨rfl, rfl, rfl⟩ := restated.unique given same
          exact List.append_assoc _ [before] [record] ▸
            Read.completion started { read with } rfl kind reserved reports counts final
      | completion _ _ completed =>
          exact absurd (completed.symm.trans running) (by decide)

/-- A run of accepted records is a chain, and its flags say what has been read. -/
theorem read_of_run {records : List JsValue} {s : State}
    (run : Run (accept convert v) unguarded State.initial records s) :
    s.failure = none
      ∧ Chain convert v.runId 0 0 records s.expectedSequence s.previousChecksum
      ∧ Read v records s := by
  induction run with
  | nil => exact ⟨rfl, ⟨rfl, rfl⟩, .nothing⟩
  | @snoc s t records record run _ taken ih =>
      obtain ⟨clean, chain, read⟩ := ih
      obtain ⟨own, b, linked, accepted⟩ := (accept_iff clean).mp taken
      refine ⟨accept_clean taken, chain_snoc.mpr ⟨_, _, chain, ?_, ?_⟩, read.snoc accepted⟩
      · cases accepted <;> exact linked
      · cases accepted <;> rfl

theorem result_passed_iff {s : State} :
    (result v s).passed = true ↔
      s.failure = none ∧ s.bootSeen = true ∧ s.seenTests.card = v.expectedTests.card
        ∧ s.completionSeen = true ∧ ∃ summary, s.summary = some summary
          ∧ isNumber (summary.field (text "failed")) 0 = true
          ∧ numberOf (summary.field (text "passed"))
              + numberOf (orZero (summary.field (text "unsupported"))) = v.expectedTests.card := by
  have missed : ∀ {guard : Prop} [Decidable guard] {failure : Failure} {next : Result},
      (if guard then Result.rejected failure else next).passed = true ↔
        ¬guard ∧ next.passed = true := by
    intro guard _ failure next
    by_cases blocked : guard
    · simp [blocked, Result.passed]
    · simp [blocked]
  simp only [result]
  split
  · next failed => simp [failed, Result.passed]
  · next clean =>
      rw [missed, missed]
      split
      · next missing => simp [missing, Result.passed]
      · next summary given =>
          rw [missed, missed]
          simp [clean, given, Result.passed, and_comm]

/-- Every test passed or was unsupported. -/
theorem tests_length {tests : List JsValue} (once : (tests.map caseIdOf).Nodup) :
    (tests.map caseIdOf).toFinset.card =
      tests.countP (!isUnsupported ·) + tests.countP isUnsupported := by
  rw [List.toFinset_card_of_nodup once, List.length_map,
    List.length_eq_countP_add_countP isUnsupported, Nat.add_comm]
  congr 1
  apply List.countP_congr
  intro test _
  simp

/-- As many tests as are expected are all of the expected ones. -/
theorem Summarized.all {tests : List JsValue} {summary : JsValue} {passed failed : Nat} {s : State}
    (summarized : Summarized v tests summary passed failed s)
    (size : s.seenTests.card = v.expectedTests.card) :
    (tests.map caseIdOf).toFinset = v.expectedTests := by
  rw [summarized.seen] at size
  refine Finset.eq_of_subset_of_card_le (fun name member => ?_) size.ge
  obtain ⟨test, among, rfl⟩ := List.mem_map.mp (List.mem_toFinset.mp member)
  exact summarized.expected test among

theorem complete_of_run {records : List JsValue} {s : State}
    (run : Run (accept convert v) unguarded State.initial records s)
    (passed : (result v s).passed = true) :
    ∃ boot tests summary completion m last, records = boot :: tests ++ [summary, completion]
      ∧ Chain convert v.runId 0 0 records m last ∧ Complete v boot tests summary completion := by
  obtain ⟨_, chain, read⟩ := read_of_run run
  obtain ⟨_, booted, size, completed, summary, given, unfailed, total⟩ := result_passed_iff.mp passed
  cases read with
  | nothing => cases booted
  | tests _ tested => exact absurd (tested.running.symm.trans completed) (by decide)
  | summary _ _ running => exact absurd (running.symm.trans completed) (by decide)
  | @completion boot tests before completion npassed nfailed _ started read _ kind _ reports counts final =>
      have all : (tests.map caseIdOf).toFinset = v.expectedTests := read.all size
      -- The counts of the summary can only be those of the records.
      have field : before.field (text "counts") = some summary := read.kept.symm.trans given
      have samePassed := read.counts.1
      have sameFailed := read.counts.2.1
      have sameUnsupported := read.counts.orZero_eq
      rw [field, Option.bind_some] at samePassed sameFailed sameUnsupported
      rw [isNumber_iff.mp sameFailed, isNumber_num, Nat.cast_eq_zero] at unfailed
      rw [isNumber_iff.mp samePassed, sameUnsupported, ← all, tests_length read.once] at total
      have passed_eq : npassed = tests.countP (!isUnsupported ·) := by
        simp only [numberOf] at total
        have sum : npassed + tests.countP isUnsupported =
            tests.countP (!isUnsupported ·) + tests.countP isUnsupported := by
          exact_mod_cast total
        omega
      subst unfailed passed_eq
      exact ⟨boot, tests, before, completion, _, _, rfl, chain, started,
        ⟨read.tested, read.once, all⟩, ⟨read.kind, read.reports, read.counts⟩,
        ⟨kind, reports, counts, final⟩⟩

/-- A run of these records ends in this state, which expects record `m` after `last`. -/
structure Reached (convert : JsValue → Option (BitVec 32)) (v : Validator)
    (records : List JsValue) (m : Nat) (last : BitVec 32) (s : State) : Prop where
  run : Run (accept convert v) unguarded State.initial records s
  clean : s.failure = none
  sequence : s.expectedSequence = m
  checksum : s.previousChecksum = last

theorem Reached.initial : Reached convert v [] 0 0 State.initial := ⟨.nil, rfl, rfl, rfl⟩

theorem Reached.snoc {records : List JsValue} {record : JsValue} {m : Nat} {last own : BitVec 32}
    {s t : State} {b : Bool} (reached : Reached convert v records m last s)
    (linked : Linked convert v.runId m last record own)
    (accepted : Accepts v (s.advance own) record b t) :
    Reached convert v (records ++ [record]) (m + 1) own t := by
  obtain ⟨run, clean, rfl, rfl⟩ := reached
  have taken := (accept_iff clean).mpr ⟨own, b, linked, accepted⟩
  refine ⟨.snoc run trivial taken, accept_clean taken, ?_, ?_⟩
  · cases accepted <;> rfl
  · cases accepted <;> rfl

/-- The tests of a complete stream are accepted one after the other. -/
theorem reached_tests {boot : JsValue} {tests : List JsValue} {m : Nat} {last : BitVec 32}
    (unreserved : text "boot" ∉ v.expectedTests) (started : IsBoot boot)
    (passed : ∀ test ∈ tests, TestPassed v test) (once : (tests.map caseIdOf).Nodup)
    (expected : ∀ test ∈ tests, caseIdOf test ∈ v.expectedTests)
    (chain : Chain convert v.runId 0 0 (boot :: tests) m last) :
    ∃ s, Reached convert v (boot :: tests) m last s ∧ Tested v tests s := by
  induction tests using List.reverseRecOn generalizing m last with
  | nil =>
      rw [← List.nil_append [boot]] at chain
      obtain ⟨k, first, ⟨rfl, rfl⟩, linked, rfl⟩ := chain_snoc.mp chain
      have booted := Reached.initial.snoc linked (.boot started.1 rfl rfl rfl started.2)
      exact ⟨_, booted, .start rfl rfl rfl rfl⟩
  | append_singleton tests record ih =>
      rw [← List.cons_append] at chain
      obtain ⟨k, before, earlier, linked, rfl⟩ := chain_snoc.mp chain
      rw [List.map_append, List.map_singleton, List.nodup_append_comm, List.singleton_append,
        List.nodup_cons] at once
      obtain ⟨s, reached, tested⟩ := ih
        (fun test member => passed test (List.mem_append_left _ member)) once.2
        (fun test member => expected test (List.mem_append_left _ member)) earlier
      have named := expected record (List.mem_append_right _ (List.mem_singleton_self _))
      have holds := passed record (List.mem_append_right _ (List.mem_singleton_self _))
      have first : caseIdOf record ∉ s.seenTests := by
        rw [tested.seen, List.mem_toFinset]
        exact once.1
      have ordinary : caseIdOf record ≠ text "boot" := fun same => unreserved (same ▸ named)
      exact ⟨_, reached.snoc linked (.test ordinary named tested.booted tested.early tested.running
        first holds), tested.snoc ordinary named first holds⟩

theorem run_of_complete {boot summary completion : JsValue} {tests : List JsValue} {m : Nat}
    {last : BitVec 32}
    (reserved : Disjoint v.expectedTests {text "boot", text "summary", text "completion"})
    (chain : Chain convert v.runId 0 0 (boot :: tests ++ [summary, completion]) m last)
    (complete : Complete v boot tests summary completion) :
    ∃ s, Run (accept convert v) unguarded State.initial (boot :: tests ++ [summary, completion]) s
      ∧ (result v s).passed = true := by
  simp only [Finset.disjoint_insert_right, Finset.disjoint_singleton_right] at reserved
  obtain ⟨unbooted, unsummarized, uncompleted⟩ := reserved
  have expected : ∀ test ∈ tests, caseIdOf test ∈ v.expectedTests := by
    intro test member
    rw [← complete.tested.all, List.mem_toFinset]
    exact List.mem_map_of_mem member
  have last_two : boot :: tests ++ [summary, completion] =
      boot :: tests ++ [summary] ++ [completion] := by simp
  rw [last_two] at chain ⊢
  obtain ⟨_, _, upToSummary, linkedCompletion, rfl⟩ := chain_snoc.mp chain
  obtain ⟨_, _, upToTests, linkedSummary, rfl⟩ := chain_snoc.mp upToSummary
  obtain ⟨s, reached, tested⟩ := reached_tests unbooted complete.started complete.tested.passed
    complete.tested.once expected upToTests
  have counted := complete.summarized.counts
  obtain ⟨counts, given⟩ := counted.given
  have same : isNumber (counts.field (text "passed")) (tests.countP (!isUnsupported ·)) = true
      ∧ isNumber (counts.field (text "failed")) (0 : Nat) = true
      ∧ isNumber (orZero (counts.field (text "unsupported"))) (tests.countP isUnsupported) = true := by
    have total := counted.orZero_eq
    obtain ⟨samePassed, sameFailed, _⟩ := counted
    rw [given, Option.bind_some] at samePassed sameFailed total
    exact ⟨samePassed, sameFailed, total ▸ isNumber_num.mpr rfl⟩
  have summarized := reached.snoc linkedSummary
    (.summary _ 0 complete.summarized.kind unsummarized tested.booted tested.early tested.running
      complete.summarized.reports (by rw [State.advance, tested.card]; exact counted))
  have completed := summarized.snoc linkedCompletion
    (.completion counts _ 0 _ complete.completed.kind uncompleted given tested.running
      complete.completed.reports complete.completed.counts same complete.completed.final)
  refine ⟨_, completed.run, result_passed_iff.mpr ⟨completed.clean, tested.booted, ?_, rfl, counts,
    given, ?_, ?_⟩⟩
  · exact congrArg Finset.card (tested.seen.trans complete.tested.all)
  · exact_mod_cast same.2.1
  · rw [isNumber_iff.mp same.1, isNumber_iff.mp same.2.2, ← complete.tested.all,
      tests_length complete.tested.once]
    simp [numberOf]

/-- A failure is the result of every observation that goes on after it. -/
theorem not_passed_of_failed {s : State} (failed : s.failure.isSome = true) :
    (result v s).passed = false := by
  obtain ⟨failure, given⟩ := Option.isSome_iff_exists.mp failed
  simp [result, given, Result.passed]

/-! ### Acceptance -/

theorem observeAll_observed (s : State) (lines : List Text) :
    observeAll convert v s (observed convert v s lines) = observeAll convert v s lines := by
  induction lines generalizing s with
  | nil => rfl
  | cons line lines ih =>
      simp only [observed, observeAll]
      split
      · next threw => simp [observeAll, threw]
      · next t returned => simp [observeAll, returned]
      · next t returned => simp [observeAll, returned, ih]

/-- Where a run passes, no expected test has the name of another kind of record. -/
theorem unreserved_of_run {records : List JsValue} {s : State}
    (run : Run (accept convert v) unguarded State.initial records s)
    (passed : (result v s).passed = true) :
    Disjoint v.expectedTests {text "boot", text "summary", text "completion"} := by
  obtain ⟨_, _, read⟩ := read_of_run run
  obtain ⟨_, booted, size, completed, _⟩ := result_passed_iff.mp passed
  cases read with
  | nothing => cases booted
  | tests _ tested => exact absurd (tested.running.symm.trans completed) (by decide)
  | summary _ _ running => exact absurd (running.symm.trans completed) (by decide)
  | @completion boot tests before completion _ _ _ started read _ kind reserved _ _ _ =>
      have all : (tests.map caseIdOf).toFinset = v.expectedTests := read.all size
      simp only [Finset.disjoint_insert_right, Finset.disjoint_singleton_right]
      refine ⟨fun boot => ?_, read.reserved, reserved⟩
      rw [← all, List.mem_toFinset] at boot
      obtain ⟨test, among, named⟩ := List.mem_map.mp boot
      exact read.ordinary test among named

theorem passed_iff {lines : List Text} :
    passed convert v lines = true ↔
      ∃ s, observeAll convert v State.initial lines = some s ∧ (result v s).passed = true := by
  rw [passed]
  cases observeAll convert v State.initial lines with
  | none => simp
  | some s => simp

/-- What is accepted is a complete stream whose tests are not named like other records. -/
theorem accepted_iff_stream {lines : List Text} :
    passed convert v lines = true ↔
      Disjoint v.expectedTests {text "boot", text "summary", text "completion"}
        ∧ Stream convert v (observed convert v State.initial lines) := by
  constructor
  · intro accepted
    obtain ⟨s, fed, accepted⟩ := passed_iff.mp accepted
    rw [observeAll_eq_feed] at fed
    obtain ⟨harmless, records, holds, run⟩ := run_of_feed rfl fed (result_passed_iff.mp accepted).1
    obtain ⟨boot, tests, summary, completion, m, last, rfl, chain, complete⟩ :=
      complete_of_run run accepted
    exact ⟨unreserved_of_run run accepted, harmless, boot, tests, summary, completion, m, last,
      holds, chain, complete⟩
  · rintro ⟨reserved, harmless, boot, tests, summary, completion, m, last, holds, chain, complete⟩
    obtain ⟨s, run, accepted⟩ := run_of_complete reserved chain complete
    have fed := observeAll_of_run rfl harmless holds run
    rw [observeAll_observed] at fed
    exact passed_iff.mpr ⟨s, fed, accepted⟩

/-- The validator accepts exactly the complete streams, and nothing after a rejected line
makes it accept. -/
theorem passed_iff_stream (convert : JsValue → Option (BitVec 32)) (v : Validator)
    (reserved : Disjoint v.expectedTests {text "boot", text "summary", text "completion"}) :
    (∀ lines, passed convert v lines = true ↔
      Stream convert v (observed convert v State.initial lines))
    ∧ ∀ s line b t, observe convert v s line = some (b, t) → t.failure.isSome = true →
      ∀ lines u, feed convert v t lines = some u → (result v u).passed = false := by
  refine ⟨fun lines => ⟨fun accepted => ?_, fun stream => ?_⟩, ?_⟩
  · exact (accepted_iff_stream.mp accepted).2
  · exact accepted_iff_stream.mpr ⟨reserved, stream⟩
  · intro s line b t _ failed lines u fed
    exact not_passed_of_failed (feed_sticks failed fed)

theorem passed_iff_stream_topic :
    let v : Validator := ⟨{text "topic:exact"}, ∅, text "embedded-swift-smoke-v2"⟩
    (∀ lines, passed (fun _ => some 0) v lines = true ↔
      Stream (fun _ => some 0) v (observed (fun _ => some 0) v State.initial lines))
    ∧ ∀ s line b t, observe (fun _ => some 0) v s line = some (b, t) → t.failure.isSome = true →
      ∀ lines u, feed (fun _ => some 0) v t lines = some u → (result v u).passed = false :=
  passed_iff_stream (fun _ => some 0) _ (by decide)

end AxolotyEmbedded.Smoke
