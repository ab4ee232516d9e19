import AxolotyEmbedded.Smoke.Validator

/-!
What the validator accepts one record at a time: the common checks put a record next in
the chain, and each kind of record has its own condition on the record and on the flags
that were set before it. Every other record leaves a failure behind.
-/
namespace AxolotyEmbedded.Smoke

section

variable (convert : JsValue → Option (BitVec 32))

/-- The record is number `sequence` of the chain and its checksum continues `previous`. -/
structure Linked (runId : Text) (sequence : Nat) (previous : BitVec 32) (record : JsValue)
    (own : BitVec 32) : Prop where
  object : record.isObject = true
  schema : isNumber (record.field (text "schemaVersion")) schemaVersion = true
  run : isText (record.field (text "runId")) runId = true
  position : isNumber (record.field (text "sequence")) sequence = true
  caseId : isString (record.field (text "caseId")) = true
  operation : isString (record.field (text "operation")) = true
  stage : recordStages.any (isText (record.field (text "stage"))) = true
  status : isString (record.field (text "status")) = true
  computed : checksum convert record previous = some own
  restated : isNumber (record.field (text "checksum")) own.toNat = true

end

def caseIdOf (record : JsValue) : Text := textOf (record.field (text "caseId"))

/-- Operation, stage and status of a record. -/
def Reports (record : JsValue) (operation stage status : Text) : Prop :=
  isText (record.field (text "operation")) operation = true
    ∧ isText (record.field (text "stage")) stage = true
    ∧ isText (record.field (text "status")) status = true

def isUnsupported (record : JsValue) : Bool :=
  isText (record.field (text "status")) (text "unsupported")

/-- A test record that passed, or an unsupported one that is allowed to be. -/
def TestPassed (v : Validator) (record : JsValue) : Prop :=
  Reports record (text "smokeCheck") (text "execute") (text "passed")
    ∨ Reports record (text "smokeCheck") (text "execute") (text "unsupported")
      ∧ caseIdOf record ∈ v.unsupportedTestsAllowed
      ∧ record.field (text "diagnostic") = none

/-- The counts of a summary or completion; a zero of unsupported records may be left out. -/
def Counts (record : JsValue) (passed failed unsupported : Nat) : Prop :=
  isNumber ((record.field (text "counts")).bind (Json.field (text "passed"))) passed = true
    ∧ isNumber ((record.field (text "counts")).bind (Json.field (text "failed"))) failed = true
    ∧ (isNumber ((record.field (text "counts")).bind (Json.field (text "unsupported")))
          unsupported = true
      ∨ unsupported = 0
        ∧ (record.field (text "counts")).bind (Json.field (text "unsupported")) = none)

def State.advance (s : State) (own : BitVec 32) : State :=
  { s with previousChecksum := own, expectedSequence := s.expectedSequence + 1 }

/-- The records that leave no failure, with what `observe` returns and the state after them. -/
inductive Accepts (v : Validator) (s : State) (record : JsValue) : Bool → State → Prop where
  | boot (kind : caseIdOf record = text "boot") (fresh : s.bootSeen = false)
      (early : s.summary = none) (running : s.completionSeen = false)
      (reports : Reports record (text "boot") (text "boot") (text "started")) :
      Accepts v s record false { s with bootSeen := true }
  | test (kind : caseIdOf record ≠ text "boot") (expected : caseIdOf record ∈ v.expectedTests)
      (booted : s.bootSeen = true) (early : s.summary = none) (running : s.completionSeen = false)
      (first : caseIdOf record ∉ s.seenTests) (passed : TestPassed v record) :
      Accepts v s record false
        { s with seenTests := insert (caseIdOf record) s.seenTests,
                 unsupportedTests :=
                   if isUnsupported record then insert (caseIdOf record) s.unsupportedTests
                   else s.unsupportedTests }
  | summary (passed failed : Nat) (kind : caseIdOf record = text "summary")
      (reserved : text "summary" ∉ v.expectedTests)
      (booted : s.bootSeen = true) (early : s.summary = none) (running : s.completionSeen = false)
      (reports : Reports record (text "summary") (text "summary") (text "completed"))
      (counts : Counts record passed failed s.unsupportedTests.card) :
      Accepts v s record false { s with summary := record.field (text "counts") }
  | completion (summary : JsValue) (passed failed unsupported : Nat)
      (kind : caseIdOf record = text "completion")
      (reserved : text "completion" ∉ v.expectedTests)
      (summarized : s.summary = some summary) (running : s.completionSeen = false)
      (reports : Reports record (text "complete") (text "completion") (text "completed"))
      (counts : Counts record passed failed unsupported)
      (same : isNumber (summary.field (text "passed")) passed = true
        ∧ isNumber (summary.field (text "failed")) failed = true
        ∧ isNumber (orZero (summary.field (text "unsupported"))) unsupported = true)
      (final : sameNumber (record.field (text "finalChecksum"))
        (record.field (text "checksum")) = true) :
      Accepts v s record true
        { s with completionMetrics := record.field (text "metrics"), completionSeen := true }

/-! ### Values -/

theorem isText_iff {value : Option JsValue} {t : Text} :
    isText value t = true ↔ value = some (.str t) := by
  simp only [isText]
  split
  · simp
  · next other =>
      constructor
      · intro impossible
        cases impossible
      · intro same
        exact absurd same (other t)

theorem isNumber_iff {value : Option JsValue} {q : ℚ} :
    isNumber value q = true ↔ value = some (.num (.finite q)) := by
  simp only [isNumber]
  split
  · simp
  · next other =>
      constructor
      · intro impossible
        cases impossible
      · intro same
        exact absurd same (other q)

theorem sameNumber_iff {left right : Option JsValue} :
    sameNumber left right = true ↔
      ∃ q : ℚ, left = some (.num (.finite q)) ∧ right = some (.num (.finite q)) := by
  simp only [sameNumber]
  split
  · next q =>
      simp [isNumber_iff]
  · next other =>
      constructor
      · intro impossible
        cases impossible
      · rintro ⟨q, same, _⟩
        exact absurd same (other q)

theorem isText_unique {value : Option JsValue} {t u : Text} (one : isText value t = true)
    (other : isText value u = true) : t = u := by
  rw [isText_iff] at one other
  rw [one] at other
  injection other with same
  injection same

/-- A valid count is a natural number. -/
theorem validCount_iff {value : Option JsValue} :
    validCount value = true ↔ ∃ n : Nat, isNumber value n = true := by
  constructor
  · intro valid
    simp only [validCount, Bool.and_eq_true, decide_eq_true_eq] at valid
    obtain ⟨whole, nonneg⟩ := valid
    match value, whole, nonneg with
    | some (.num (.finite q)), whole, nonneg =>
      simp only [numberOf] at nonneg
      simp only [isInteger, Binary64.isInteger] at whole
      obtain ⟨n, integer⟩ := Int.eq_ofNat_of_zero_le (Rat.num_nonneg.mpr nonneg)
      refine ⟨n, isNumber_iff.mpr ?_⟩
      have value_eq : q = (q.num : ℚ) := Rat.eq_num_of_isInt whole
      rw [integer] at value_eq
      rw [value_eq]
      simp
  · rintro ⟨n, number⟩
    rw [isNumber_iff] at number
    subst number
    simp [validCount, isInteger, Binary64.isInteger, numberOf, Rat.isInt]

/-! ### Kinds of records -/

theorem reject_failure (s : State) (stage : Text) (reason : Option JsValue) :
    (reject s stage reason).2.failure ≠ none := by
  cases failure : s.failure <;> simp [reject, failure]

theorem reject_kept {s s' : State} {stage : Text} {reason : Option JsValue} {b : Bool} :
    (reject s stage reason = (b, s') ∧ s'.failure = none) ↔ False := by
  constructor
  · rintro ⟨returned, clean⟩
    refine reject_failure s stage reason ?_
    rw [returned]
    exact clean
  · exact False.elim

/-- A guard that rejects is passed over by the calls that leave no failure. -/
theorem guard_kept {guard : Prop} [Decidable guard] {s s' : State} {stage : Text}
    {reason : Option JsValue} {b : Bool} {next : Bool × State} :
    ((if guard then reject s stage reason else next) = (b, s') ∧ s'.failure = none) ↔
      ¬guard ∧ next = (b, s') ∧ s'.failure = none := by
  by_cases blocked : guard
  · rw [if_pos blocked, reject_kept]
    simp only [blocked, not_true_eq_false, false_and]
  · rw [if_neg blocked]
    simp only [blocked, not_false_eq_true, true_and]

theorem observeBoot_iff {s s' : State} {record : JsValue} {b : Bool} (clean : s.failure = none) :
    (observeBoot s record = (b, s') ∧ s'.failure = none) ↔
      b = false ∧ s' = { s with bootSeen := true } ∧ s.bootSeen = false ∧ s.summary = none
        ∧ s.completionSeen = false
        ∧ Reports record (text "boot") (text "boot") (text "started") := by
  rw [observeBoot, guard_kept]
  simp only [Bool.or_eq_true, Bool.not_eq_true', not_or, Bool.not_eq_true, Bool.not_eq_false,
    Option.isSome_eq_false_iff, Option.isNone_iff_eq_none, Prod.mk.injEq, Reports]
  constructor
  · rintro ⟨⟨⟨⟨⟨⟨fresh, early⟩, running⟩, operation⟩, stage⟩, status⟩, ⟨rfl, rfl⟩, _⟩
    exact ⟨rfl, rfl, fresh, early, running, operation, stage, status⟩
  · rintro ⟨rfl, rfl, fresh, early, running, operation, stage, status⟩
    exact ⟨⟨⟨⟨⟨⟨fresh, early⟩, running⟩, operation⟩, stage⟩, status⟩, ⟨rfl, rfl⟩, clean⟩

theorem observeTest_iff {v : Validator} {s s' : State} {record : JsValue} {b : Bool}
    (clean : s.failure = none) :
    (observeTest v s record (caseIdOf record) = (b, s') ∧ s'.failure = none) ↔
      b = false
        ∧ s' = { s with seenTests := insert (caseIdOf record) s.seenTests,
                        unsupportedTests :=
                          if isUnsupported record then insert (caseIdOf record) s.unsupportedTests
                          else s.unsupportedTests }
        ∧ s.bootSeen = true ∧ s.summary = none ∧ s.completionSeen = false
        ∧ caseIdOf record ∉ s.seenTests ∧ TestPassed v record := by
  rw [observeTest, guard_kept, guard_kept]
  simp only [Bool.or_eq_true, Bool.not_eq_true', not_or, Bool.not_eq_true, Bool.not_eq_false,
    Option.isSome_eq_false_iff, Option.isNone_iff_eq_none]
  cases unsupported : isText (record.field (text "status")) (text "unsupported") with
  | true =>
      have never : isText (record.field (text "status")) (text "passed") = false :=
        Bool.eq_false_iff.mpr fun passed => absurd (isText_unique unsupported passed) (by decide)
      simp only [if_true, guard_kept, Option.isSome_iff_ne_none, not_not, Prod.mk.injEq, TestPassed,
        Reports, never, Bool.false_eq_true, and_false, false_or, unsupported, and_true,
        isUnsupported]
      constructor
      · rintro ⟨⟨⟨⟨⟨booted, early⟩, running⟩, operation⟩, stage⟩, first, allowed, quiet,
          ⟨rfl, rfl⟩, _⟩
        exact ⟨rfl, rfl, booted, early, running, first, ⟨operation, stage⟩, allowed, quiet⟩
      · rintro ⟨rfl, rfl, booted, early, running, first, ⟨operation, stage⟩, allowed, quiet⟩
        exact ⟨⟨⟨⟨⟨booted, early⟩, running⟩, operation⟩, stage⟩, first, allowed, quiet,
          ⟨rfl, rfl⟩, clean⟩
  | false =>
      simp only [Bool.false_eq_true, if_false, TestPassed, Reports, unsupported, and_false,
        false_and, or_false, isUnsupported]
      cases passed : isText (record.field (text "status")) (text "passed") with
      | true =>
          simp only [Bool.true_eq_false, if_false, Prod.mk.injEq, and_true]
          constructor
          · rintro ⟨⟨⟨⟨⟨booted, early⟩, running⟩, operation⟩, stage⟩, first, ⟨rfl, rfl⟩, _⟩
            exact ⟨rfl, rfl, booted, early, running, first, operation, stage⟩
          · rintro ⟨rfl, rfl, booted, early, running, first, operation, stage⟩
            exact ⟨⟨⟨⟨⟨booted, early⟩, running⟩, operation⟩, stage⟩, first, ⟨rfl, rfl⟩, clean⟩
      | false =>
          simp only [if_true, guard_kept, reject_kept, Bool.false_eq_true, and_false]

theorem validCounts_iff {record : JsValue} :
    validCounts (record.field (text "counts")) = true ↔
      ∃ passed failed unsupported, Counts record passed failed unsupported := by
  simp only [validCounts, Bool.and_eq_true, Bool.or_eq_true, validCount_iff,
    Option.isNone_iff_eq_none, Counts]
  constructor
  · rintro ⟨⟨⟨passed, isPassed⟩, ⟨failed, isFailed⟩⟩, missing | ⟨unsupported, given⟩⟩
    · exact ⟨passed, failed, 0, isPassed, isFailed, .inr ⟨rfl, missing⟩⟩
    · exact ⟨passed, failed, unsupported, isPassed, isFailed, .inl given⟩
  · rintro ⟨passed, failed, unsupported, isPassed, isFailed, given | ⟨_, missing⟩⟩
    · exact ⟨⟨⟨passed, isPassed⟩, ⟨failed, isFailed⟩⟩, .inr ⟨unsupported, given⟩⟩
    · exact ⟨⟨⟨passed, isPassed⟩, ⟨failed, isFailed⟩⟩, .inl missing⟩

theorem Counts.orZero_eq {record : JsValue} {passed failed unsupported : Nat}
    (counts : Counts record passed failed unsupported) :
    orZero ((record.field (text "counts")).bind (Json.field (text "unsupported"))) =
      .num (.finite unsupported) := by
  obtain ⟨_, _, given | ⟨rfl, missing⟩⟩ := counts
  · rw [isNumber_iff.mp given]
    rfl
  · rw [missing, orZero, Nat.cast_zero]

theorem isNumber_num {p q : ℚ} : isNumber (some (.num (.finite p))) q = true ↔ p = q := by
  simp [isNumber]

theorem isFinished_iff {record : JsValue} :
    isFinished record = true ∧ isText (record.field (text "status")) (text "failed") = false ↔
      isText (record.field (text "status")) (text "completed") = true := by
  simp only [isFinished, Bool.or_eq_true]
  constructor
  · rintro ⟨completed | failed, unfailed⟩
    · exact completed
    · rw [failed] at unfailed
      cases unfailed
  · intro completed
    refine ⟨.inl completed, Bool.eq_false_iff.mpr fun failed => ?_⟩
    exact absurd (isText_unique completed failed) (by decide)

theorem observeSummary_iff {s s' : State} {record : JsValue} {b : Bool}
    (clean : s.failure = none) :
    (observeSummary s record = (b, s') ∧ s'.failure = none) ↔
      b = false ∧ s' = { s with summary := record.field (text "counts") }
        ∧ s.bootSeen = true ∧ s.summary = none ∧ s.completionSeen = false
        ∧ Reports record (text "summary") (text "summary") (text "completed")
        ∧ ∃ passed failed, Counts record passed failed s.unsupportedTests.card := by
  simp only [observeSummary, guard_kept, Bool.or_eq_true, Bool.not_eq_true', not_or,
    Bool.not_eq_true, Bool.not_eq_false, Option.isSome_eq_false_iff, Option.isNone_iff_eq_none,
    validCounts_iff, Prod.mk.injEq, Reports, ← isFinished_iff]
  constructor
  · rintro ⟨⟨⟨⟨⟨⟨⟨booted, early⟩, running⟩, operation⟩, stage⟩, finished⟩, passed, failed, _, counts⟩,
      unfailed, number, _, ⟨rfl, rfl⟩, _⟩
    rw [counts.orZero_eq, isNumber_num, Nat.cast_inj] at number
    exact ⟨rfl, rfl, booted, early, running, ⟨operation, stage, finished, unfailed⟩,
      passed, failed, number ▸ counts⟩
  · rintro ⟨rfl, rfl, booted, early, running, ⟨operation, stage, finished, unfailed⟩,
      passed, failed, counts⟩
    refine ⟨⟨⟨⟨⟨⟨⟨booted, early⟩, running⟩, operation⟩, stage⟩, finished⟩, passed, failed, _, counts⟩,
      unfailed, ?_, ?_, ⟨rfl, rfl⟩, clean⟩
    · rw [counts.orZero_eq, isNumber_num]
    · rintro ⟨some_unsupported, omitted⟩
      have none_counted := counts.orZero_eq
      rw [omitted] at none_counted
      simp only [orZero, Json.num.injEq, Binary64.finite.injEq] at none_counted
      exact absurd (Nat.cast_eq_zero.mp none_counted.symm) (Nat.pos_iff_ne_zero.mp some_unsupported)

theorem observeCompletion_iff {s s' : State} {record : JsValue} {b : Bool}
    (clean : s.failure = none) :
    (observeCompletion s record = (b, s') ∧ s'.failure = none) ↔
      b = true
        ∧ s' = { s with completionMetrics := record.field (text "metrics"), completionSeen := true }
        ∧ s.completionSeen = false
        ∧ Reports record (text "complete") (text "completion") (text "completed")
        ∧ sameNumber (record.field (text "finalChecksum")) (record.field (text "checksum")) = true
        ∧ ∃ summary passed failed unsupported, s.summary = some summary
          ∧ Counts record passed failed unsupported
          ∧ isNumber (summary.field (text "passed")) passed = true
          ∧ isNumber (summary.field (text "failed")) failed = true
          ∧ isNumber (orZero (summary.field (text "unsupported"))) unsupported = true := by
  cases summarized : s.summary with
  | none =>
      simp only [observeCompletion, summarized, reject_kept, reduceCtorEq, false_and, exists_false,
        and_false]
  | some summary =>
      simp only [observeCompletion, summarized, guard_kept, Bool.or_eq_true, Bool.not_eq_true', not_or,
        Bool.not_eq_true, Bool.not_eq_false, validCounts_iff, Prod.mk.injEq, Reports, ← isFinished_iff]
      constructor
      · rintro ⟨⟨⟨⟨⟨⟨⟨⟨⟨running, operation⟩, stage⟩, finished⟩, passed, failed, unsupported, counts⟩,
          samePassed⟩, sameFailed⟩, sameUnsupported⟩, final⟩, unfailed, ⟨rfl, rfl⟩, _⟩
        rw [isNumber_iff.mp counts.1] at samePassed
        rw [isNumber_iff.mp counts.2.1] at sameFailed
        rw [counts.orZero_eq] at sameUnsupported
        exact ⟨rfl, rfl, running, ⟨operation, stage, finished, unfailed⟩, final, summary, passed,
          failed, unsupported, rfl, counts, samePassed, sameFailed, sameUnsupported⟩
      · rintro ⟨rfl, rfl, running, ⟨operation, stage, finished, unfailed⟩, final, _, passed, failed,
          unsupported, same, counts, samePassed, sameFailed, sameUnsupported⟩
        obtain rfl := Option.some.inj same
        refine ⟨⟨⟨⟨⟨⟨⟨⟨⟨running, operation⟩, stage⟩, finished⟩, passed, failed, unsupported, counts⟩,
          ?_⟩, ?_⟩, ?_⟩, final⟩, unfailed, ⟨rfl, rfl⟩, clean⟩
        · rw [isNumber_iff.mp counts.1]
          exact samePassed
        · rw [isNumber_iff.mp counts.2.1]
          exact sameFailed
        · rw [counts.orZero_eq]
          exact sameUnsupported

/-- A record of some kind is accepted exactly in the states its kind asks for. -/
theorem observeKind_iff {v : Validator} {s s' : State} {record : JsValue} {b : Bool}
    (clean : s.failure = none) :
    (observeKind v s record = (b, s') ∧ s'.failure = none) ↔ Accepts v s record b s' := by
  have clear : observeKind v s record =
      if caseIdOf record = text "boot" then observeBoot s record
      else if caseIdOf record ∈ v.expectedTests then observeTest v s record (caseIdOf record)
      else if caseIdOf record = text "summary" then observeSummary s record
      else if caseIdOf record = text "completion" then observeCompletion s record
      else reject s (text "execute")
        (some (.str (text "unknown case identifier: " ++ caseIdOf record))) := rfl
  constructor
  · rw [clear]
    split
    · next boot =>
        rw [observeBoot_iff clean]
        rintro ⟨rfl, rfl, fresh, early, running, reports⟩
        exact .boot boot fresh early running reports
    · next boot =>
        split
        · next expected =>
            rw [observeTest_iff clean]
            rintro ⟨rfl, rfl, booted, early, running, first, passed⟩
            exact .test boot expected booted early running first passed
        · next unexpected =>
            split
            · next summary =>
                rw [observeSummary_iff clean]
                rintro ⟨rfl, rfl, booted, early, running, reports, passed, failed, counts⟩
                exact .summary passed failed summary (summary ▸ unexpected) booted early running
                  reports counts
            · split
              · next completion =>
                  rw [observeCompletion_iff clean]
                  rintro ⟨rfl, rfl, running, reports, final, summary, passed, failed, unsupported,
                    summarized, counts, same⟩
                  exact .completion summary passed failed unsupported completion
                    (completion ▸ unexpected) summarized running reports counts same final
              · rw [reject_kept]
                exact False.elim
  · intro accepted
    rw [clear]
    cases accepted with
    | boot kind fresh early running reports =>
        rw [if_pos kind, observeBoot_iff clean]
        exact ⟨rfl, rfl, fresh, early, running, reports⟩
    | test kind expected booted early running first passed =>
        rw [if_neg kind, if_pos expected, observeTest_iff clean]
        exact ⟨rfl, rfl, booted, early, running, first, passed⟩
    | summary passed failed kind reserved booted early running reports counts =>
        rw [if_neg (by rw [kind]; decide), if_neg (by rw [kind]; exact reserved), if_pos kind,
          observeSummary_iff clean]
        exact ⟨rfl, rfl, booted, early, running, reports, passed, failed, counts⟩
    | completion summary passed failed unsupported kind reserved summarized running reports counts
        same final =>
        rw [if_neg (by rw [kind]; decide), if_neg (by rw [kind]; exact reserved),
          if_neg (by rw [kind]; decide), if_pos kind, observeCompletion_iff clean]
        exact ⟨rfl, rfl, running, reports, final, summary, passed, failed, unsupported, summarized,
          counts, same⟩

/-! ### The common checks -/

theorem check_passed {guard : Prop} [Decidable guard] {reason : Text}
    {next : Option (Option Text)} :
    (if guard then some (some reason) else next) = some none ↔ ¬guard ∧ next = some none := by
  by_cases failed : guard
  · simp [failed]
  · simp [failed]

theorem isInteger_natCast {value : Option JsValue} {n : Nat} (number : isNumber value n = true) :
    isInteger value = true ∧ numberOf value = n := by
  rw [isNumber_iff.mp number]
  exact ⟨by simp [isInteger, Binary64.isInteger, Rat.isInt], rfl⟩

/-- The common checks find nothing exactly when the record is the next one of the chain. -/
theorem commonFailure_iff {convert : JsValue → Option (BitVec 32)} {v : Validator} {s : State}
    {record : JsValue} :
    commonFailure convert v s record = some none ↔
      ∃ own, Linked convert v.runId s.expectedSequence s.previousChecksum record own := by
  simp only [commonFailure, check_passed, Bool.or_eq_true, Bool.not_eq_true', not_or,
    Bool.not_eq_false, Option.map_eq_some_iff, decide_eq_true_eq]
  constructor
  · rintro ⟨object, ⟨schema, run⟩, position, ⟨caseId, operation⟩, stage, status, _, own, computed,
      restated⟩
    split at restated
    · next same =>
        exact ⟨own, object, schema, run, position, caseId, operation, stage, status, computed, same⟩
    · cases restated
  · rintro ⟨own, linked⟩
    obtain ⟨whole, value⟩ := isInteger_natCast linked.restated
    have bound : own.toNat < 2 ^ 32 := own.isLt
    refine ⟨linked.object, ⟨linked.schema, linked.run⟩, linked.position,
      ⟨linked.caseId, linked.operation⟩, linked.stage, linked.status, ⟨⟨whole, ?_⟩, ?_⟩, own,
      linked.computed, if_pos linked.restated⟩
    · rw [value]
      exact not_lt.mpr (Nat.cast_nonneg _)
    · rw [value]
      have small : (own.toNat : ℚ) ≤ 0xffffffff := by
        have within : own.toNat ≤ 0xffffffff := by omega
        exact_mod_cast within
      exact not_lt.mpr small

theorem own_eq {value : Option JsValue} {own : BitVec 32}
    (restated : isNumber value own.toNat = true) :
    BitVec.ofInt 32 (numberOf value).num = own := by
  rw [(isInteger_natCast restated).2, Rat.num_natCast, BitVec.ofInt_natCast, BitVec.ofNat_toNat,
    BitVec.setWidth_eq]

/-- What one record may do without leaving a failure. -/
theorem observeRecord_iff {convert : JsValue → Option (BitVec 32)} {v : Validator} {s s' : State}
    {record : JsValue} {b : Bool} (clean : s.failure = none) :
    (observeRecord convert v s record = some (b, s') ∧ s'.failure = none) ↔
      ∃ own, Linked convert v.runId s.expectedSequence s.previousChecksum record own
        ∧ Accepts v (s.advance own) record b s' := by
  simp only [observeRecord, Option.map_eq_some_iff]
  constructor
  · rintro ⟨⟨failed, common, returned⟩, kept⟩
    cases failed with
    | some reason => exact (reject_kept.mp ⟨returned, kept⟩).elim
    | none =>
        obtain ⟨own, linked⟩ := commonFailure_iff.mp common
        have cleared : (s.advance own).failure = none := clean
        refine ⟨own, linked, (observeKind_iff cleared).mp ⟨?_, kept⟩⟩
        rw [← returned, own_eq linked.restated]
        rfl
  · rintro ⟨own, linked, accepted⟩
    have cleared : (s.advance own).failure = none := clean
    obtain ⟨returned, kept⟩ := (observeKind_iff cleared).mpr accepted
    refine ⟨⟨none, commonFailure_iff.mpr ⟨own, linked⟩, ?_⟩, kept⟩
    rw [← returned, own_eq linked.restated]
    rfl

end AxolotyEmbedded.Smoke
