import AxolotyEmbedded.FirstInit.Epoch
import AxolotyEmbedded.Library.JsonParse

/-!
What the selected epoch holds: one banner and one completion, and the boot records that stand
before the completion, however many; and that a boot appended to a capture changes nothing.
-/
namespace AxolotyEmbedded.FirstInit

open ByteLines PythonText Checked

variable {ν : Type} (loads : Bytes → Except LoadsError (Json ν))

/-! ## The records of a capture -/

/-- A test on the row of a line; a line without a row fails it. -/
def rowIs (test : List (Text × Json ν) → Bool) (line : Bytes) : Bool :=
  match rowOf loads line with
  | .ok row => test row
  | .error _ => false

def smokeRecord (line : Bytes) : Bool := rowIs loads isSmoke line

def bootRecord (line : Bytes) : Bool := rowIs loads isBoot line

def completionRecord (line : Bytes) : Bool := rowIs loads isCompletion line

/-- The records of a single boot. -/
structure SingleBoot (epoch : Bytes) : Prop where
  banner : (keptLines epoch).countP romBanner = 1
  boots : (keptLines epoch).countP (bootRecord loads) ≤ 1
  completion : (keptLines epoch).countP (completionRecord loads) = 1

/-- The lines of a capture before its first completion. -/
def beforeCompletion (raw : Bytes) : List Bytes :=
  (keptLines raw).takeWhile fun line => !completionRecord loads line

/-- No boot record repeats before the first completion. -/
def BootsOnce (raw : Bytes) : Prop :=
  (beforeCompletion loads raw).countP (bootRecord loads) ≤ 1

/-- A suffix that begins with another boot: with a banner, or with a reset once the capture
holds a record. -/
structure AnotherBoot (raw suffix : Bytes) : Prop where
  banner : ∃ line ∈ keptLines raw, romBanner line = true
  ended : raw.getLast? = some 0x0A
  begins : ∃ first later, keptLines suffix = first :: later ∧
    (romBanner first = true ∨ resetReason first = true ∧
      ∃ line ∈ keptLines raw, calibrationRow line = true ∨ smokeRecord loads line = true)

theorem takeWhile_append_of_stop {α : Type} {p : α → Bool} {first : List α}
    (stops : ∃ a ∈ first, p a = false) (later : List α) :
    (first ++ later).takeWhile p = first.takeWhile p := by
  obtain ⟨a, held, stop⟩ := stops
  rw [List.takeWhile_append, if_neg]
  intro same
  have whole : first.takeWhile p = first := (List.takeWhile_prefix p).eq_of_length same
  have all : (first.takeWhile p).all p = true := List.all_takeWhile
  rw [whole] at all
  have passes := List.all_eq_true.mp all a held
  rw [stop] at passes
  cases passes

/-! ## The lines that were read -/

/-- What the state says of the lines that led to it. -/
structure Holds (read : List Bytes) (state : EpochState) : Prop where
  offset : state.offset = read.flatten.length
  banner : read.countP romBanner = if state.romSeen then 1 else 0
  completion : read.countP (completionRecord loads) = if state.completion.isSome then 1 else 0
  within : ∀ stop ∈ state.completion, stop ≤ state.offset
  activity : state.activity =
    read.any fun line => calibrationRow line || smokeRecord loads line
  boots : read.countP (bootRecord loads) =
    (read.takeWhile fun line => !completionRecord loads line).countP (bootRecord loads)

variable {loads}

section Steps

variable {read : List Bytes} {state after : EpochState} {line : Bytes}
  {row : List (Text × Json ν)}

theorem memberIs_iff {name value : String} :
    memberIs row name value = true ↔
      (Json.obj row).field (text name) = some (.str (text value)) := by
  rw [memberIs]
  split
  · next found holds => rw [holds, decide_eq_true_eq, Option.some.injEq, Json.str.injEq]
  · next other =>
      refine ⟨nofun, fun holds => ?_⟩
      exact absurd holds (other _)

theorem isSmoke_of_isCompletion (completes : isCompletion row = true) : isSmoke row = true := by
  rw [isCompletion, Bool.and_eq_true, Bool.and_eq_true] at completes
  exact completes.1.1

/-- The two cases have different names. -/
theorem isBoot_of_isCompletion (completes : isCompletion row = true) : isBoot row = false := by
  rw [isCompletion, Bool.and_eq_true, Bool.and_eq_true] at completes
  cases boots : memberIs row "caseId" "boot" with
  | false => rw [isBoot, boots, Bool.and_false]
  | true =>
      have same := (memberIs_iff.mp completes.1.2).symm.trans (memberIs_iff.mp boots)
      exact absurd (Json.str.inj (Option.some.inj same)) (by decide)

theorem readRecord_next (read : readRecord state line row = .ok (.next after)) :
    after = ⟨state.offset + line.length, state.romSeen, state.activity || isSmoke row,
        if isCompletion row then some (state.offset + line.length) else state.completion⟩ ∧
      (isBoot row = true → state.activity = true → state.completion = none) ∧
      (isCompletion row = true → state.completion = none) := by
  rw [readRecord] at read
  by_cases smoke : isSmoke row = true
  · rw [if_pos smoke] at read
    by_cases boots : (memberIs row "caseId" "boot" && state.activity && state.completion.isSome) = true
    · rw [if_pos boots] at read
      cases read
    · rw [if_neg boots] at read
      have once : isBoot row = true → state.activity = true → state.completion = none := by
        intro boot active
        rw [isBoot, smoke, Bool.true_and] at boot
        simpa [boot, active] using boots
      by_cases completes : isCompletion row = true
      · rw [if_pos completes] at read
        by_cases already : state.completion.isSome = true
        · rw [if_pos already] at read
          cases read
        · rw [if_neg already] at read
          obtain rfl := LineOutcome.next.inj (Except.ok.inj read)
          refine ⟨?_, once, fun _ => by simpa using already⟩
          simp [EpochState.pass, completes, smoke]
      · rw [if_neg completes] at read
        obtain rfl := LineOutcome.next.inj (Except.ok.inj read)
        refine ⟨?_, once, fun completed => absurd completed completes⟩
        simp [EpochState.pass, completes, smoke]
  · rw [if_neg smoke] at read
    obtain rfl := LineOutcome.next.inj (Except.ok.inj read)
    have neither : isCompletion row = false ∧ isBoot row = false := by
      simp [isCompletion, isBoot, smoke]
    refine ⟨?_, fun boot => ?_, fun completed => ?_⟩
    · simp [EpochState.pass, neither.1, smoke]
    · rw [neither.2] at boot
      cases boot
    · rw [neither.1] at completed
      cases completed

theorem readRecord_ended (read : readRecord state line row = .ok (.ended after)) :
    after = state ∧ state.completion.isSome = true := by
  rw [readRecord] at read
  split at read
  · split at read
    · next boots =>
        obtain rfl := LineOutcome.ended.inj (Except.ok.inj read)
        rw [Bool.and_eq_true] at boots
        exact ⟨rfl, boots.2⟩
    · split at read
      · split at read <;> cases read
      · cases read
  · cases read

theorem readLine_cases {outcome : LineOutcome} (read : readLine loads state line = .ok outcome) :
    state.isReset line = true ∧ outcome = .ended state ∨
      state.isReset line = false ∧ ∃ row, rowOf loads line = .ok row ∧
        readRecord ⟨state.offset, state.romSeen || romBanner line,
          state.activity || calibrationRow line, state.completion⟩ line row = .ok outcome := by
  rw [readLine] at read
  by_cases resets : state.isReset line = true
  · rw [if_pos resets] at read
    exact .inl ⟨resets, (Except.ok.inj read).symm⟩
  · rw [if_neg resets] at read
    split at read
    · obtain ⟨row, held, record⟩ := bind_eq_ok.mp read
      exact .inr ⟨by simpa using resets, row, held, record⟩
    · cases read

/-- A completion is a record, so it leaves the loop active. -/
theorem Holds.active (holds : Holds loads read state) (completed : state.completion.isSome = true) :
    state.activity = true := by
  have counted := holds.completion
  rw [if_pos completed] at counted
  obtain ⟨line, held, completes⟩ := List.countP_pos_iff.mp (counted ▸ Nat.one_pos)
  rw [holds.activity]
  refine List.any_eq_true.mpr ⟨line, held, ?_⟩
  have smoke : smokeRecord loads line = true := by
    simp only [completionRecord, smokeRecord, rowIs] at completes ⊢
    split at completes
    · exact isSmoke_of_isCompletion completes
    · cases completes
  rw [smoke, Bool.or_true]

theorem readLine_ended (holds : Holds loads read state)
    (ended : readLine loads state line = .ok (.ended after)) :
    after.offset = state.offset ∧ after.completion = state.completion ∧
      after.romSeen = state.romSeen := by
  obtain ⟨-, same⟩ | ⟨goesOn, row, -, record⟩ := readLine_cases ended
  · obtain rfl := LineOutcome.ended.inj same
    exact ⟨rfl, rfl, rfl⟩
  · obtain ⟨rfl, completed⟩ := readRecord_ended record
    have active := holds.active completed
    have noBanner : romBanner line = false := by
      cases banner : romBanner line with
      | false => rfl
      | true => simp [EpochState.isReset, banner, active] at goesOn
    exact ⟨rfl, rfl, by rw [noBanner, Bool.or_false]⟩

theorem readLine_next (holds : Holds loads read state)
    (passed : readLine loads state line = .ok (.next after)) :
    Holds loads (read ++ [line]) after := by
  obtain ⟨-, same⟩ | ⟨goesOn, row, held, record⟩ := readLine_cases passed
  · cases same
  · obtain ⟨rfl, once, first⟩ := readRecord_next record
    have boots : bootRecord loads line = isBoot row := by simp [bootRecord, rowIs, held]
    have completes : completionRecord loads line = isCompletion row := by
      simp [completionRecord, rowIs, held]
    have smoke : smokeRecord loads line = isSmoke row := by simp [smokeRecord, rowIs, held]
    have counts : ∀ test : Bytes → Bool, (read ++ [line]).countP test =
        read.countP test + if test line then 1 else 0 := fun test => by
      rw [List.countP_append, List.countP_singleton]
    constructor
    · simp [holds.offset]
    · rw [counts, holds.banner]
      cases banner : romBanner line with
      | false => simp
      | true =>
          have unseen : state.romSeen = false := by
            simp only [EpochState.isReset, banner, if_true, Bool.or_eq_false_iff] at goesOn
            exact goesOn.1
          simp [unseen]
    · rw [counts, holds.completion, completes]
      cases completed : isCompletion row with
      | false => simp
      | true => simp [show state.completion = none from first completed]
    · intro stop held
      cases completed : isCompletion row with
      | false =>
          have earlier := holds.within stop (by simpa [completed] using held)
          exact Nat.le_trans earlier (Nat.le_add_right _ _)
      | true =>
          obtain rfl : state.offset + line.length = stop := by simpa [completed] using held
          exact Nat.le_refl _
    · rw [List.any_append, ← holds.activity, List.any_cons, List.any_nil, smoke, Bool.or_false,
        Bool.or_assoc]
    · cases completion : state.completion with
      | some stop =>
          have completed : state.completion.isSome = true := by rw [completion]; rfl
          have noBoot : isBoot row = false := by
            cases boot : isBoot row with
            | false => rfl
            | true =>
                have missing := once boot (by simp [holds.active completed])
                rw [completion] at missing
                cases missing
          have earlier := holds.completion
          rw [if_pos completed] at earlier
          obtain ⟨other, inside, completes⟩ := List.countP_pos_iff.mp (earlier ▸ Nat.one_pos)
          rw [takeWhile_append_of_stop ⟨other, inside, by simp [completes]⟩, ← holds.boots, counts,
            boots, noBoot]
          rfl
      | none =>
          have none_completes : ∀ other ∈ read, (!completionRecord loads other) = true := by
            have missing := holds.completion
            rw [completion] at missing
            have all := List.countP_eq_zero.mp missing
            exact fun other inside => by simpa using all other inside
          rw [List.takeWhile_append_of_pos none_completes, counts, List.countP_append, boots]
          cases completed : isCompletion row with
          | false => simp [completes, completed, boots]
          | true => simp [completes, completed, isBoot_of_isCompletion completed]

end Steps

/-! ## Whole captures -/

section Captures

variable {raw suffix epoch : Bytes} {read lines more : List Bytes} {state last : EpochState}
  {stop : Option Nat} {boundary : EpochBoundary}

theorem holds_start : Holds loads [] .start :=
  ⟨rfl, rfl, rfl, nofun, rfl, rfl⟩

/-- The lines before the end of the epoch are those that the last state speaks of. -/
theorem readLines_spec (holds : Holds loads read state)
    (ran : readLines loads state lines = .ok (last, stop)) :
    ∃ first later final, lines = first ++ later ∧ Holds loads (read ++ first) final ∧
      last.romSeen = final.romSeen ∧ last.completion = final.completion ∧
      (stop = some final.offset ∨ stop = none ∧ later = [] ∧ last = final) := by
  induction lines generalizing read state with
  | nil =>
      obtain ⟨rfl, rfl⟩ := Prod.mk.inj (Except.ok.inj ran)
      exact ⟨[], [], state, rfl, by rwa [List.append_nil], rfl, rfl, .inr ⟨rfl, rfl, rfl⟩⟩
  | cons line lines ih =>
      rw [readLines] at ran
      cases outcome : readLine loads state line with
      | error error =>
          rw [outcome] at ran
          cases ran
      | ok outcome' =>
          rw [outcome] at ran
          cases outcome' with
          | next after =>
              obtain ⟨first, later, final, rfl, kept, rest⟩ := ih (readLine_next holds outcome) ran
              rw [List.append_assoc] at kept
              exact ⟨line :: first, later, final, rfl, kept, rest⟩
          | ended after =>
              obtain ⟨rfl, rfl⟩ := Prod.mk.inj (Except.ok.inj ran)
              obtain ⟨offset, completion, romSeen⟩ := readLine_ended holds outcome
              exact ⟨[], line :: lines, state, rfl, by rwa [List.append_nil], romSeen, completion,
                .inl (by rw [offset])⟩

theorem selectEpoch_ok {limit : Nat} (selected : selectEpoch raw state limit = .ok (epoch, boundary)) :
    state.romSeen = true ∧ state.completion.isSome = true ∧ epoch = raw.take limit := by
  rw [selectEpoch] at selected
  split at selected
  · next completion held =>
      split at selected
      · next fits =>
          obtain ⟨rfl, -⟩ := Prod.mk.inj (Except.ok.inj selected)
          rw [Bool.and_eq_true] at fits
          exact ⟨fits.1, by rw [held]; rfl, rfl⟩
      · cases selected
  · cases selected

/-- The epoch that is returned is made of the first lines of the capture. -/
theorem firstEpoch_spec (returned : firstEpoch loads raw = .ok (epoch, boundary)) :
    ∃ first later final, keptLines raw = first ++ later ∧ keptLines epoch = first ∧
      Holds loads first final ∧ final.romSeen = true ∧ final.completion.isSome = true := by
  obtain ⟨⟨last, stop⟩, ran, selected⟩ := bind_eq_ok.mp returned
  obtain ⟨first, later, final, split, holds, romSeen, completion, ending⟩ :=
    readLines_spec holds_start ran
  obtain ⟨seen, completed, rfl⟩ := selectEpoch_ok selected
  rw [List.nil_append] at holds
  refine ⟨first, later, final, split, ?_, holds, romSeen ▸ seen, completion ▸ completed⟩
  have whole : raw = first.flatten ++ later.flatten := by
    rw [← List.flatten_append, ← split, flatten_keptLines]
  have cut : stop.getD raw.length = first.flatten.length := by
    obtain rfl | ⟨rfl, rfl, rfl⟩ := ending
    · exact holds.offset
    · rw [whole]
      simp
  rw [cut, whole, List.take_left]
  exact keptLines_flatten_of_append split

theorem singleBoot_iff (returned : firstEpoch loads raw = .ok (epoch, boundary)) :
    SingleBoot loads epoch ↔ BootsOnce loads raw := by
  obtain ⟨first, later, final, split, rfl, holds, romSeen, completed⟩ := firstEpoch_spec returned
  have banner := holds.banner
  have completion := holds.completion
  rw [if_pos romSeen] at banner
  rw [if_pos completed] at completion
  obtain ⟨line, held, completes⟩ := List.countP_pos_iff.mp (completion ▸ Nat.one_pos)
  have before : beforeCompletion loads raw =
      (keptLines epoch).takeWhile fun line => !completionRecord loads line := by
    rw [beforeCompletion, split, takeWhile_append_of_stop ⟨line, held, by simp [completes]⟩]
  have boots : (keptLines epoch).countP (bootRecord loads) =
      (beforeCompletion loads raw).countP (bootRecord loads) := by
    rw [before, holds.boots]
  rw [BootsOnce, ← boots]
  exact ⟨SingleBoot.boots, fun once => ⟨banner, once, completion⟩⟩

theorem readLines_append :
    readLines loads state (lines ++ more) = readLines loads state lines >>= fun ended =>
      ended.2.elim (readLines loads ended.1 more) fun stop => .ok (ended.1, some stop) := by
  induction lines generalizing state with
  | nil => rfl
  | cons line lines ih =>
      rw [List.cons_append, readLines, readLines]
      cases readLine loads state line with
      | error error => rfl
      | ok outcome =>
          cases outcome with
          | next after => exact ih
          | ended after => rfl

/-- Up to the end of the capture, what is appended to it does not matter to the selection. -/
theorem selectEpoch_append {limit : Nat} (within : limit ≤ raw.length) (suffix : Bytes) :
    (selectEpoch (raw ++ suffix) state limit).map Prod.fst =
      (selectEpoch raw state limit).map Prod.fst := by
  rw [selectEpoch, selectEpoch, List.take_append_of_le_length within]
  cases state.completion with
  | none => rfl
  | some completion =>
      by_cases fits : (state.romSeen && decide (completion ≤ limit)) = true
      · simp only [if_pos fits]
        rfl
      · simp only [if_neg fits]

/-- The first line of another boot ends the loop that read a whole capture. -/
theorem isReset_anotherBoot (another : AnotherBoot loads raw suffix)
    (holds : Holds loads (keptLines raw) last) {first : Bytes} {later : List Bytes}
    (split : keptLines suffix = first :: later) : last.isReset first = true := by
  obtain ⟨line, held, banner⟩ := another.banner
  have romSeen : last.romSeen = true := by
    have counted : 0 < (keptLines raw).countP romBanner :=
      List.countP_pos_iff.mpr ⟨line, held, banner⟩
    rw [holds.banner] at counted
    cases seen : last.romSeen with
    | true => rfl
    | false => simp [seen] at counted
  obtain ⟨begun, rest, same, begins⟩ := another.begins
  obtain ⟨rfl, -⟩ := List.cons.inj (split.symm.trans same)
  rw [EpochState.isReset]
  cases shown : romBanner first with
  | true => rw [if_pos rfl, romSeen, Bool.true_or]
  | false =>
      obtain absent | ⟨reset, record⟩ := begins
      · rw [shown] at absent
        cases absent
      · have active : last.activity = true := by
          rw [holds.activity]
          obtain ⟨other, inside, kind⟩ := record
          refine List.any_eq_true.mpr ⟨other, inside, ?_⟩
          rwa [Bool.or_eq_true]
        rw [if_neg (by simp), reset, active]
        rfl

/-- A capture and the same capture followed by another boot give one epoch or one error. -/
theorem firstEpoch_append (another : AnotherBoot loads raw suffix) :
    (firstEpoch loads (raw ++ suffix)).map Prod.fst = (firstEpoch loads raw).map Prod.fst := by
  rw [firstEpoch, firstEpoch, keptLines_append another.ended, readLines_append]
  cases ran : readLines loads .start (keptLines raw) with
  | error error => rfl
  | ok ended =>
      obtain ⟨last, stop⟩ := ended
      obtain ⟨first, later, final, split, holds, -, -, ending⟩ := readLines_spec holds_start ran
      rw [List.nil_append] at holds
      obtain rfl | ⟨rfl, rfl, rfl⟩ := ending
      · have within : final.offset ≤ raw.length := by
          rw [holds.offset, ← flatten_keptLines raw, split, List.flatten_append, List.length_append]
          exact Nat.le_add_right _ _
        exact selectEpoch_append within suffix
      · rw [List.append_nil] at split
        subst split
        obtain ⟨begun, rest, same, -⟩ := another.begins
        have resets := isReset_anotherBoot another holds same
        have left : readLines loads last (keptLines suffix) = .ok (last, some last.offset) := by
          rw [same, readLines, readLine, if_pos resets]
        have offset : last.offset = raw.length := by rw [holds.offset, flatten_keptLines]
        change ((readLines loads last (keptLines suffix) >>= _).map Prod.fst) = _
        rw [left]
        change ((selectEpoch (raw ++ suffix) last last.offset).map Prod.fst) = _
        rw [offset]
        exact selectEpoch_append (Nat.le_refl raw.length) suffix

end Captures

/-! ## One boot per epoch -/

/-- Whatever is returned holds the records of a single boot, and another boot after a capture
changes neither the epoch nor the error. -/
def OneBootPerEpoch (loads : Bytes → Except LoadsError (Json ν)) : Prop :=
  (∀ raw epoch boundary, firstEpoch loads raw = .ok (epoch, boundary) → SingleBoot loads epoch) ∧
    ∀ raw suffix, AnotherBoot loads raw suffix →
      (firstEpoch loads (raw ++ suffix)).map Prod.fst = (firstEpoch loads raw).map Prod.fst

/-- The epoch that is returned is one boot's exactly where no boot record repeats before the
first completion; a later boot never changes what is selected. -/
theorem singleBoot_iff_bootsOnce (loads : Bytes → Except LoadsError (Json ν)) :
    (∀ raw epoch boundary, firstEpoch loads raw = .ok (epoch, boundary) →
      (SingleBoot loads epoch ↔ BootsOnce loads raw)) ∧
    ∀ raw suffix, AnotherBoot loads raw suffix →
      (firstEpoch loads (raw ++ suffix)).map Prod.fst = (firstEpoch loads raw).map Prod.fst :=
  ⟨fun _ _ _ returned => singleBoot_iff returned, fun _ _ another => firstEpoch_append another⟩

/-! ## Two captures -/

/-- `json.loads` of an ASCII record. -/
def asciiLoads (record : Bytes) : Except LoadsError (Json Numeral) :=
  match Json.parse id (record.map fun b => UInt16.ofNat b.toNat) with
  | some value => .ok value
  | none => .error .valueError

def bannerLine : Bytes := ascii "ESP-ROM:esp32c6\n"

def bootLine : Bytes :=
  ascii "\x7b\"runId\":\"embedded-swift-smoke-v2\",\"caseId\":\"boot\"\x7d\n"

def completionLine : Bytes :=
  ascii ("\x7b\"runId\":\"embedded-swift-smoke-v2\",\"caseId\":\"completion\"," ++
    "\"status\":\"completed\"\x7d\n")

/-- A boot that completes. -/
def completeCapture : Bytes := bannerLine ++ bootLine ++ completionLine

/-- A boot that does not complete, and the next one, whose banner was lost. -/
def repeatedCapture : Bytes := bannerLine ++ bootLine ++ bootLine ++ completionLine

theorem firstEpoch_completeCapture :
    SingleBoot asciiLoads completeCapture ∧
      (firstEpoch asciiLoads (completeCapture ++ completeCapture)).map Prod.fst =
        (firstEpoch asciiLoads completeCapture).map Prod.fst := by
  have returned : firstEpoch asciiLoads completeCapture =
      .ok (completeCapture, ⟨0, 147, 147, 0⟩) := by decide +kernel
  have once : BootsOnce asciiLoads completeCapture := by
    rw [BootsOnce]
    decide +kernel
  have another : AnotherBoot asciiLoads completeCapture completeCapture := by
    have lines : keptLines completeCapture = [bannerLine, bootLine, completionLine] := by
      decide +kernel
    have banner : romBanner bannerLine = true := by decide +kernel
    exact ⟨⟨bannerLine, by simp [lines], banner⟩, by decide +kernel,
      bannerLine, [bootLine, completionLine], lines, .inl banner⟩
  exact ⟨((singleBoot_iff_bootsOnce asciiLoads).1 _ _ _ returned).mpr once,
    (singleBoot_iff_bootsOnce asciiLoads).2 _ _ another⟩

/-- Both boots are in the epoch. -/
theorem not_oneBootPerEpoch : ¬OneBootPerEpoch asciiLoads := by
  intro claim
  have returned : ∃ boundary, firstEpoch asciiLoads repeatedCapture =
      .ok (repeatedCapture, boundary) := ⟨⟨0, 199, 199, 0⟩, by decide +kernel⟩
  obtain ⟨boundary, returned⟩ := returned
  have boots := (claim.1 _ _ _ returned).boots
  have counted : (keptLines repeatedCapture).countP (bootRecord asciiLoads) = 2 := by
    decide +kernel
  rw [counted] at boots
  exact absurd boots (by decide)

end AxolotyEmbedded.FirstInit
