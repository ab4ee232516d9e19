import AxolotyEmbedded.Library.Observation
import AxolotyEmbedded.Zenoh.Scenario

/-!
The verdict of a scenario run, read off the lines it emits: one line for each recorded step
and a summary. The run returns 0 exactly when no step failed. A step that was unavailable
does not count against it, and only an environment without a router hook has one.
-/
namespace AxolotyEmbedded.Zenoh

/-! ## Reading a line -/

/-- The text of a line between this head and the next quote, with what follows it. -/
def readField (head line : List UInt8) : Option (List UInt8 × List UInt8) :=
  if head <+: line then
    some ((line.drop head.length).takeWhile (· ≠ 0x22), (line.drop head.length).dropWhile (· ≠ 0x22))
  else none

/-- `{"scenario":"axoloty-zenoh-carrier","step":"`. -/
def stepHead : List UInt8 :=
  0x7B :: (ReportCall.keyString (.literal "scenario") scenarioName).text ++
    0x2C :: quotedBytes (CString.literal "step").bytes ++ [0x3A, 0x22]

/-- `","result":"`. -/
def resultHead : List UInt8 :=
  [0x22, 0x2C] ++ quotedBytes (CString.literal "result").bytes ++ [0x3A, 0x22]

/-- The outcome a line reports, where it is the line of a step and not the summary. -/
def recordedStep (line : List UInt8) : Option StepOutcome := do
  let (step, rest) ← readField stepHead line
  if step = (CString.literal "summary").bytes then none
  else
    let (result, _) ← readField resultHead rest
    [StepOutcome.pass, .fail, .unavailable].find? fun outcome => outcome.name.bytes = result

theorem readField_append {head text rest : List UInt8} (plain : 0x22 ∉ text) :
    readField head (head ++ (text ++ 0x22 :: rest)) = some (text, 0x22 :: rest) := by
  have stops : ∀ value ∈ text, (decide (value ≠ (0x22 : UInt8))) = true := by
    intro value member
    simpa using fun equal : value = 0x22 => plain (equal ▸ member)
  rw [readField, if_pos (List.prefix_append ..), List.drop_left,
    List.takeWhile_append_of_pos stops, List.dropWhile_append_of_pos stops]
  simp

theorem escapeBytes_plain {bytes : List UInt8} (quote : 0x22 ∉ bytes) (slash : 0x5C ∉ bytes) :
    escapeBytes bytes = bytes := by
  induction bytes with
  | nil => rfl
  | cons value bytes ih =>
      rw [List.mem_cons, not_or] at quote slash
      rw [escapeBytes, List.flatMap_cons, ← escapeBytes, ih quote.2 slash.2,
        if_neg (by rintro (equal | equal); exacts [quote.1 equal.symm, slash.1 equal.symm])]
      rfl

theorem find_outcome (outcome : StepOutcome) :
    [StepOutcome.pass, .fail, .unavailable].find?
      (fun other => other.name.bytes = outcome.name.bytes) = some outcome := by
  cases outcome <;> decide

/-- What a step reports. -/
def stepCalls (step : String) (outcome : StepOutcome) (detail : String) : List ReportCall :=
  [.keyString (.literal "scenario") scenarioName, .keyString (.literal "step") (.literal step),
    .keyString (.literal "result") outcome.name, .keyString (.literal "detail") (.literal detail)]

/-- The texts of a step need no escape, fit the line, and name no summary. -/
def recordable (step detail : String) : Bool :=
  let name := (CString.literal step).bytes
  let text := (CString.literal detail).bytes
  printable name && printable text && !name.contains 0x22 && !name.contains 0x5C &&
    name != (CString.literal "summary").bytes && name.length + 2 * text.length < 512

structure Recordable (step detail : String) : Prop where
  visible : printable (CString.literal step).bytes = true
  visibleDetail : printable (CString.literal detail).bytes = true
  quote : 0x22 ∉ (CString.literal step).bytes
  slash : 0x5C ∉ (CString.literal step).bytes
  named : (CString.literal step).bytes ≠ (CString.literal "summary").bytes
  short : (CString.literal step).bytes.length + 2 * (CString.literal detail).bytes.length < 512

theorem recordable_iff {step detail : String} :
    recordable step detail = true ↔ Recordable step detail := by
  simp only [recordable, Bool.and_eq_true, Bool.not_eq_true', List.contains_eq_mem,
    decide_eq_false_iff_not, bne_iff_ne, decide_eq_true_eq]
  constructor
  · rintro ⟨⟨⟨⟨⟨visible, visible'⟩, quote⟩, slash⟩, named⟩, short⟩
    exact ⟨visible, visible', quote, slash, named, short⟩
  · rintro ⟨visible, visible', quote, slash, named, short⟩
    exact ⟨⟨⟨⟨⟨visible, visible'⟩, quote⟩, slash⟩, named⟩, short⟩

/-- The names and the details of the steps. -/
def scenarioTexts : List (String × String) :=
  [("cold_boot", "first session opened"),
    ("cold_boot", "the first open did not return OK"),
    ("session_state", "the handle reports open"),
    ("session_state", "the handle does not report open"),
    ("open_publisher", "second session opened"),
    ("open_publisher", "the second open did not return OK"),
    ("subscribe", "one subscription declared"),
    ("subscribe", "the subscription was not declared"),
    ("bidirectional_traffic", "the publish was refused"),
    ("bidirectional_traffic", "frame crossed both sessions"),
    ("bidirectional_traffic", "frame did not arrive intact"),
    ("router_lifecycle", "the router count was not read"),
    ("router_lifecycle", "the router count was read"),
    ("router_absent_then_present", "loss and restoration both observed"),
    ("router_absent_then_present", "the transition was not both observed"),
    ("router_absent_then_present", "the run cannot drop and restore the router"),
    ("queue_saturation", "the drain did not complete"),
    ("queue_saturation", "the queue filled, drained, and reported a drop"),
    ("queue_saturation", "the burst did not end with a full queue and every excess frame dropped"),
    ("continuous_traffic", "every pair arrived intact"),
    ("continuous_traffic", "a pair did not arrive intact"),
    ("maximum_payload", "the limit payload crossed intact"),
    ("maximum_payload", "the limit payload did not arrive intact"),
    ("oversized_payload", "the oversized publish was refused"),
    ("oversized_payload", "the oversized publish was not refused"),
    ("clean_shutdown", "subscription removed and both sessions closed"),
    ("clean_shutdown", "shutdown was not clean"),
    ("repeated_reconnect", "every open and close succeeded"),
    ("repeated_reconnect", "a reconnect cycle did not complete")]

theorem recordable_texts : scenarioTexts.all (fun texts => recordable texts.1 texts.2) = true := by
  decide +kernel

theorem recordable_of_mem {step detail : String} (listed : (step, detail) ∈ scenarioTexts) :
    Recordable step detail :=
  recordable_iff.mp (List.all_eq_true.mp recordable_texts (step, detail) listed)

theorem recordedStep_stepCalls {step detail : String} (outcome : StepOutcome)
    (texts : Recordable step detail) :
    recordedStep (objectText (stepCalls step outcome detail)) = some outcome := by
  have plain : 0x22 ∉ outcome.name.bytes := by cases outcome <;> decide
  have outcomeText : escapeBytes outcome.name.bytes = outcome.name.bytes := by
    cases outcome <;> decide
  have shape : objectText (stepCalls step outcome detail) =
      stepHead ++ ((CString.literal step).bytes ++ 0x22 :: (resultHead.tail ++
        (outcome.name.bytes ++ 0x22 :: (0x2C :: (ReportCall.keyString (.literal "detail")
          (.literal detail)).text ++ [0x7D])))) := by
    simp [objectText, stepCalls, stepHead, resultHead, ReportCall.text, ReportCall.item,
      ReportCall.key, quotedBytes, outcomeText, escapeBytes_plain texts.quote texts.slash]
  have after : 0x22 :: (resultHead.tail ++ (outcome.name.bytes ++ 0x22 :: (0x2C ::
      (ReportCall.keyString (.literal "detail") (.literal detail)).text ++ [0x7D]))) =
        resultHead ++ (outcome.name.bytes ++ 0x22 :: (0x2C ::
          (ReportCall.keyString (.literal "detail") (.literal detail)).text ++ [0x7D])) := rfl
  rw [recordedStep, shape, readField_append texts.quote]
  simp only [Option.bind_eq_bind, Option.bind_some, if_neg texts.named]
  rw [after, readField_append plain]
  exact find_outcome outcome

/-! ## Lines -/

/-- The line of a report, where it fits with its terminator. -/
theorem ReportSink.Holds.line {start : Option Memory} {capacity : Nat} {first : Bool}
    {text : Option (List UInt8)} {sink : ReportSink} (holds : sink.Holds start capacity first text) :
    sink.line = grown capacity text (some [0x7D]) := by
  obtain ⟨-, fits, short⟩ := holds.reportEnd
  rw [ReportSink.line]
  cases ended : grown capacity text (some [0x7D]) with
  | none =>
      dsimp only
      rw [short ended, if_neg (Nat.lt_irrefl 0)]
  | some bytes =>
      obtain ⟨length, memory, stored, written⟩ := fits bytes ended
      have some_bytes : 0 < bytes.length := by
        refine List.length_pos_iff.mpr ?_
        rintro rfl
        cases text with
        | none => cases ended
        | some before => simp [grown] at ended
      have same : memory.bytes bytes.length = bytes := by
        rw [Memory.bytes, List.range_succ, List.map_append] at written
        exact (List.append_inj' written rfl).1
      dsimp only
      rw [length, if_pos some_bytes, stored, Option.map_some, same]

theorem length_escapeBytes (bytes : List UInt8) : (escapeBytes bytes).length ≤ 2 * bytes.length := by
  induction bytes with
  | nil => exact Nat.le_refl 0
  | cons value bytes ih =>
      rw [escapeBytes, List.flatMap_cons, ← escapeBytes, List.length_append, List.length_cons]
      split <;> simp only [List.length_cons, List.length_nil] <;> omega

/-- The line of a step is written whole. -/
theorem line_stepCalls {step detail : String} (outcome : StepOutcome)
    (texts : Recordable step detail) :
    (ReportSink.calls (stepCalls step outcome detail)
      (reportBegin (some blankMemory) reportLineCapacity)).2.line =
        some (objectText (stepCalls step outcome detail)) := by
  have begun := ReportSink.holds_reportBegin (some blankMemory) reportLineCapacity
  obtain ⟨first, called⟩ := begun.calls (stepCalls step outcome detail)
  have visible : (stepCalls step outcome detail).all ReportCall.isPrintable = true := by
    have fixed : printable (CString.literal "scenario").bytes = true ∧
        printable scenarioName.bytes = true ∧ printable (CString.literal "step").bytes = true ∧
        printable (CString.literal "result").bytes = true ∧
        printable outcome.name.bytes = true ∧ printable (CString.literal "detail").bytes = true := by
      cases outcome <;> decide
    simp [stepCalls, ReportCall.isPrintable, fixed, texts.visible, texts.visibleDetail]
  have room : (objectText (stepCalls step outcome detail)).length < reportLineCapacity := by
    have fixed : (quotedBytes (CString.literal "scenario").bytes).length +
        (quotedBytes scenarioName.bytes).length + (quotedBytes (CString.literal "step").bytes).length +
        (quotedBytes (CString.literal "result").bytes).length +
        (quotedBytes outcome.name.bytes).length +
        (quotedBytes (CString.literal "detail").bytes).length < 128 := by
      cases outcome <;> decide
    have stepLength : (quotedBytes (CString.literal step).bytes).length =
        (CString.literal step).bytes.length + 2 := by
      simp [quotedBytes, escapeBytes_plain texts.quote texts.slash]
    have detailLength : (quotedBytes (CString.literal detail).bytes).length ≤
        2 * (CString.literal detail).bytes.length + 2 := by
      simp [quotedBytes, length_escapeBytes]
    have short := texts.short
    simp [objectText, stepCalls, ReportCall.text, ReportCall.item, ReportCall.key,
      reportLineCapacity]
    omega
  rw [called.line, if_pos Option.isSome_some, grown_objectText, if_pos ⟨visible, room⟩]

/-- The line an exchange emits. -/
def emittedLine : Exchange StepCall.Answer → Option (List UInt8)
  | ⟨.emitJsonl line, _⟩ => some line
  | _ => none

def scenarioLine : Exchange ScenarioCall.Answer → Option (List UInt8)
  | ⟨.step made, answer⟩ => emittedLine ⟨made, answer⟩
  | _ => none

/-! ## Parts that record nothing -/

open Script

variable {lines : List (List UInt8)}

theorem silent_notePublish (result : ZenohResult) : Silent emittedLine (notePublish result) lines := by
  refine Silent.bind (silent_ask fun _ => rfl) fun _ => ?_
  split
  · exact silent_ask fun _ => rfl
  · exact silent_pure _

theorem silent_pollOnce (state : ScenarioState) : Silent emittedLine (pollOnce state) lines := by
  by_cases absent : state.subscriber = 0 ∨ state.subscription = 0
  · have refused : pollOnce state = pure ⟨.notOpen, 0, blankMemory⟩ := if_pos absent
    rw [refused]
    exact silent_pure _
  · have polls : pollOnce state = ask (.poll state.subscriber state.subscription) := if_neg absent
    rw [polls]
    exact silent_ask fun _ => rfl

theorem silent_receiveExpected (state : ScenarioState) (environment : ScenarioEnvironment)
    (expectedLength : Nat) (seed : UInt8) (attempts : Nat) :
    Silent emittedLine (receiveExpected state environment expectedLength seed attempts) lines := by
  induction attempts with
  | zero => exact silent_pure _
  | succ attempts ih =>
      refine Silent.bind (silent_pollOnce state) fun polled => ?_
      split
      · refine Silent.bind (silent_ask fun _ => rfl) fun _ => ?_
        split <;> exact silent_pure _
      · exact Silent.bind (silent_ask fun _ => rfl) fun _ => silent_pure _
      · exact Silent.bind (silent_ask fun _ => rfl) fun _ => silent_pure _
      · split
        · exact Silent.bind (silent_ask fun _ => rfl) fun _ => ih
        · exact ih
      · refine Silent.bind (silent_ask fun _ => rfl) fun _ => ?_
        exact Silent.bind (silent_ask fun _ => rfl) fun _ => silent_pure _

theorem silent_waitForBurstAccounted (bounds : ScenarioBounds) (state : ScenarioState)
    (environment : ScenarioEnvironment) (offered : Nat) (droppedBefore : BitVec 32) (attempts : Nat) :
    Silent emittedLine
      (waitForBurstAccounted bounds state environment offered droppedBefore attempts) lines := by
  induction attempts with
  | zero => exact silent_pure _
  | succ attempts ih =>
      refine Silent.bind (silent_ask fun _ => rfl) fun depth => ?_
      split
      · exact silent_pure _
      · refine Silent.bind (silent_ask fun _ => rfl) fun dropped => ?_
        split
        · exact silent_pure _
        · dsimp only
          split
          · exact silent_pure _
          · exact Silent.bind (silent_ask fun _ => rfl) fun _ => ih

theorem silent_drainUntilQuiet (state : ScenarioState) (environment : ScenarioEnvironment)
    (attempts quiet : Nat) :
    Silent emittedLine (drainUntilQuiet state environment attempts quiet) lines := by
  induction attempts generalizing quiet with
  | zero => exact silent_pure _
  | succ attempts ih =>
      rw [drainUntilQuiet]
      split
      · exact silent_pure _
      · refine Silent.bind (silent_pollOnce state) fun polled => ?_
        split
        · exact Silent.bind (silent_ask fun _ => rfl) fun _ => ih 0
        · exact ih 0
        · split
          · exact Silent.bind (silent_ask fun _ => rfl) fun _ => ih _
          · exact silent_pure _
        · exact silent_pure _

theorem silent_publishPattern (state : ScenarioState) (environment : ScenarioEnvironment)
    (length : Nat) (seed : UInt8) :
    Silent emittedLine (publishPattern state environment length seed) lines := by
  refine Silent.bind (silent_ask fun _ => rfl) fun published => ?_
  refine Silent.bind (silent_notePublish published) fun _ => ?_
  split
  · exact Silent.bind (silent_ask fun _ => rfl) fun _ => silent_pure _
  · exact silent_pure _

theorem silent_routerTransition (state : ScenarioState) :
    Silent emittedLine (routerTransition state) lines := by
  refine Silent.bind (silent_ask fun _ => rfl) fun _ => ?_
  refine Silent.bind (silent_ask fun _ => rfl) fun _ => ?_
  refine Silent.bind (silent_ask fun _ => rfl) fun _ => ?_
  exact Silent.bind (silent_ask fun _ => rfl) fun _ => silent_pure _

theorem silent_offerBurst (state : ScenarioState) (environment : ScenarioEnvironment) (count : Nat) :
    Silent emittedLine (offerBurst state environment count) lines := by
  induction count with
  | zero => exact silent_pure _
  | succ count ih => exact Silent.bind (silent_publishPattern _ _ _ _) fun _ => ih

theorem silent_drainBurst (state : ScenarioState) (polls : Nat) (drained : Drained) :
    Silent emittedLine (drainBurst state polls drained) lines := by
  induction polls generalizing drained with
  | zero => exact silent_pure _
  | succ polls ih =>
      refine Silent.bind (silent_pollOnce state) fun polled => ?_
      split
      · exact Silent.bind (silent_ask fun _ => rfl) fun _ => ih _
      · exact Silent.bind (silent_ask fun _ => rfl) fun _ => silent_pure _
      · exact silent_pure _
      · exact Silent.bind (silent_ask fun _ => rfl) fun _ => silent_pure _
      · refine Silent.bind (silent_ask fun _ => rfl) fun _ => ?_
        exact Silent.bind (silent_ask fun _ => rfl) fun _ => silent_pure _

theorem silent_continuousPairs (state : ScenarioState) (environment : ScenarioEnvironment)
    (frames index : Nat) :
    Silent emittedLine (continuousPairs state environment frames index) lines := by
  induction frames generalizing index with
  | zero => exact silent_pure _
  | succ frames ih =>
      refine Silent.bind (silent_publishPattern _ _ _ _) fun published => ?_
      split
      · exact silent_pure _
      · refine Silent.bind (silent_receiveExpected _ _ _ _ _) fun outcome => ?_
        split
        · exact silent_pure _
        · exact ih _

/-! ## Parts that record steps -/

/-- The outcomes of the recorded steps, in order. -/
def recorded (lines : List (List UInt8)) : List StepOutcome := lines.filterMap recordedStep

/-- The counts of recorded steps. -/
def StepTally.of (outcomes : List StepOutcome) : StepTally :=
  ⟨outcomes.length, outcomes.count .pass, outcomes.count .unavailable⟩

theorem StepTally.note_of (outcomes : List StepOutcome) (outcome : StepOutcome) :
    (StepTally.of outcomes).note outcome = .of (outcomes ++ [outcome]) := by
  cases outcome <;> simp [StepTally.of, StepTally.note, List.count_append]

/-- What holds between the steps: each line is the line of a step and the counts are theirs.
With a router hook a step is unavailable only after one that failed. Without one, some step
has failed or was unavailable once the router steps are over, or a failed step ends the run. -/
structure Recorded (router settled : Bool) (limit : Nat) (tally : StepTally)
    (lines : List (List UInt8)) : Prop where
  steps : ∀ line ∈ lines, recordedStep line ≠ none
  tally : tally = .of (recorded lines)
  short : (recorded lines).length ≤ limit
  available : router = true → .unavailable ∈ recorded lines → .fail ∈ recorded lines
  missing : settled = true → router = false →
    .fail ∈ recorded lines ∨ .unavailable ∈ recorded lines

section Steps
variable {router settled : Bool} {limit : Nat} {tally : StepTally} {line : List UInt8}
  {outcome : StepOutcome} {environment : ScenarioEnvironment}

theorem recorded_append (step : recordedStep line = some outcome) :
    recorded (lines ++ [line]) = recorded lines ++ [outcome] := by
  simp [recorded, step]

theorem Recorded.note (before : Recorded router settled limit tally lines)
    (step : recordedStep line = some outcome)
    (available : router = true → outcome = .unavailable → .fail ∈ recorded lines)
    {settled' : Bool} (missing : settled' = true → router = false →
      settled = true ∨ outcome ≠ .pass) :
    Recorded router settled' (limit + 1) (tally.note outcome) (lines ++ [line]) where
  steps := by
    intro other member
    rcases List.mem_append.mp member with earlier | last
    · exact before.steps other earlier
    · rw [List.mem_singleton.mp last, step]
      exact Option.some_ne_none outcome
  tally := by rw [before.tally, StepTally.note_of, recorded_append step]
  short := by
    rw [recorded_append step, List.length_append, List.length_singleton]
    exact Nat.succ_le_succ before.short
  available := by
    intro hook member
    rw [recorded_append step, List.mem_append, List.mem_singleton] at member ⊢
    rcases member with earlier | last
    · exact .inl (before.available hook earlier)
    · exact .inl (available hook last.symm)
  missing := by
    intro reached bare
    rw [recorded_append step, List.mem_append, List.mem_singleton, List.mem_append,
      List.mem_singleton]
    rcases missing reached bare with passed | last
    · exact (before.missing passed bare).imp .inl .inl
    · cases outcome with
      | pass => exact absurd rfl last
      | fail => exact .inl (.inr rfl)
      | unavailable => exact .inr (.inr rfl)

/-- A step that is not unavailable. -/
theorem Recorded.plain (before : Recorded router settled limit tally lines)
    (step : recordedStep line = some outcome) (plain : outcome ≠ .unavailable) :
    Recorded router settled (limit + 1) (tally.note outcome) (lines ++ [line]) :=
  before.note step (fun _ unavailable => absurd unavailable plain) fun reached _ => .inl reached

/-- A step is recorded by one line. -/
theorem shows_record (emits : environment.emitJsonl = true) {step detail : String}
    (listed : (step, detail) ∈ scenarioTexts) (outcome : StepOutcome)
    {post : StepTally → List (List UInt8) → Prop}
    (met : ∀ line, recordedStep line = some outcome → post (tally.note outcome) (lines ++ [line])) :
    Shows emittedLine (record tally environment step outcome detail) post lines := by
  have texts : Recordable step detail := recordable_of_mem listed
  have written := line_stepCalls outcome texts
  have emitted : emit environment (some (objectText (stepCalls step outcome detail))) =
      ask (.emitJsonl (objectText (stepCalls step outcome detail))) := if_pos emits
  have body : record tally environment step outcome detail =
      emit environment (ReportSink.calls (stepCalls step outcome detail)
        (reportBegin (some blankMemory) reportLineCapacity)).2.line >>= fun _ =>
          pure (tally.note outcome) := rfl
  rw [body, written, emitted]
  have shown : Shows emittedLine (ask (.emitJsonl (objectText (stepCalls step outcome detail))))
      (fun _ seen => post (tally.note outcome) seen) lines :=
    shows_ask fun _ => met _ (recordedStep_stepCalls outcome texts)
  exact Shows.bind shown fun _ _ => shows_pure

theorem shows_record_plain (emits : environment.emitJsonl = true)
    (before : Recorded router settled limit tally lines) {step detail : String}
    (listed : (step, detail) ∈ scenarioTexts) (plain : outcome ≠ .unavailable) :
    Shows emittedLine (record tally environment step outcome detail)
      (Recorded router settled (limit + 1)) lines :=
  shows_record emits listed outcome fun _ step => before.plain step plain

theorem shows_sessionStateStep (emits : environment.emitJsonl = true) (state : ScenarioState)
    (before : Recorded router settled limit tally lines) :
    Shows emittedLine (sessionStateStep state environment tally)
      (Recorded router settled (limit + 1)) lines := by
  refine Silent.bind (silent_ask fun _ => rfl) fun answer => ?_
  split
  · exact shows_record_plain emits before (by simp [scenarioTexts]) (by decide)
  · exact shows_record_plain emits before (by simp [scenarioTexts]) (by decide)

theorem shows_fail : Shows emittedLine (pure .fail : Step StepOutcome)
    (fun outcome after => outcome ≠ .unavailable ∧ after = lines) lines :=
  shows_pure ⟨by decide, rfl⟩

theorem receiveExpected_ne_unavailable (state : ScenarioState) (environment : ScenarioEnvironment)
    (expectedLength : Nat) (seed : UInt8) (attempts : Nat) :
    Shows emittedLine (receiveExpected state environment expectedLength seed attempts)
      (fun outcome after => outcome ≠ .unavailable ∧ after = lines) lines := by
  induction attempts with
  | zero => exact shows_fail
  | succ attempts ih =>
      refine Silent.bind (silent_pollOnce state) fun polled => ?_
      split
      · refine Silent.bind (silent_ask fun _ => rfl) fun _ => ?_
        split
        · exact shows_fail
        · refine shows_pure ⟨?_, rfl⟩
          split <;> decide
      · exact Silent.bind (silent_ask fun _ => rfl) fun _ => shows_fail
      · exact Silent.bind (silent_ask fun _ => rfl) fun _ => shows_fail
      · split
        · exact Silent.bind (silent_ask fun _ => rfl) fun _ => ih
        · exact ih
      · refine Silent.bind (silent_ask fun _ => rfl) fun _ => ?_
        exact Silent.bind (silent_ask fun _ => rfl) fun _ => shows_fail

theorem shows_bidirectionalTraffic (emits : environment.emitJsonl = true) (state : ScenarioState)
    (before : Recorded router settled limit tally lines) :
    Shows emittedLine (bidirectionalTraffic state environment tally)
      (Recorded router settled (limit + 1)) lines := by
  refine Silent.bind (silent_publishPattern _ _ _ _) fun published => ?_
  split
  · exact shows_record_plain emits before (by simp [scenarioTexts]) (by decide)
  · refine Shows.bind (receiveExpected_ne_unavailable _ _ _ _ _) ?_
    rintro outcome _ ⟨plain, rfl⟩
    refine shows_record_plain emits before ?_ plain
    split <;> simp [scenarioTexts]

/-- Without a router hook, or a router count, the transition is recorded as unavailable. -/
theorem shows_routerLifecycle (emits : environment.emitJsonl = true) (state : ScenarioState)
    (before : Recorded environment.setRouterAvailable false limit tally lines) :
    Shows emittedLine (routerLifecycle state environment tally)
      (Recorded environment.setRouterAvailable true (limit + 2)) lines := by
  refine Silent.bind (silent_ask fun _ => rfl) fun count => ?_
  by_cases refused : count.result ≠ .ok
  · have absent : ¬ (count.result = .ok ∧ environment.setRouterAvailable = true) :=
      fun both => refused both.1
    simp only [if_pos refused, if_neg absent]
    refine Silent.bind (silent_ask fun _ => rfl) fun _ => ?_
    have unread : Shows emittedLine
        (record tally environment "router_lifecycle" .fail "the router count was not read")
        (fun tally' lines' => .fail ∈ recorded lines' ∧
          Recorded environment.setRouterAvailable false (limit + 1) tally' lines') lines := by
      refine shows_record emits (by simp [scenarioTexts]) .fail fun line step => ⟨?_, ?_⟩
      · simp [recorded_append step]
      · exact before.plain step (by decide)
    refine Shows.bind unread ?_
    rintro tally' lines' ⟨failed, between⟩
    exact shows_record emits (by simp [scenarioTexts]) .unavailable fun line step =>
      between.note step (fun _ _ => failed) fun _ _ => .inr (by decide)
  · simp only [if_neg refused]
    refine Shows.bind (shows_record_plain emits before (by simp [scenarioTexts]) (by decide)) ?_
    intro tally' lines' between
    split
    · rename_i hooked
      have passed {outcome : StepOutcome} {line : List UInt8} (plain : outcome ≠ .unavailable)
          (step : recordedStep line = some outcome) : Recorded environment.setRouterAvailable true
            (limit + 1 + 1) (tally'.note outcome) (lines' ++ [line]) :=
        between.note step (fun _ unavailable => absurd unavailable plain) fun _ bare =>
          absurd hooked.2 (by simp [bare])
      refine Silent.bind (silent_routerTransition state) fun observed => ?_
      split
      · refine Silent.bind (silent_ask fun _ => rfl) fun _ => ?_
        exact shows_record emits (by simp [scenarioTexts]) .pass fun _ step => passed (by decide) step
      · exact shows_record emits (by simp [scenarioTexts]) .fail fun _ step => passed (by decide) step
    · rename_i bare
      have unhooked : environment.setRouterAvailable ≠ true := fun given =>
        bare ⟨not_not.mp refused, given⟩
      exact shows_record emits (by simp [scenarioTexts]) .unavailable fun line step =>
        between.note step (fun hook _ => absurd hook unhooked) fun _ _ => .inr (by decide)

theorem shows_queueSaturation (emits : environment.emitJsonl = true) (bounds : ScenarioBounds)
    (state : ScenarioState) (before : Recorded router settled limit tally lines) :
    Shows emittedLine (queueSaturation bounds state environment tally)
      (Recorded router settled (limit + 1)) lines := by
  have ends (drained : Drained) (depth after prior : BitVec 32) : Shows emittedLine (do
      drainUntilQuiet state environment settleAttempts 0
      if drained.errored then
        record tally environment "queue_saturation" .fail "the drain did not complete"
      else if depth.toNat = bounds.receiveQueueCapacity ∧
          after - prior = BitVec.ofNat 32
            (bounds.receiveQueueCapacity + 2 - bounds.receiveQueueCapacity) ∧
          drained.received = bounds.receiveQueueCapacity ∧ drained.drops = 1 then
        record tally environment "queue_saturation" .pass
          "the queue filled, drained, and reported a drop"
      else
        record tally environment "queue_saturation" .fail
          "the burst did not end with a full queue and every excess frame dropped")
      (Recorded router settled (limit + 1)) lines := by
    refine Silent.bind (silent_drainUntilQuiet _ _ _ _) fun _ => ?_
    split
    · exact shows_record_plain emits before (by simp [scenarioTexts]) (by decide)
    · split
      · exact shows_record_plain emits before (by simp [scenarioTexts]) (by decide)
      · exact shows_record_plain emits before (by simp [scenarioTexts]) (by decide)
  refine Silent.bind (silent_ask fun _ => rfl) fun prior => ?_
  refine Silent.bind (silent_offerBurst _ _ _) fun _ => ?_
  refine Silent.bind (silent_waitForBurstAccounted _ _ _ _ _ _) fun _ => ?_
  refine Silent.bind (silent_ask fun _ => rfl) fun depth => ?_
  dsimp only
  split
  · refine Silent.bind (silent_ask fun _ => rfl) fun after => ?_
    split
    · exact Silent.bind (silent_drainBurst _ _ _) fun drained => ends drained ..
    · exact Silent.bind (silent_pure _) fun drained => ends drained ..
  · refine Silent.bind (silent_pure _) fun after => ?_
    split
    · exact Silent.bind (silent_drainBurst _ _ _) fun drained => ends drained ..
    · exact Silent.bind (silent_pure _) fun drained => ends drained ..

theorem shows_continuousTraffic (emits : environment.emitJsonl = true) (config : ScenarioConfig)
    (state : ScenarioState) (before : Recorded router settled limit tally lines) :
    Shows emittedLine (continuousTraffic config state environment tally)
      (Recorded router settled (limit + 1)) lines := by
  refine Silent.bind (silent_continuousPairs _ _ _ _) fun allOk => ?_
  cases allOk with
  | true => exact shows_record_plain emits before (by simp [scenarioTexts]) (by decide)
  | false => exact shows_record_plain emits before (by simp [scenarioTexts]) (by decide)

theorem shows_maximumPayload (emits : environment.emitJsonl = true) (bounds : ScenarioBounds)
    (state : ScenarioState) (before : Recorded router settled limit tally lines) :
    Shows emittedLine (maximumPayload bounds state environment tally)
      (Recorded router settled (limit + 1)) lines := by
  have ends {outcome : StepOutcome} (plain : outcome ≠ .unavailable) :
      Shows emittedLine (record tally environment "maximum_payload" outcome
        (if outcome = .pass then "the limit payload crossed intact"
          else "the limit payload did not arrive intact"))
        (Recorded router settled (limit + 1)) lines := by
    refine shows_record_plain emits before ?_ plain
    split <;> simp [scenarioTexts]
  refine Silent.bind (silent_publishPattern _ _ _ _) fun published => ?_
  dsimp only
  split
  · refine Shows.bind (receiveExpected_ne_unavailable _ _ _ _ _) ?_
    rintro outcome _ ⟨plain, rfl⟩
    exact ends plain
  · refine Shows.bind shows_fail ?_
    rintro outcome _ ⟨plain, rfl⟩
    exact ends plain

theorem shows_oversizedPayload (emits : environment.emitJsonl = true) (bounds : ScenarioBounds)
    (state : ScenarioState) (before : Recorded router settled limit tally lines) :
    Shows emittedLine (oversizedPayload bounds state environment tally)
      (Recorded router settled (limit + 1)) lines := by
  refine Silent.bind (silent_ask fun _ => rfl) fun published => ?_
  split
  · exact shows_record_plain emits before (by simp [scenarioTexts]) (by decide)
  · exact shows_record_plain emits before (by simp [scenarioTexts]) (by decide)

end Steps

/-! ## The summary -/

/-- A number of the summary, with the comma before it. -/
def statedNumber (key : String) (value : Nat) : List UInt8 :=
  0x2C :: quotedBytes (CString.literal key).bytes ++ 0x3A :: decimalBytes value

/-- The summary up to its count of failed steps. -/
def summaryHead (result : String) (steps passed unavailable failed : Nat) : List UInt8 :=
  stepHead ++ (CString.literal "summary").bytes ++ resultHead ++ (CString.literal result).bytes ++
    [0x22] ++ statedNumber "steps" steps ++ statedNumber "passed" passed ++
    statedNumber "unavailable" unavailable ++ statedNumber "failed" failed ++ [0x2C]

/-- A summary states how many of the recorded steps there are, passed, were unavailable and
failed, and these add up. -/
def SummaryStates (line : List UInt8) (outcomes : List StepOutcome) : Prop :=
  ∃ result steps passed unavailable failed,
    summaryHead result steps passed unavailable failed <+: line ∧
    steps = outcomes.length ∧ passed = outcomes.count .pass ∧
    unavailable = outcomes.count .unavailable ∧ failed = outcomes.count .fail ∧
    steps = passed + unavailable + failed

theorem before_of_grown {capacity : Nat} {text piece : Option (List UInt8)} {bytes : List UInt8}
    (ends : grown capacity text piece = some bytes) : ∃ before, text = some before ∧ before <+: bytes := by
  cases text with
  | none => cases ends
  | some before =>
      cases piece with
      | none => cases ends
      | some more =>
          simp only [grown, Option.bind_some, Option.ite_none_right_eq_some, Option.some.injEq] at ends
          exact ⟨before, rfl, ends.2 ▸ List.prefix_append ..⟩

theorem ReportSink.Holds.keyRaw {start : Option Memory} {capacity : Nat} {first : Bool}
    {text : Option (List UInt8)} {sink : ReportSink} (holds : sink.Holds start capacity first text)
    (key : CString) (raw : List UInt8) : ∃ piece,
      (sink.keyRaw key raw).2.Holds start capacity false (grown capacity text piece) :=
  ⟨_, (Appends.andThen (holds.keyPrefix key) fun _ after alive => after.appendText alive raw).holds⟩

theorem count_outcomes (outcomes : List StepOutcome) :
    outcomes.length = outcomes.count .pass + outcomes.count .unavailable + outcomes.count .fail := by
  induction outcomes with
  | nil => rfl
  | cons outcome outcomes ih =>
      cases outcome <;> simp [ih] <;> omega

/-- What the summary reports before the two objects. -/
def summaryCalls (result : String) (steps passed unavailable failed flash : BitVec 32) :
    List ReportCall :=
  [.keyString (.literal "scenario") scenarioName, .keyString (.literal "step") (.literal "summary"),
    .keyString (.literal "result") (.literal result), .keyUnsigned (.literal "steps") steps,
    .keyUnsigned (.literal "passed") passed, .keyUnsigned (.literal "unavailable") unavailable,
    .keyUnsigned (.literal "failed") failed, .keyUnsigned (.literal "flashImageBytes") flash]

theorem summaryHead_prefix {result : String} (steps passed unavailable failed flash : BitVec 32)
    (plain : escapeBytes (CString.literal result).bytes = (CString.literal result).bytes) :
    summaryHead result steps.toNat passed.toNat unavailable.toNat failed.toNat <+:
      0x7B :: [0x2C].intercalate ((summaryCalls result steps passed unavailable failed flash).map
        ReportCall.text) := by
  have named : escapeBytes (CString.literal "summary").bytes = (CString.literal "summary").bytes := by
    decide +kernel
  refine ⟨quotedBytes (CString.literal "flashImageBytes").bytes ++ 0x3A :: decimalBytes flash.toNat, ?_⟩
  rw [summaryCalls, intercalate_pairs]
  simp [summaryHead, statedNumber, stepHead, resultHead, ReportCall.text, ReportCall.item,
    ReportCall.key, quotedBytes, plain, named]

/-- A summary that is emitted begins with its counts, whatever the two objects are. -/
theorem summaryHead_of_line {result : String} {steps passed unavailable failed flash : BitVec 32}
    (plain : escapeBytes (CString.literal result).bytes = (CString.literal result).bytes)
    {carrier resources line : List UInt8}
    (emitted : (((ReportSink.calls (summaryCalls result steps passed unavailable failed flash)
      (reportBegin (some blankMemory) reportLineCapacity)).2.keyRaw (.literal "carrier") carrier).2.keyRaw
        (.literal "resources") resources).2.line = some line) :
    summaryHead result steps.toNat passed.toNat unavailable.toNat failed.toNat <+: line := by
  have begun := ReportSink.holds_reportBegin (some blankMemory) reportLineCapacity
  obtain ⟨_, called⟩ := begun.calls (summaryCalls result steps passed unavailable failed flash)
  obtain ⟨_, withCarrier⟩ := called.keyRaw (.literal "carrier") carrier
  obtain ⟨_, withResources⟩ := withCarrier.keyRaw (.literal "resources") resources
  rw [withResources.line] at emitted
  obtain ⟨_, third, more⟩ := before_of_grown emitted
  obtain ⟨_, second, more'⟩ := before_of_grown third
  obtain ⟨text, first, more''⟩ := before_of_grown second
  rw [if_pos Option.isSome_some, ← grown_joined, pairPieces_true] at first
  refine List.IsPrefix.trans ?_ ((more''.trans more').trans more)
  split at first
  · simp only [joined, grown, Option.bind_some, Option.map_some, Option.ite_none_right_eq_some,
      Option.some.injEq, List.nil_append] at first
    rw [← first.2]
    exact summaryHead_prefix steps passed unavailable failed flash plain
  · simp [joined, grown] at first

theorem recordedStep_summary {result : String} {steps passed unavailable failed : Nat}
    {line : List UInt8} (head : summaryHead result steps passed unavailable failed <+: line) :
    recordedStep line = none := by
  obtain ⟨rest, rfl⟩ := head
  have shape : summaryHead result steps passed unavailable failed ++ rest =
      stepHead ++ ((CString.literal "summary").bytes ++ 0x22 :: (resultHead.tail ++
        (CString.literal result).bytes ++ [0x22] ++ statedNumber "steps" steps ++
        statedNumber "passed" passed ++ statedNumber "unavailable" unavailable ++
        statedNumber "failed" failed ++ [0x2C] ++ rest)) := by
    simp [summaryHead, resultHead]
  rw [recordedStep, shape, readField_append (by decide +kernel)]
  rfl

/-- What a run of accepted arguments ends with, and what its lines say. -/
structure Ends (router : Bool) (value : Int) (lines : List (List UInt8)) : Prop where
  value_eq : value = if .fail ∈ recorded lines then 1 else 0
  summary : ∀ line ∈ lines, recordedStep line = none → SummaryStates line (recorded lines)
  available : router = true → .unavailable ∈ recorded lines → .fail ∈ recorded lines
  missing : router = false → .fail ∈ recorded lines ∨ .unavailable ∈ recorded lines

section Runs
variable {router settled : Bool} {limit : Nat} {tally : StepTally} {line : List UInt8}
  {environment : ScenarioEnvironment}

theorem silent_readResources (metrics : List ResourceMetric) (sink : ReportSink) :
    Silent emittedLine (readResources metrics sink) lines := by
  induction metrics generalizing sink with
  | nil => exact silent_pure _
  | cons metric metrics ih =>
      refine Silent.bind (silent_ask fun _ => rfl) fun answer => ?_
      split
      · exact silent_pure _
      · exact ih _

theorem silent_buildResourcesJson : Silent emittedLine (buildResourcesJson environment) lines := by
  rw [buildResourcesJson]
  dsimp only
  split
  · refine Silent.bind (silent_readResources _ _) fun read => ?_
    split <;> exact silent_pure _
  · refine Silent.bind (silent_pure _) fun read => ?_
    split <;> exact silent_pure _

/-- The failed steps are those that neither passed nor were unavailable. -/
theorem failed_of (outcomes : List StepOutcome) : (StepTally.of outcomes).stepsTotal -
    (StepTally.of outcomes).stepsPassed - (StepTally.of outcomes).stepsUnavailable =
      outcomes.count .fail := by
  have whole := count_outcomes outcomes
  simp only [StepTally.of]
  omega

theorem Recorded.ends (before : Recorded router true limit tally lines) :
    Ends router (if (recorded lines).count .fail = 0 then 0 else 1) lines where
  value_eq := by
    by_cases failed : .fail ∈ recorded lines
    · rw [if_pos failed, if_neg (mt List.count_eq_zero.mp (not_not.mpr failed))]
    · rw [if_neg failed, if_pos (List.count_eq_zero.mpr failed)]
  summary line member none := absurd none (before.steps line member)
  available := before.available
  missing := before.missing rfl

theorem shows_summary (before : Recorded router true limit tally lines) (fits : limit < 4096) :
    Shows emittedLine (summary tally environment) (Ends router) lines := by
  have short : (recorded lines).length < 4096 := Nat.lt_of_le_of_lt before.short fits
  have whole := count_outcomes (recorded lines)
  have ended := before.ends
  rw [summary, before.tally]
  simp only [failed_of]
  refine Silent.bind (silent_ask fun _ => rfl) fun carrier => ?_
  refine Silent.bind silent_buildResourcesJson fun resources => ?_
  split
  · rename_i line emitted
    have plain : escapeBytes (CString.literal
        (if (recorded lines).count .fail = 0 then "pass" else "fail")).bytes =
          (CString.literal (if (recorded lines).count .fail = 0 then "pass" else "fail")).bytes := by
      split <;> decide +kernel
    have head := summaryHead_of_line plain emitted
    simp only [StepTally.of, BitVec.toNat_ofNat] at head
    rw [Nat.mod_eq_of_lt (by omega), Nat.mod_eq_of_lt (by omega), Nat.mod_eq_of_lt (by omega),
      Nat.mod_eq_of_lt (by omega)] at head
    have unread := recordedStep_summary head
    have same : recorded (lines ++ [line]) = recorded lines := by
      simp [recorded, unread]
    have shown : Shows emittedLine (ask (.emitJsonl line))
        (fun _ seen => seen = lines ++ [line]) lines := shows_ask fun _ => rfl
    refine Shows.bind shown ?_
    rintro _ _ rfl
    refine shows_pure ⟨?_, ?_, ?_, ?_⟩
    · rw [same]
      exact ended.value_eq
    · rw [same]
      intro other member none
      rcases List.mem_append.mp member with earlier | last
      · exact ended.summary other earlier none
      · rw [List.mem_singleton.mp last]
        exact ⟨_, _, _, _, _, head, rfl, rfl, rfl, rfl, whole⟩
    · rw [same]
      exact ended.available
    · rw [same]
      exact ended.missing
  · exact shows_pure ended

/-! ## Whole runs -/

variable {lines : List (List UInt8)}

/-- A part without opens, closes and subscribes shows as much in the scenario. -/
theorem shows_run_step {α : Type} {part : Step α} {post : α → List (List UInt8) → Prop}
    (shown : Shows emittedLine part post lines) : Shows scenarioLine part.run post lines := by
  refine Shows.lift ?_ shown
  exact fun _ _ => rfl

theorem shows_failAt (emits : environment.emitJsonl = true) {step detail : String}
    (before : Recorded router settled limit tally lines) (fits : limit + 1 < 4096)
    (listed : (step, detail) ∈ scenarioTexts) :
    Shows scenarioLine (failAt environment tally step detail) (Ends router) lines := by
  refine shows_run_step (Silent.bind (silent_ask fun _ => rfl) fun _ => ?_)
  have shown : Shows emittedLine (record tally environment step .fail detail)
      (Recorded router true (limit + 1)) lines :=
    shows_record emits listed .fail fun _ step =>
      before.note step (fun _ impossible => by cases impossible) fun _ _ => .inr (by decide)
  exact Shows.bind shown fun _ _ between => shows_summary between fits

theorem silent_closeCounted (session : FacadeHandle) :
    Silent scenarioLine (closeCounted session) lines := by
  refine Silent.bind (silent_ask fun _ => rfl) fun closed => ?_
  split
  · refine Silent.bind (shows_run_step (silent_ask fun _ => rfl)) fun _ => ?_
    exact silent_pure _
  · refine Silent.bind (shows_run_step (silent_ask fun _ => rfl)) fun _ => ?_
    exact silent_pure _

theorem shows_cleanShutdown (emits : environment.emitJsonl = true) (state : ScenarioState)
    (before : Recorded router settled limit tally lines) :
    Shows scenarioLine (cleanShutdown state environment tally) (Recorded router settled (limit + 1))
      lines := by
  have unsubscribe : Silent emittedLine (do
      let answer : ZenohResult ← ask (.unsubscribe state.subscriber state.subscription)
      if answer = .ok then
        ask (.setActiveSubscriptions 0)
        pure true
      else
        noteSessionFailure
        pure false : Step Bool) lines := by
    refine Silent.bind (silent_ask fun _ => rfl) fun answer => ?_
    split
    · exact Silent.bind (silent_ask fun _ => rfl) fun _ => silent_pure _
    · exact Silent.bind (silent_ask fun _ => rfl) fun _ => silent_pure _
  refine Silent.bind (shows_run_step unsubscribe) fun unsubscribed => ?_
  refine Silent.bind (silent_closeCounted _) fun publisherClosed => ?_
  refine Silent.bind (silent_closeCounted _) fun subscriberClosed => ?_
  refine shows_run_step (Silent.bind (silent_ask fun _ => rfl) fun answer => ?_)
  dsimp only
  split
  · exact shows_record_plain emits before (by simp [scenarioTexts]) (by decide)
  · exact shows_record_plain emits before (by simp [scenarioTexts]) (by decide)

theorem silent_reconnectCycles (config : ZenohConfig) (cycles : Nat) :
    Silent scenarioLine (reconnectCycles config cycles) lines := by
  induction cycles with
  | zero => exact silent_pure _
  | succ cycles ih =>
      refine Silent.bind (silent_ask fun _ => rfl) fun session => ?_
      split
      · refine Silent.bind (shows_run_step (silent_ask fun _ => rfl)) fun _ => ?_
        exact silent_pure _
      · refine Silent.bind (shows_run_step (silent_ask fun _ => rfl)) fun _ => ?_
        refine Silent.bind (silent_ask fun _ => rfl) fun closed => ?_
        split
        · refine Silent.bind (shows_run_step (silent_ask fun _ => rfl)) fun _ => ?_
          exact silent_pure _
        · exact Silent.bind (shows_run_step (silent_ask fun _ => rfl)) fun _ => ih

theorem shows_repeatedReconnect (emits : environment.emitJsonl = true) (config : ScenarioConfig)
    (before : Recorded router settled limit tally lines) :
    Shows scenarioLine (repeatedReconnect config environment tally)
      (Recorded router settled (limit + 1)) lines := by
  refine Silent.bind (silent_reconnectCycles _ _) fun allOk => ?_
  refine shows_run_step ?_
  cases allOk with
  | true => exact shows_record_plain emits before (by simp [scenarioTexts]) (by decide)
  | false => exact shows_record_plain emits before (by simp [scenarioTexts]) (by decide)

theorem shows_afterSubscribe (emits : environment.emitJsonl = true) (bounds : ScenarioBounds)
    (config : ScenarioConfig) (state : ScenarioState) (fits : limit + 10 < 4096)
    (before : Recorded environment.setRouterAvailable false limit tally lines) :
    Shows scenarioLine (afterSubscribe bounds config environment state tally)
      (Ends environment.setRouterAvailable) lines := by
  have steps : Shows emittedLine (do
      ask (.setActiveSubscriptions 1)
      let tally ← record tally environment "subscribe" .pass "one subscription declared"
      let tally ← bidirectionalTraffic state environment tally
      let tally ← routerLifecycle state environment tally
      let tally ← queueSaturation bounds state environment tally
      let tally ← continuousTraffic config state environment tally
      let tally ← maximumPayload bounds state environment tally
      oversizedPayload bounds state environment tally : Step StepTally)
      (Recorded environment.setRouterAvailable true (limit + 8)) lines := by
    refine Silent.bind (silent_ask fun _ => rfl) fun _ => ?_
    refine Shows.bind (shows_record_plain emits before (by simp [scenarioTexts]) (by decide)) ?_
    intro tally lines before
    refine Shows.bind (shows_bidirectionalTraffic emits state before) ?_
    intro tally lines before
    refine Shows.bind (shows_routerLifecycle emits state before) ?_
    intro tally lines before
    refine Shows.bind (shows_queueSaturation emits bounds state before) ?_
    intro tally lines before
    refine Shows.bind (shows_continuousTraffic emits config state before) ?_
    intro tally lines before
    refine Shows.bind (shows_maximumPayload emits bounds state before) ?_
    intro tally lines before
    exact shows_oversizedPayload emits bounds state before
  refine Shows.bind (shows_run_step steps) ?_
  intro tally lines before
  refine Shows.bind (shows_cleanShutdown emits state before) ?_
  intro tally lines before
  refine Shows.bind (shows_repeatedReconnect emits config before) ?_
  intro tally lines before
  exact shows_run_step (shows_summary before fits)

theorem shows_scenarioChecked (emits : environment.emitJsonl = true) (bounds : ScenarioBounds)
    (config : ScenarioConfig) (key : List UInt8) :
    Shows scenarioLine (scenarioChecked bounds config environment key)
      (Ends environment.setRouterAvailable) [] := by
  have start : Recorded environment.setRouterAvailable false 0 ⟨0, 0, 0⟩ [] :=
    ⟨fun _ member => (by cases member), rfl, Nat.le_refl 0, fun _ member => (by cases member),
      fun impossible => (by cases impossible)⟩
  refine Silent.bind (shows_run_step (silent_ask fun _ => rfl)) fun _ => ?_
  refine Silent.bind (silent_ask fun _ => rfl) fun subscriber => ?_
  dsimp only
  split
  · have opened : Shows emittedLine (do
        diagnosticsAdd .sessionOpens
        let tally ← record ⟨0, 0, 0⟩ environment "cold_boot" .pass "first session opened"
        sessionStateStep ⟨subscriber.value, 0, 0, key⟩ environment tally : Step StepTally)
        (Recorded environment.setRouterAvailable false 2) [] := by
      refine Silent.bind (silent_ask fun _ => rfl) fun _ => ?_
      refine Shows.bind (shows_record_plain emits start (by simp [scenarioTexts]) (by decide)) ?_
      intro tally lines before
      exact shows_sessionStateStep emits _ before
    refine Shows.bind (shows_run_step opened) ?_
    intro tally lines before
    refine Silent.bind (silent_ask fun _ => rfl) fun publisher => ?_
    dsimp only
    split
    · have published : Shows emittedLine (do
          diagnosticsAdd .sessionOpens
          record tally environment "open_publisher" .pass "second session opened" : Step StepTally)
          (Recorded environment.setRouterAvailable false 3) lines := by
        refine Silent.bind (silent_ask fun _ => rfl) fun _ => ?_
        exact shows_record_plain emits before (by simp [scenarioTexts]) (by decide)
      refine Shows.bind (shows_run_step published) ?_
      intro tally lines before
      refine Silent.bind (silent_ask fun _ => rfl) fun subscription => ?_
      dsimp only
      split
      · exact shows_afterSubscribe emits bounds config _ (by decide) before
      · exact shows_failAt emits before (by decide) (by simp [scenarioTexts])
    · exact shows_failAt emits before (by decide) (by simp [scenarioTexts])
  · exact shows_failAt emits start (by decide) (by simp [scenarioTexts])

end Runs

end AxolotyEmbedded.Zenoh
