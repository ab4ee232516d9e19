import AxolotyEmbedded.Zenoh.ScenarioSessions
import AxolotyEmbedded.Zenoh.ScenarioVerdict

/-!
The result of the scenario against its contract. A run in which no step fails returns 0,
also where the router transition was unavailable; and without a router hook some behaviour
of the facade makes every other step pass.
-/
namespace AxolotyEmbedded.Zenoh
open Script

/-! ## A run in which no step fails -/

/-- No step has failed. -/
def StepTally.Clean (tally : StepTally) : Prop :=
  tally.stepsTotal = tally.stepsPassed + tally.stepsUnavailable

theorem StepTally.Clean.note {tally : StepTally} (clean : tally.Clean) {outcome : StepOutcome}
    (fine : outcome ≠ .fail) : (tally.note outcome).Clean := by
  cases outcome with
  | pass => simp only [Clean, StepTally.note, if_true] at clean ⊢; simp; omega
  | fail => exact absurd rfl fine
  | unavailable => simp only [Clean, StepTally.note, if_true] at clean ⊢; simp; omega

section Parts
variable {state : ScenarioState} {environment : ScenarioEnvironment} {tally : StepTally}

/-- A part whose value does not matter. -/
theorem may_step {α : Type} (part : Step α) : May (fun _ => True) part := may_any plainAnswer part

theorem may_record (clean : tally.Clean) {outcome : StepOutcome} (fine : outcome ≠ .fail)
    (step detail : String) :
    May StepTally.Clean (record tally environment step outcome detail) :=
  May.bind (may_step _) fun _ _ => may_pure (clean.note fine)

theorem may_sessionStateStep (clean : tally.Clean) :
    May StepTally.Clean (sessionStateStep state environment tally) := by
  refine May.ask_bind (⟨.ok, .opened⟩ : Answered SessionState) ?_
  rw [if_pos ⟨rfl, rfl⟩]
  exact may_record clean (by decide) ..

theorem may_publishPattern (length : Nat) (seed : UInt8) :
    May (· = .ok) (publishPattern state environment length seed) := by
  refine May.ask_bind ZenohResult.ok ?_
  refine May.bind (may_step _) fun _ _ => ?_
  split
  · exact May.bind (may_step _) fun _ _ => may_pure rfl
  · exact may_pure rfl

theorem may_receiveExpected (subscribed : state.subscriber ≠ 0 ∧ state.subscription ≠ 0)
    {expectedLength : Nat} (fits : expectedLength < 2 ^ 32) (seed : UInt8) (attempts : Nat) :
    May (· = .pass) (receiveExpected state environment expectedLength seed (attempts + 1)) := by
  have polls : pollOnce state = ask (.poll state.subscriber state.subscription) :=
    if_neg (by simpa using subscribed)
  have arrived : matchesPattern (fun index => seed + UInt8.ofNat index) expectedLength seed = true := by
    simp [matchesPattern]
  rw [receiveExpected, polls]
  refine May.ask_bind (⟨.ok, BitVec.ofNat 32 expectedLength, fun index => seed + UInt8.ofNat index⟩ :
    Polled) ?_
  refine May.bind (may_step _) fun _ _ => ?_
  have whole : (BitVec.ofNat 32 expectedLength).toNat = expectedLength := by
    rw [BitVec.toNat_ofNat, Nat.mod_eq_of_lt fits]
  simp only [whole, arrived, ne_eq, not_true_eq_false, if_false, if_true]
  exact may_pure rfl

theorem may_bidirectionalTraffic (subscribed : state.subscriber ≠ 0 ∧ state.subscription ≠ 0)
    (clean : tally.Clean) :
    May StepTally.Clean (bidirectionalTraffic state environment tally) := by
  refine May.bind (may_publishPattern ..) ?_
  rintro published rfl
  refine May.bind (may_receiveExpected subscribed (by norm_num) ..) ?_
  rintro outcome rfl
  exact may_record clean (by decide) ..

/-- Without the hook the transition is unavailable, and nothing fails. -/
theorem may_routerLifecycle (bare : environment.setRouterAvailable = false) (clean : tally.Clean) :
    May StepTally.Clean (routerLifecycle state environment tally) := by
  refine May.ask_bind (⟨.ok, 0⟩ : Answered (BitVec 32)) ?_
  refine May.bind (may_record clean (by decide) ..) fun tally' clean' => ?_
  dsimp only
  rw [if_neg (by simp [bare])]
  exact may_record clean' (by decide) ..

/-- A queue that holds this many frames hands them out and then reports a drop. -/
theorem may_drainBurst (subscribed : state.subscriber ≠ 0 ∧ state.subscription ≠ 0) (polls held : Nat)
    (drained : Drained) :
    May (· = { drained with received := drained.received + held, drops := drained.drops + 1 })
      (drainBurst state (held + 1 + polls) drained) := by
  have asks : pollOnce state = ask (.poll state.subscriber state.subscription) :=
    if_neg (by simpa using subscribed)
  induction held generalizing drained with
  | zero =>
      rw [show 0 + 1 + polls = polls + 1 by omega, drainBurst, asks]
      refine May.ask_bind (⟨.queueFull, 0, blankMemory⟩ : Polled) ?_
      exact May.bind (may_step _) fun _ _ => may_pure rfl
  | succ held ih =>
      rw [show held + 1 + 1 + polls = (held + 1 + polls) + 1 by omega, drainBurst, asks]
      refine May.ask_bind (⟨.ok, 0, blankMemory⟩ : Polled) ?_
      refine May.bind (may_step _) fun _ _ => ?_
      have rest := ih { drained with received := drained.received + 1 }
      rw [show drained.received + 1 + held = drained.received + (held + 1) by omega] at rest
      exact rest

theorem may_queueSaturation {bounds : ScenarioBounds} (fits : bounds.receiveQueueCapacity < 2 ^ 32)
    (subscribed : state.subscriber ≠ 0 ∧ state.subscription ≠ 0) (clean : tally.Clean) :
    May StepTally.Clean (queueSaturation bounds state environment tally) := by
  refine May.ask_bind (⟨.ok, 0⟩ : Answered (BitVec 32)) ?_
  refine May.bind (may_step _) fun _ _ => May.bind (may_step _) fun _ _ => ?_
  refine May.ask_bind (⟨.ok, BitVec.ofNat 32 bounds.receiveQueueCapacity⟩ : Answered (BitVec 32)) ?_
  dsimp only
  rw [if_pos rfl]
  refine May.ask_bind (⟨.ok, 2⟩ : Answered (BitVec 32)) ?_
  dsimp only
  rw [if_pos rfl]
  refine May.bind (may_drainBurst subscribed 1 bounds.receiveQueueCapacity _) ?_
  rintro drained rfl
  refine May.bind (may_step _) fun _ _ => ?_
  have depth : (BitVec.ofNat 32 bounds.receiveQueueCapacity).toNat = bounds.receiveQueueCapacity := by
    rw [BitVec.toNat_ofNat, Nat.mod_eq_of_lt fits]
  have excess : bounds.receiveQueueCapacity + 2 - bounds.receiveQueueCapacity = 2 := by omega
  rw [if_neg Bool.false_ne_true, if_pos ⟨depth, by rw [excess]; rfl, Nat.zero_add _, rfl⟩]
  exact may_record clean (by decide) ..

theorem may_continuousPairs (subscribed : state.subscriber ≠ 0 ∧ state.subscription ≠ 0)
    (frames index : Nat) : May (· = true) (continuousPairs state environment frames index) := by
  induction frames generalizing index with
  | zero => exact may_pure rfl
  | succ frames ih =>
      refine May.bind (may_publishPattern ..) ?_
      rintro published rfl
      refine May.bind (may_receiveExpected subscribed (by omega) ..) ?_
      rintro outcome rfl
      exact ih _

theorem may_continuousTraffic (config : ScenarioConfig)
    (subscribed : state.subscriber ≠ 0 ∧ state.subscription ≠ 0) (clean : tally.Clean) :
    May StepTally.Clean (continuousTraffic config state environment tally) := by
  refine May.bind (may_continuousPairs subscribed ..) ?_
  rintro allOk rfl
  exact may_record clean (by decide) ..

theorem may_maximumPayload {bounds : ScenarioBounds} (fits : bounds.maxPayloadBytes < 2 ^ 32)
    (subscribed : state.subscriber ≠ 0 ∧ state.subscription ≠ 0) (clean : tally.Clean) :
    May StepTally.Clean (maximumPayload bounds state environment tally) := by
  refine May.bind (may_publishPattern ..) ?_
  rintro published rfl
  refine May.bind (may_receiveExpected subscribed fits ..) ?_
  rintro outcome rfl
  exact may_record clean (by decide) ..

theorem may_oversizedPayload (bounds : ScenarioBounds) (clean : tally.Clean) :
    May StepTally.Clean (oversizedPayload bounds state environment tally) := by
  refine May.ask_bind ZenohResult.invalidArgument ?_
  rw [if_pos rfl]
  exact may_record clean (by decide) ..

/-- The counts of a run without a failed step give 0, whatever was unavailable. -/
theorem may_summary (clean : tally.Clean) : May (· = 0) (summary tally environment) := by
  have failed : tally.stepsTotal - tally.stepsPassed - tally.stepsUnavailable = 0 := by
    rw [clean]
    omega
  simp only [summary, failed, if_true]
  refine May.bind (may_step _) fun _ _ => May.bind (may_step _) fun _ _ => ?_
  split
  · exact May.bind (may_step _) fun _ _ => may_pure rfl
  · exact may_pure rfl

/-- A part without opens, closes and subscribes may come to as much in the scenario. -/
theorem may_run_step {α : Type} {part : Step α} {post : α → Prop} (may : May post part) :
    May post part.run :=
  May.lift (fun _ => Function.surjective_id) may

theorem may_closeCounted (session : FacadeHandle) : May (· = true) (closeCounted session) := by
  refine May.ask_bind ZenohResult.ok ?_
  rw [if_pos rfl]
  exact May.bind (may_run_step (may_step _)) fun _ _ => may_pure rfl

theorem may_cleanShutdown (clean : tally.Clean) :
    May StepTally.Clean (cleanShutdown state environment tally) := by
  have unsubscribe : May (· = true) (do
      let answer : ZenohResult ← ask (.unsubscribe state.subscriber state.subscription)
      if answer = .ok then
        ask (.setActiveSubscriptions 0)
        pure true
      else
        noteSessionFailure
        pure false : Step Bool) := by
    refine May.ask_bind ZenohResult.ok ?_
    rw [if_pos rfl]
    exact May.bind (may_step _) fun _ _ => may_pure rfl
  refine May.bind (may_run_step unsubscribe) ?_
  rintro unsubscribed rfl
  refine May.bind (may_closeCounted _) ?_
  rintro publisherClosed rfl
  refine May.bind (may_closeCounted _) ?_
  rintro subscriberClosed rfl
  refine may_run_step (May.ask_bind (⟨.notOpen, .closed⟩ : Answered SessionState) ?_)
  exact may_record clean (by decide) ..

theorem may_reconnectCycles (config : ZenohConfig) (cycles : Nat) :
    May (· = true) (reconnectCycles config cycles) := by
  induction cycles with
  | zero => exact may_pure rfl
  | succ cycles ih =>
      refine May.ask_bind (⟨.ok, 1⟩ : Answered FacadeHandle) ?_
      rw [if_neg (by simp)]
      refine May.bind (may_run_step (may_step _)) fun _ _ => ?_
      refine May.ask_bind ZenohResult.ok ?_
      rw [if_neg (by simp)]
      exact May.bind (may_run_step (may_step _)) fun _ _ => ih

theorem may_repeatedReconnect (config : ScenarioConfig) (clean : tally.Clean) :
    May StepTally.Clean (repeatedReconnect config environment tally) := by
  refine May.bind (may_reconnectCycles _ _) ?_
  rintro allOk rfl
  exact may_run_step (may_record clean (by decide) ..)

theorem may_afterSubscribe {bounds : ScenarioBounds} (config : ScenarioConfig)
    (bare : environment.setRouterAvailable = false)
    (fits : bounds.receiveQueueCapacity < 2 ^ 32 ∧ bounds.maxPayloadBytes < 2 ^ 32)
    (subscribed : state.subscriber ≠ 0 ∧ state.subscription ≠ 0) (clean : tally.Clean) :
    May (· = 0) (afterSubscribe bounds config environment state tally) := by
  have steps : May StepTally.Clean (do
      ask (.setActiveSubscriptions 1)
      let tally ← record tally environment "subscribe" .pass "one subscription declared"
      let tally ← bidirectionalTraffic state environment tally
      let tally ← routerLifecycle state environment tally
      let tally ← queueSaturation bounds state environment tally
      let tally ← continuousTraffic config state environment tally
      let tally ← maximumPayload bounds state environment tally
      oversizedPayload bounds state environment tally : Step StepTally) := by
    refine May.bind (may_step _) fun _ _ => ?_
    refine May.bind (may_record clean (by decide) ..) fun _ clean => ?_
    refine May.bind (may_bidirectionalTraffic subscribed clean) fun _ clean => ?_
    refine May.bind (may_routerLifecycle bare clean) fun _ clean => ?_
    refine May.bind (may_queueSaturation fits.1 subscribed clean) fun _ clean => ?_
    refine May.bind (may_continuousTraffic config subscribed clean) fun _ clean => ?_
    refine May.bind (may_maximumPayload fits.2 subscribed clean) fun _ clean => ?_
    exact may_oversizedPayload bounds clean
  refine May.bind (may_run_step steps) fun _ clean => ?_
  refine May.bind (may_cleanShutdown clean) fun _ clean => ?_
  refine May.bind (may_repeatedReconnect config clean) fun _ clean => ?_
  exact may_run_step (may_summary clean)

/-- Without a router hook some behaviour makes the scenario return 0. -/
theorem may_scenarioChecked {bounds : ScenarioBounds} (config : ScenarioConfig)
    (bare : environment.setRouterAvailable = false)
    (fits : bounds.receiveQueueCapacity < 2 ^ 32 ∧ bounds.maxPayloadBytes < 2 ^ 32)
    (key : List UInt8) : May (· = 0) (scenarioChecked bounds config environment key) := by
  have start : StepTally.Clean ⟨0, 0, 0⟩ := rfl
  refine May.bind (may_run_step (may_step _)) fun _ _ => ?_
  refine May.ask_bind (⟨.ok, 1⟩ : Answered FacadeHandle) ?_
  dsimp only
  rw [if_pos rfl]
  have opened : May StepTally.Clean (do
      diagnosticsAdd .sessionOpens
      let tally ← record ⟨0, 0, 0⟩ environment "cold_boot" .pass "first session opened"
      sessionStateStep ⟨1, 0, 0, key⟩ environment tally : Step StepTally) := by
    refine May.bind (may_step _) fun _ _ => ?_
    exact May.bind (may_record start (by decide) ..) fun _ clean => may_sessionStateStep clean
  refine May.bind (may_run_step opened) fun tally clean => ?_
  refine May.ask_bind (⟨.ok, 2⟩ : Answered FacadeHandle) ?_
  dsimp only
  rw [if_pos rfl]
  have published : May StepTally.Clean (do
      diagnosticsAdd .sessionOpens
      record tally environment "open_publisher" .pass "second session opened" : Step StepTally) :=
    May.bind (may_step _) fun _ _ => may_record clean (by decide) ..
  refine May.bind (may_run_step published) fun tally clean => ?_
  refine May.ask_bind (⟨.ok, 1⟩ : Answered FacadeHandle) ?_
  dsimp only
  rw [if_pos rfl]
  exact may_afterSubscribe config bare fits ⟨Nat.one_ne_zero, Nat.one_ne_zero⟩ clean

end Parts

/-! ## The contract -/

/-- The outcomes of the steps a run recorded, read off the lines it emitted. -/
def recordedBy (ran : ScriptRun ScenarioCall.Answer ScenarioCallKind Int) : List StepOutcome :=
  recorded (ran.exchanges.filterMap scenarioLine)

/-- The verdict that the header promises. -/
structure ScenarioVerdict (ran : ScriptRun ScenarioCall.Answer ScenarioCallKind Int) : Prop where
  zero : ran.value = 0 ↔ ∀ outcome ∈ recordedBy ran, outcome = .pass
  one : .fail ∈ recordedBy ran → ran.value = 1
  summary : ∀ line ∈ ran.exchanges.filterMap scenarioLine, recordedStep line = none →
    SummaryStates line (recordedBy ran)

/-- A run of the scenario under these answers. -/
def scenarioRun (bounds : ScenarioBounds) (config : ScenarioConfig)
    (environment : ScenarioEnvironment) (answers : Environment ScenarioCall.Answer) :
    ScriptRun ScenarioCall.Answer ScenarioCallKind Int :=
  (zenohCarrierScenarioRun bounds (some config) (some environment)).run ScenarioCall.kind answers
    fun _ => 0

section Contract
variable {bounds : ScenarioBounds} {config : ScenarioConfig} {environment : ScenarioEnvironment}
  {key : List UInt8}

/-- What a run returns and emits, whatever its calls return. -/
theorem ends_scenarioRun (accepted : acceptedKey bounds config environment = some key)
    (answers : Environment ScenarioCall.Answer) :
    let ran := scenarioRun bounds config environment answers
    Ends environment.setRouterAvailable ran.value (ran.exchanges.filterMap scenarioLine) := by
  have emits : environment.emitJsonl = true := by
    by_contra silent
    rw [acceptedKey, if_pos (by simpa using silent)] at accepted
    cases accepted
  have ended := (shows_scenarioChecked emits bounds config key).run ScenarioCall.kind answers
    fun _ => 0
  simp only [scenarioRun, zenohCarrierScenarioRun, accepted]
  simpa using ended

theorem exists_scenarioRun_zero (accepted : acceptedKey bounds config environment = some key)
    (bare : environment.setRouterAvailable = false)
    (fits : bounds.receiveQueueCapacity < 2 ^ 32 ∧ bounds.maxPayloadBytes < 2 ^ 32) :
    ∃ answers, (scenarioRun bounds config environment answers).value = 0 := by
  have runs := (may_scenarioChecked config bare fits key).run ScenarioCall.kind (oneSession 0)
    fun _ => 0
  simpa only [scenarioRun, zenohCarrierScenarioRun, accepted] using runs

/-- A run keeps the contract where a router hook is given or a step failed. -/
theorem scenarioVerdict_run (accepted : acceptedKey bounds config environment = some key)
    (answers : Environment ScenarioCall.Answer) :
    let ran := scenarioRun bounds config environment answers
    ScenarioVerdict ran ↔ environment.setRouterAvailable = true ∨ .fail ∈ recordedBy ran := by
  intro ran
  have ended : Ends environment.setRouterAvailable ran.value
    (ran.exchanges.filterMap scenarioLine) := ends_scenarioRun accepted answers
  have value : ran.value = if .fail ∈ recordedBy ran then 1 else 0 := ended.value_eq
  have one (failed : .fail ∈ recordedBy ran) : ran.value = 1 := by
    rw [value, if_pos failed]
  by_cases failed : .fail ∈ recordedBy ran
  · refine iff_of_true ⟨?_, one, ended.summary⟩ (.inr failed)
    rw [one failed]
    refine iff_of_false (by decide) fun allPass => ?_
    have passed := allPass .fail failed
    cases passed
  · have zero : ran.value = 0 := by
      rw [value, if_neg failed]
    cases hooked : environment.setRouterAvailable with
    | true =>
        refine iff_of_true ⟨iff_of_true zero fun outcome member => ?_, one, ended.summary⟩ (.inl rfl)
        cases outcome with
        | pass => rfl
        | fail => exact absurd member failed
        | unavailable => exact absurd (ended.available hooked member) failed
    | false =>
        refine iff_of_false (fun verdict => ?_) (by simp [failed])
        have unavailable := (ended.missing hooked).resolve_left failed
        have passed := verdict.zero.mp zero .unavailable unavailable
        cases passed

/-- For every accepted configuration and environment: the scenario keeps its contract
whatever the facade and the hooks do, exactly when the environment gives a router hook.
Without one, a run breaks it exactly when no step fails: it then returns 0, though the
router transition was unavailable. -/
theorem scenarioVerdict_iff (accepted : acceptedKey bounds config environment = some key)
    (fits : bounds.receiveQueueCapacity < 2 ^ 32 ∧ bounds.maxPayloadBytes < 2 ^ 32) :
    ((∀ answers, ScenarioVerdict (scenarioRun bounds config environment answers)) ↔
      environment.setRouterAvailable = true) ∧
    ∀ answers, ScenarioVerdict (scenarioRun bounds config environment answers) ↔
      environment.setRouterAvailable = true ∨
        .fail ∈ recordedBy (scenarioRun bounds config environment answers) := by
  refine ⟨⟨fun always => ?_, fun hooked answers => ?_⟩, scenarioVerdict_run accepted⟩
  · cases hooked : environment.setRouterAvailable with
    | true => rfl
    | false =>
        obtain ⟨answers, zero⟩ := exists_scenarioRun_zero accepted hooked fits
        have verdict := (scenarioVerdict_run accepted answers).mp (always answers)
        rw [hooked, or_iff_right Bool.false_ne_true] at verdict
        have one := (always answers).one verdict
        rw [zero] at one
        cases one
  · exact (scenarioVerdict_run accepted answers).mpr (.inl hooked)

end Contract

theorem scenarioVerdict_iff_host :
    acceptedKey hostBounds hostConfig hostEnvironment = some [0x61] ∧
    (hostBounds.receiveQueueCapacity < 2 ^ 32 ∧ hostBounds.maxPayloadBytes < 2 ^ 32) ∧
    ((∀ answers, ScenarioVerdict (scenarioRun hostBounds hostConfig hostEnvironment answers)) ↔
      hostEnvironment.setRouterAvailable = true) :=
  ⟨rfl, by decide, (scenarioVerdict_iff rfl (by decide)).1⟩

/-- A run on a device: it can report the step, but cannot drop the router. -/
def deviceEnvironment : ScenarioEnvironment := ⟨true, true, false, false, true, 0⟩

/-- The device run may return 0 with a step that was unavailable. -/
theorem not_scenarioVerdict_device :
    ¬ ∀ answers, ScenarioVerdict (scenarioRun hostBounds hostConfig deviceEnvironment answers) := by
  intro always
  have accepted : acceptedKey hostBounds hostConfig deviceEnvironment = some [0x61] := rfl
  obtain ⟨answers, zero⟩ := exists_scenarioRun_zero accepted rfl (by decide)
  have verdict := (scenarioVerdict_run accepted answers).mp (always answers)
  rcases verdict with hooked | failed
  · cases hooked
  · have one := (always answers).one failed
    rw [zero] at one
    cases one

end AxolotyEmbedded.Zenoh
