import AxolotyEmbedded.SensorNode.Session

/-!
What the sensor node keeps to, whatever its calls return: the order of the calls of
a session, from bring-up to teardown, and the console, whose samples count what the lines before
them show.
-/
namespace AxolotyEmbedded.SensorNode

open Monitor

/-! ## The console -/

def Line.isEnded : Line → Bool
  | ended _ => true
  | _ => false

/-- A session that never advertised. -/
def Line.isFailed : Line → Bool
  | ended stage => stage ≠ .serving
  | _ => false

def endedCount (lines : List Line) : Nat := lines.countP Line.isEnded

/-- The last line belongs to a session that advertised and has not ended. -/
def isOpen (lines : List Line) : Bool :=
  match lines.getLast? with
  | some .advertised => true
  | some (.metrics ..) => true
  | _ => false

/-- The sessions in a row that never advertised, up to now. -/
def failedRun (lines : List Line) : Nat := (lines.reverse.takeWhile Line.isFailed).length

/-- A sample of counters comes after another one. -/
structure Later (earlier counters : Counters) : Prop where
  resolves : earlier.resolves ≤ counters.resolves
  rejected : earlier.rejected ≤ counters.rejected
  publishFailures : earlier.publishFailures ≤ counters.publishFailures
  readingMaxUs : earlier.readingMaxUs ≤ counters.readingMaxUs
  frameMaxUs : earlier.frameMaxUs ≤ counters.frameMaxUs

/-- Counters that count what the lines show. -/
structure Counted (lines : List Line) (counters : Counters) : Prop where
  sessions : counters.sessions = BitVec.ofNat 32 (endedCount lines)
  publishFailures : counters.publishFailures.toNat ≤ endedCount lines
  reading : counters.readingLastUs ≤ counters.readingMaxUs
  frame : counters.frameLastUs ≤ counters.frameMaxUs

/-- The application has returned. -/
def Line.isLast : Line → Bool
  | unconfigured => true
  | restart => true
  | _ => false

def stopped (lines : List Line) : Bool := lines.any Line.isLast

/-- What a line says of those before it and of so many calls. -/
def Fits (lines : List Line) (calls : Nat) : Line → Prop
  | .unconfigured => lines = []
  | .advertised => isOpen lines = false
  | .ended stage => stage = .serving ↔ isOpen lines = true
  | .metrics counters _ =>
      isOpen lines = true ∧ Counted lines counters ∧
        (calls < 2 ^ 32 → ∀ earlier platform, .metrics earlier platform ∈ lines →
          earlier.readings < counters.readings ∧ Later earlier counters)
  | .restart => failedRun lines = maximumFailedSessions ∧ isOpen lines = false

/-- A line that may come after those before it and after so many calls. -/
structure Follows (lines : List Line) (calls : Nat) (line : Line) : Prop where
  running : stopped lines = false
  fits : Fits lines calls line

/-! ## The order of the calls -/

inductive Phase where
  | idle | started | prepared | connected | subscribed | closing | cleaned
  deriving DecidableEq

structure Watch where
  phase : Phase
  lines : List Line
  calls : Nat

/-- Both bits of the network are up. -/
def isUp (network : Option (BitVec 32)) : Bool := network.any fun bits => bits &&& 3 == 3

def Phase.next (phase : Phase) : Exchange Call.Answer → Phase
  | ⟨.resetTransport, _⟩ => started
  | ⟨.prepareNetwork _, network⟩ => if isUp network then prepared else closing
  | ⟨.connect _, answer⟩ => if answer.isSome then connected else closing
  | ⟨.subscribe .., answer⟩ => if answer.isSome then subscribed else phase
  | ⟨.disconnect, _⟩ => closing
  | ⟨.cleanupNetwork, _⟩ => cleaned
  | ⟨.writeLog (.ended _), _⟩ => idle
  | _ => phase

def Call.lines : Call → List Line
  | writeLog line => [line]
  | _ => []

def Watch.next (watch : Watch) (exchange : Exchange Call.Answer) : Watch where
  phase := watch.phase.next exchange
  lines := watch.lines ++ exchange.1.lines
  calls := watch.calls + 1

/-- The phases in which a line may be written. -/
def Line.Phase : Line → SensorNode.Phase → Prop
  | ended _, phase => phase = .cleaned
  | advertised, phase => phase = .subscribed
  | metrics .., phase => phase = .subscribed
  | _, phase => phase = .idle

/-- A call that may come next. -/
def Watch.Allows (watch : Watch) : Call → Prop
  | .isNetworkConfigured => watch.calls = 0
  | .resetTransport => watch.phase = .idle ∧ stopped watch.lines = false
  | .copyDeviceDisplayName _ => watch.phase = .started
  | .prepareNetwork _ => watch.phase = .started
  | .supportsLastWill => watch.phase = .prepared
  | .configureLastWill .. => watch.phase = .prepared
  | .connect _ => watch.phase = .prepared
  | .subscribe .. => watch.phase = .connected
  | .disconnect => watch.phase = .connected ∨ watch.phase = .subscribed
  | .cleanupNetwork => watch.phase = .closing ∨ watch.phase = .prepared
  | .delay ticks =>
      watch.phase = .subscribed ∧ ticks = idleTicks ∨
        watch.phase = .idle ∧ stopped watch.lines = false ∧
          ticks = backoffTicks (failedRun watch.lines)
  | .writeLog line => line.Phase watch.phase ∧ Follows watch.lines watch.calls line
  | .restart => watch.lines.getLast? = some .restart
  | _ => watch.phase = .subscribed

/-- The monitor of the sensor node. -/
def sensorNode : Monitor Call.Answer Watch where
  step := Watch.next
  Allows watch exchange := watch.Allows exchange.1

def Watch.start : Watch := ⟨.idle, [], 0⟩

/-! ## Calls in a session -/

variable {wire : Wire} {watch : Watch} {α : Type}

/-- No line has been written. -/
structure Moved (before after : Watch) : Prop where
  lines : after.lines = before.lines
  calls : before.calls ≤ after.calls

/-- Nothing but the number of calls has changed. -/
structure Quiet (before after : Watch) : Prop extends Moved before after where
  phase : after.phase = before.phase

theorem Moved.trans {first second third : Watch} (moved : Moved first second)
    (moved' : Moved second third) : Moved first third :=
  ⟨moved'.lines.trans moved.lines, moved.calls.trans moved'.calls⟩

theorem moved_next (made : Call) (silent : made.lines = []) (answer : made.Answer) (watch : Watch) :
    Moved watch (watch.next ⟨made, answer⟩) where
  lines := by rw [Watch.next, silent, List.append_nil]
  calls := Nat.le_succ _

theorem Quiet.refl (watch : Watch) : Quiet watch watch := ⟨⟨rfl, Nat.le_refl _⟩, rfl⟩

theorem Quiet.trans {first second third : Watch} (quiet : Quiet first second)
    (quiet' : Quiet second third) : Quiet first third :=
  ⟨quiet.toMoved.trans quiet'.toMoved, quiet'.phase.trans quiet.phase⟩

/-- A call that changes no phase and writes nothing. -/
def Call.IsQuiet (made : Call) : Prop :=
  made.lines = [] ∧ ∀ (phase : Phase) (answer : made.Answer), phase.next ⟨made, answer⟩ = phase

theorem quiet_next {made : Call} (still : made.IsQuiet) (answer : made.Answer) (watch : Watch) :
    Quiet watch (watch.next ⟨made, answer⟩) :=
  ⟨moved_next made still.1 answer watch, still.2 watch.phase answer⟩

/-- A quiet call and what comes after it. -/
theorem watches_quiet (made : Call) {rest : made.Answer → NodeScript α} {post : α → Watch → Prop}
    (still : made.IsQuiet) (allowed : watch.Allows made)
    (met : ∀ answer later, Quiet watch later → watch.calls < later.calls →
      sensorNode.Watches (rest answer) post later) :
    sensorNode.Watches (ask made >>= rest) post watch := by
  apply watches_call
  intro answer
  exact ⟨allowed, met answer _ (quiet_next still answer watch) (Nat.lt_succ_self _)⟩

section Serving

variable (serving : watch.phase = .subscribed)
include serving

theorem watches_nowUS :
    sensorNode.Watches sensorNodeNowUS (fun _ after => Quiet watch after ∧ watch.calls < after.calls) watch := by
  apply watches_quiet .nowMicroseconds ⟨rfl, fun _ _ => rfl⟩ serving
  intro answer later quiet more
  exact ⟨quiet, more⟩

theorem watches_nowMS :
    sensorNode.Watches sensorNodeNowMS (fun _ after => Quiet watch after ∧ watch.calls < after.calls) watch := by
  apply watches_quiet .nowMicroseconds ⟨rfl, fun _ _ => rfl⟩ serving
  intro answer later quiet more
  exact ⟨quiet, more⟩

theorem watches_publishSensorAction (publication : Publication) :
    sensorNode.Watches (publishSensorAction wire publication) (fun _ => Quiet watch) watch := by
  unfold publishSensorAction
  split
  · exact Quiet.refl watch
  · split
    · exact Quiet.refl watch
    · next topic _ =>
      apply watches_quiet (.publish topic publication.payload) ⟨rfl, fun _ _ => rfl⟩ serving
      intro answer later quiet more
      exact quiet

theorem watches_publishSensorActions (actions : List Action) :
    sensorNode.Watches (publishSensorActions wire actions) (fun _ => Quiet watch) watch := by
  induction actions generalizing watch with
  | nil => exact Quiet.refl watch
  | cons action actions ih =>
      cases action with
      | publish publication =>
          apply (watches_publishSensorAction serving publication).bind
          intro sent later quiet
          apply (ih (quiet.phase.trans serving)).bind
          intro others last quiet'
          exact quiet.trans quiet'
      | deliver delivery => exact ih serving
      | other => exact ih serving

theorem watches_sendSensorOperation (operation : LocalOperation) (nowMS : Nat) :
    sensorNode.Watches (sendSensorOperation wire operation nowMS) (fun _ => Quiet watch) watch := by
  apply watches_quiet (.send operation _) ⟨rfl, fun _ _ => rfl⟩ serving
  intro accepted later quiet more
  cases accepted with
  | false => exact quiet
  | true =>
      apply watches_quiet .drain ⟨rfl, fun _ _ => rfl⟩ (quiet.phase.trans serving)
      intro actions last quiet' more'
      apply (watches_publishSensorActions (quiet'.phase.trans (quiet.phase.trans serving)) actions).mono
      intro sent after quiet''
      exact (quiet.trans quiet').trans quiet''

end Serving

/-! ## Counters -/

/-- No counter has wrapped yet. A failure is counted before the calls that end its session. -/
structure Bounded (slack : Nat) (counters : Counters) (calls : Nat) : Prop where
  readings : counters.readings.toNat ≤ calls
  resolves : counters.resolves.toNat ≤ calls
  rejected : counters.rejected.toNat ≤ calls
  publishFailures : counters.publishFailures.toNat < calls + slack

/-- The counters of a running session, which may have one failure more than the lines show. -/
structure Tallied (slack : Nat) (counters : Counters) (watch : Watch) : Prop where
  running : stopped watch.lines = false
  sessions : counters.sessions = BitVec.ofNat 32 (endedCount watch.lines)
  publishFailures : counters.publishFailures.toNat ≤ endedCount watch.lines + slack
  reading : counters.readingLastUs ≤ counters.readingMaxUs
  frame : counters.frameLastUs ≤ counters.frameMaxUs
  bounded : watch.calls < 2 ^ 32 → Bounded slack counters watch.calls
  later : watch.calls < 2 ^ 32 → ∀ earlier platform, Line.metrics earlier platform ∈ watch.lines →
    earlier.readings ≤ counters.readings ∧ Later earlier counters

/-- What one reading or one frame does to the counters. -/
structure Steps (before after : Counters) : Prop where
  sessions : after.sessions = before.sessions
  publishFailures : after.publishFailures = before.publishFailures
  readings : after.readings = before.readings ∨ after.readings = before.readings + 1
  resolves : after.resolves = before.resolves ∨ after.resolves = before.resolves + 1
  rejected : after.rejected = before.rejected ∨ after.rejected = before.rejected + 1
  reading : before.readingLastUs ≤ before.readingMaxUs → after.readingLastUs ≤ after.readingMaxUs
  frame : before.frameLastUs ≤ before.frameMaxUs → after.frameLastUs ≤ after.frameMaxUs
  readingMaxUs : before.readingMaxUs ≤ after.readingMaxUs
  frameMaxUs : before.frameMaxUs ≤ after.frameMaxUs

theorem le_of_step {before after : BitVec 32} (step : after = before ∨ after = before + 1) {calls : Nat}
    (bounded : before.toNat ≤ calls) (small : calls + 1 < 2 ^ 32) :
    before ≤ after ∧ after.toNat ≤ calls + 1 := by
  obtain rfl | rfl := step
  · exact ⟨BitVec.le_refl _, by omega⟩
  · rw [BitVec.le_def, BitVec.toNat_add]
    constructor <;> simp <;> omega

variable {slack : Nat} {counters counters' : Counters} {later : Watch}

theorem Tallied.moved (tallied : Tallied slack counters watch) (moved : Moved watch later) :
    Tallied slack counters later := by
  obtain ⟨lines, calls⟩ := moved
  refine ⟨?_, ?_, ?_, tallied.reading, tallied.frame, ?_, ?_⟩
  · rw [lines]
    exact tallied.running
  · rw [lines]
    exact tallied.sessions
  · rw [lines]
    exact tallied.publishFailures
  · intro small
    obtain ⟨readings, resolves, rejected, failures⟩ := tallied.bounded (by omega)
    exact ⟨by omega, by omega, by omega, by omega⟩
  · intro small
    rw [lines]
    exact tallied.later (by omega)

/-- The counters of a step count at most one more of each kind. -/
theorem Tallied.steps (tallied : Tallied slack counters watch) (steps : Steps counters counters')
    (quiet : Quiet watch later) (more : watch.calls < later.calls) : Tallied slack counters' later := by
  have still := tallied.moved quiet.toMoved
  have bounds (small : later.calls < 2 ^ 32) := tallied.bounded (by omega)
  have readings (small : later.calls < 2 ^ 32) :=
    le_of_step steps.readings (bounds small).readings (by omega)
  have resolves (small : later.calls < 2 ^ 32) :=
    le_of_step steps.resolves (bounds small).resolves (by omega)
  have rejected (small : later.calls < 2 ^ 32) :=
    le_of_step steps.rejected (bounds small).rejected (by omega)
  refine ⟨still.running, ?_, ?_, steps.reading tallied.reading, steps.frame tallied.frame, ?_, ?_⟩
  · rw [steps.sessions]
    exact still.sessions
  · rw [steps.publishFailures]
    exact still.publishFailures
  · intro small
    have failures := (still.bounded small).publishFailures
    rw [← steps.publishFailures] at failures
    exact ⟨(readings small).2.trans more, (resolves small).2.trans more,
      (rejected small).2.trans more, failures⟩
  · intro small earlier platform member
    obtain ⟨first, samples⟩ := still.later small earlier platform member
    refine ⟨BitVec.le_trans first (readings small).1, ?_, ?_, ?_, ?_, ?_⟩
    · exact BitVec.le_trans samples.resolves (resolves small).1
    · exact BitVec.le_trans samples.rejected (rejected small).1
    · rw [steps.publishFailures]
      exact samples.publishFailures
    · exact BitVec.le_trans samples.readingMaxUs steps.readingMaxUs
    · exact BitVec.le_trans samples.frameMaxUs steps.frameMaxUs

theorem le_maxUs_left (first second : BitVec 32) : first ≤ maxUs first second := by
  unfold maxUs
  split
  · next le => exact le
  · exact BitVec.le_refl _

theorem le_maxUs_right (first second : BitVec 32) : second ≤ maxUs first second := by
  unfold maxUs
  split
  · exact BitVec.le_refl _
  · next greater => exact BitVec.le_of_lt (BitVec.not_le.mp greater)

theorem Steps.refl (counters : Counters) : Steps counters counters :=
  ⟨rfl, rfl, .inl rfl, .inl rfl, .inl rfl, id, id, BitVec.le_refl _, BitVec.le_refl _⟩

/-! ## The serve loop -/

/-- What a round starts from. -/
def InSession (slack : Nat) (counters : Counters) (watch : Watch) : Prop :=
  watch.phase = .subscribed ∧ isOpen watch.lines = true ∧ Tallied slack counters watch

section Serving

variable (serving : watch.phase = .subscribed)
include serving

theorem watches_noteFrame (counters : Counters) (start : BitVec 64) :
    sensorNode.Watches (counters.noteFrame start)
      (fun noted after => Quiet watch after ∧ ∃ elapsed, noted = { counters with
        frameLastUs := elapsed, frameMaxUs := maxUs counters.frameMaxUs elapsed }) watch := by
  apply (watches_nowUS serving).bind
  intro now later quiet
  exact ⟨quiet.1, _, rfl⟩

theorem watches_noteReading (counters : Counters) (start : BitVec 64) :
    sensorNode.Watches (counters.noteReading start)
      (fun noted after => Quiet watch after ∧ ∃ elapsed, noted = { counters with
        readingLastUs := elapsed, readingMaxUs := maxUs counters.readingMaxUs elapsed }) watch := by
  apply (watches_nowUS serving).bind
  intro now later quiet
  exact ⟨quiet.1, _, rfl⟩

theorem watches_serveSensorFrame (name topic payload : List UInt8) (nowMS : Nat) (counters : Counters) :
    sensorNode.Watches (serveSensorFrame wire name topic payload nowMS counters)
      (fun result after => Quiet watch after ∧ watch.calls < after.calls ∧ Steps counters result.2) watch := by
  apply (watches_nowUS serving).bind
  intro start first quiet
  obtain ⟨quiet, more⟩ := quiet
  apply watches_quiet (.receive topic payload _) ⟨rfl, fun _ _ => rfl⟩ (quiet.phase.trans serving)
  intro rejected second quiet' more'
  have still := quiet.trans quiet'
  apply watches_quiet .drain ⟨rfl, fun _ _ => rfl⟩ (still.phase.trans serving)
  intro actions third quiet'' more''
  have still := still.trans quiet''
  have more : watch.calls < third.calls := by omega
  have counted : Steps counters
      (if rejected = true then { counters with rejected := counters.rejected + 1 } else counters) := by
    cases rejected with
    | false => exact Steps.refl counters
    | true => exact { Steps.refl counters with rejected := .inr rfl }
  have unresolved : (if rejected = true then { counters with rejected := counters.rejected + 1 }
      else counters).resolves = counters.resolves := by
    cases rejected <;> rfl
  generalize (if rejected = true then { counters with rejected := counters.rejected + 1 }
    else counters) = received at counted unresolved
  cases requestOf wire actions with
  | none => exact ⟨still, more, counted⟩
  | some request =>
      cases encodeSensorObjectPayload wire name none with
      | none => exact ⟨still, more, counted⟩
      | some answer =>
          have resolved : Steps counters { received with resolves := received.resolves + 1 } :=
            { counted with resolves := .inr (by rw [unresolved]) }
          apply (watches_sendSensorOperation (still.phase.trans serving) _ _).bind
          intro sent fourth quiet
          have still := still.trans quiet
          have more : watch.calls < fourth.calls := Nat.lt_of_lt_of_le more quiet.calls
          cases sent with
          | false => exact ⟨still, more, resolved⟩
          | true =>
              apply (watches_noteFrame (still.phase.trans serving) _ _).bind
              intro noted last timed
              obtain ⟨quiet, elapsed, rfl⟩ := timed
              refine ⟨still.trans quiet, Nat.lt_of_lt_of_le more quiet.calls, ?_⟩
              exact { resolved with
                frame := fun _ => le_maxUs_right _ _
                frameMaxUs := BitVec.le_trans resolved.frameMaxUs (le_maxUs_left _ _) }

end Serving

theorem isOpen_metrics (lines : List Line) (counters : Counters) (platform : Metrics) :
    isOpen (lines ++ [.metrics counters platform]) = true := by
  simp [isOpen]

theorem isOpen_advertised (lines : List Line) : isOpen (lines ++ [.advertised]) = true := by
  simp [isOpen]

theorem isOpen_ended (lines : List Line) (stage : Stage) : isOpen (lines ++ [.ended stage]) = false := by
  simp [isOpen]

theorem Tallied.counted (tallied : Tallied 0 counters watch) : Counted watch.lines counters :=
  ⟨tallied.sessions, tallied.publishFailures, tallied.reading, tallied.frame⟩

/-- A line of a running session changes nothing that is counted. -/
theorem Tallied.write {line : Line} (tallied : Tallied slack counters watch)
    (running : line.isEnded = false) (goesOn : line.isLast = false)
    (own : ∀ earlier platform, line = .metrics earlier platform → earlier = counters) :
    Tallied slack counters ⟨watch.phase, watch.lines ++ [line], watch.calls + 1⟩ := by
  have count : endedCount (watch.lines ++ [line]) = endedCount watch.lines := by
    simp [endedCount, running]
  refine ⟨?_, ?_, ?_, tallied.reading, tallied.frame, ?_, ?_⟩
  · rw [stopped, List.any_append, List.any_cons, goesOn, List.any_nil, Bool.or_false, Bool.or_false]
    exact tallied.running
  · rw [count]
    exact tallied.sessions
  · rw [count]
    exact tallied.publishFailures
  · intro small
    obtain ⟨readings, resolves, rejected, failures⟩ := tallied.bounded (Nat.lt_of_succ_lt small)
    exact ⟨readings.trans (Nat.le_succ _), resolves.trans (Nat.le_succ _),
      rejected.trans (Nat.le_succ _), failures.trans (Nat.add_lt_add_right (Nat.lt_succ_self _) _)⟩
  · intro small earlier platform member
    rw [List.mem_append, List.mem_singleton] at member
    cases member with
    | inl before => exact tallied.later (Nat.lt_of_succ_lt small) earlier platform before
    | inr same =>
        rw [own earlier platform same.symm]
        exact ⟨BitVec.le_refl _, BitVec.le_refl _, BitVec.le_refl _, BitVec.le_refl _,
          BitVec.le_refl _, BitVec.le_refl _⟩

theorem Tallied.metrics (tallied : Tallied slack counters watch) (platform : Metrics) :
    Tallied slack counters ⟨watch.phase, watch.lines ++ [.metrics counters platform], watch.calls + 1⟩ :=
  tallied.write rfl rfl fun _ _ same => (Line.metrics.inj same).1.symm

theorem Tallied.advertised (tallied : Tallied slack counters watch) :
    Tallied slack counters ⟨watch.phase, watch.lines ++ [.advertised], watch.calls + 1⟩ :=
  tallied.write rfl rfl fun _ _ same => by cases same

/-- A sample that is logged is the latest one. -/
theorem watches_logSensorNodeMetrics (started : InSession 0 counters watch)
    (latest : watch.calls < 2 ^ 32 → ∀ earlier platform, Line.metrics earlier platform ∈ watch.lines →
      earlier.readings < counters.readings) :
    sensorNode.Watches (logSensorNodeMetrics counters) (fun _ => InSession 0 counters) watch := by
  obtain ⟨serving, opened, tallied⟩ := started
  apply watches_quiet .readMetrics ⟨rfl, fun _ _ => rfl⟩ serving
  intro platform later quiet more
  have serving := quiet.phase.trans serving
  have opened : isOpen later.lines = true := by rw [quiet.lines, opened]
  have tallied := tallied.moved quiet.toMoved
  cases platform with
  | none => exact ⟨serving, opened, tallied⟩
  | some platform =>
      apply watches_call
      intro answer
      refine ⟨⟨serving, tallied.running, opened, tallied.counted, ?_⟩, serving, isOpen_metrics ..,
        tallied.metrics platform⟩
      intro small earlier shown member
      refine ⟨latest (by omega) earlier shown ?_, (tallied.later small earlier shown member).2⟩
      rw [← quiet.lines]
      exact member

/-- The counter of failures does not wrap. -/
theorem Bounded.failed {calls : Nat} (bounded : Bounded 0 counters calls) (small : calls < 2 ^ 32) :
    counters.publishFailures ≤ counters.failed.publishFailures ∧
      counters.failed.publishFailures.toNat < calls + 1 := by
  have below : counters.publishFailures.toNat < calls := bounded.publishFailures
  have sum : calls - 1 + 1 = calls := by omega
  obtain ⟨more, least⟩ := le_of_step (.inr (rfl : counters.failed.publishFailures = _))
    (Nat.le_sub_one_of_lt below) (by omega)
  exact ⟨more, by omega⟩

theorem Tallied.failed (tallied : Tallied 0 counters watch) : Tallied 1 counters.failed watch := by
  refine { tallied with publishFailures := ?_, bounded := ?_, later := ?_ }
  · have added : (counters.publishFailures + 1).toNat ≤ counters.publishFailures.toNat + 1 := by
      rw [BitVec.toNat_add]
      exact Nat.mod_le _ _
    exact added.trans (Nat.add_le_add_right tallied.publishFailures 1)
  · intro small
    obtain ⟨readings, resolves, rejected, _⟩ := tallied.bounded small
    exact ⟨readings, resolves, rejected, ((tallied.bounded small).failed small).2⟩
  · intro small earlier platform member
    obtain ⟨first, samples⟩ := tallied.later small earlier platform member
    have added := ((tallied.bounded small).failed small).1
    exact ⟨first, {
      samples with publishFailures := BitVec.le_trans samples.publishFailures added }⟩

theorem Tallied.weaken (tallied : Tallied 0 counters watch) : Tallied 1 counters watch :=
  { tallied with
    publishFailures := tallied.publishFailures.trans (Nat.le_succ _)
    bounded := fun small => {
      tallied.bounded small with
      publishFailures := Nat.lt_succ_of_lt (tallied.bounded small).publishFailures } }

theorem InSession.quiet (started : InSession slack counters watch) (quiet : Quiet watch later) :
    InSession slack counters later :=
  ⟨quiet.phase.trans started.1, by rw [quiet.lines, started.2.1], started.2.2.moved quiet.toMoved⟩

theorem InSession.steps (started : InSession slack counters watch) (steps : Steps counters counters')
    (quiet : Quiet watch later) (more : watch.calls < later.calls) : InSession slack counters' later :=
  ⟨quiet.phase.trans started.1, by rw [quiet.lines, started.2.1], started.2.2.steps steps quiet more⟩

theorem watches_takeReading (name : List UInt8) (nowMS : Nat) (started : InSession 0 counters watch) :
    sensorNode.Watches (takeReading wire name nowMS counters) (fun result => InSession 0 result.2) watch := by
  have taken : Steps counters { counters with readings := counters.readings + 1 } :=
    { Steps.refl counters with readings := .inr rfl }
  apply (watches_nowUS started.1).bind
  intro start first quiet
  obtain ⟨quiet, more⟩ := quiet
  cases encodeSensorObjectPayload wire name
      (some (counters.readings + 1, ((counters.readings + 1).toNat % 100 : Nat))) with
  | none => exact started.steps taken quiet more
  | some payload =>
      apply (watches_sendSensorOperation (quiet.phase.trans started.1) _ _).bind
      intro sent second quiet'
      have still := quiet.trans quiet'
      have more : watch.calls < second.calls := Nat.lt_of_lt_of_le more quiet'.calls
      cases sent with
      | false => exact started.steps taken still more
      | true =>
          apply (watches_noteReading (still.phase.trans started.1) _ _).bind
          intro noted third timed
          obtain ⟨quiet, elapsed, rfl⟩ := timed
          have noted : Steps counters { counters with
              readings := counters.readings + 1
              readingLastUs := elapsed
              readingMaxUs := maxUs counters.readingMaxUs elapsed } :=
            { taken with
              reading := fun _ => le_maxUs_right _ _
              readingMaxUs := le_maxUs_left _ _ }
          have still := still.trans quiet
          have more : watch.calls < third.calls := Nat.lt_of_lt_of_le more quiet.calls
          have done := started.steps noted still more
          have latest : third.calls < 2 ^ 32 → ∀ earlier platform,
              Line.metrics earlier platform ∈ third.lines → earlier.readings < counters.readings + 1 := by
            intro small earlier platform member
            rw [still.lines] at member
            have before := (started.2.2.later (by omega) earlier platform member).1
            have bound := (started.2.2.bounded (by omega)).readings
            rw [BitVec.le_def] at before
            rw [BitVec.lt_def, BitVec.toNat_add]
            simp
            omega
          split
          · apply (watches_logSensorNodeMetrics done latest).bind
            intro _ last logged
            exact logged
          · exact done

/-- A round that goes on counts no failure more than the lines show, one that ends at most one. -/
def RoundEnd (result : Serving ⊕ Counters) (watch : Watch) : Prop :=
  result.elim (fun serving => InSession 0 serving.counters watch) (InSession 1 · watch)

theorem InSession.weaken (started : InSession 0 counters watch) : InSession 1 counters watch :=
  ⟨started.1, started.2.1, started.2.2.weaken⟩

theorem InSession.failed (started : InSession 0 counters watch) : InSession 1 counters.failed watch :=
  ⟨started.1, started.2.1, started.2.2.failed⟩

theorem watches_pollCarrier (name : List UInt8) (nowMS : Nat) (serving : Serving)
    (started : InSession 0 serving.counters watch) :
    sensorNode.Watches (pollCarrier wire name nowMS serving) RoundEnd watch := by
  apply watches_quiet (.pollOneEvent _ _) ⟨rfl, fun _ _ => rfl⟩ started.1
  intro polled later quiet more
  have started := started.quiet quiet
  cases polled with
  | none => exact started.weaken
  | some polled =>
      cases polled with
      | closed => exact started.weaken
      | noEvent =>
          apply watches_quiet (.delay idleTicks) ⟨rfl, fun _ _ => rfl⟩ (.inl ⟨started.1, rfl⟩)
          intro answer last quiet' more'
          exact started.quiet quiet'
      | event topic payload =>
          apply (watches_serveSensorFrame started.1 name topic payload nowMS serving.counters).bind
          intro result last served
          obtain ⟨quiet', more', steps⟩ := served
          have started := started.steps steps quiet' more'
          obtain ⟨served, counters⟩ := result
          cases served with
          | true => exact started
          | false => exact started.failed

theorem watches_serveOnce (name : List UInt8) (serving : Serving)
    (started : InSession 0 serving.counters watch) :
    sensorNode.Watches (serveOnce wire name serving) RoundEnd watch := by
  apply (watches_nowMS started.1).bind
  intro nowMS first quiet
  have started := started.quiet quiet.1
  split
  · apply (watches_takeReading name nowMS started).bind
    intro result second taken
    obtain ⟨published, counters⟩ := result
    cases published with
    | true => exact watches_pollCarrier name nowMS ⟨counters, nowMS + readingPeriodMS⟩ taken
    | false => exact taken.failed
  · exact watches_pollCarrier name nowMS serving started

end AxolotyEmbedded.SensorNode
