import AxolotyEmbedded.SensorNode.Watch

/-!
Every run of the sensor node keeps to the order of the calls and to the console, from the sessions
to the restart after the last of them.
-/
namespace AxolotyEmbedded.SensorNode

open Monitor

variable {wire : Wire} {watch later : Watch} {slack : Nat} {counters counters' : Counters}

/-! ## Sessions -/

/-- Between sessions. -/
structure Between (counters : Counters) (watch : Watch) : Prop where
  phase : watch.phase = .idle
  closed : isOpen watch.lines = false
  tallied : Tallied 0 counters watch

theorem watches_serve (rounds : Nat) (name : List UInt8) (serving : watch.phase = .subscribed)
    (closed : isOpen watch.lines = false) (tallied : Tallied 0 counters watch) :
    sensorNode.Watches (serve wire rounds name counters)
      (fun result after => ∀ counters, result = some counters → InSession 1 counters after) watch := by
  apply watches_call
  intro answer
  refine ⟨⟨serving, tallied.running, closed⟩, ?_⟩
  have started : InSession 0 counters (watch.next ⟨.writeLog .advertised, answer⟩) :=
    ⟨serving, isOpen_advertised _, tallied.advertised⟩
  apply (watches_nowMS started.1).bind
  intro nowMS later quiet
  exact watches_loop (fun serving watch => InSession 0 serving.counters watch)
    (fun serving watch => watches_serveOnce name serving) rounds (started.quiet quiet.1)

/-- What bring-up leaves for the serve loop and for the teardown. -/
structure Brought (before : Watch) (session : BroughtUp) (after : Watch) : Prop
    extends Moved before after where
  serving : session.stage = .serving → after.phase = .subscribed ∧ session.connected = true
  phase : if session.connected then after.phase = .connected ∨ after.phase = .subscribed
    else after.phase = .closing ∨ after.phase = .prepared

theorem watches_configureSensorLastWill (prepared : watch.phase = .prepared) :
    sensorNode.Watches (configureSensorLastWill wire) (fun _ => Quiet watch) watch := by
  apply watches_quiet .supportsLastWill ⟨rfl, fun _ _ => rfl⟩ prepared
  intro supported later quiet more
  split
  · split
    · next topic payload _ _ =>
        apply watches_quiet (.configureLastWill topic payload) ⟨rfl, fun _ _ => rfl⟩
          (quiet.phase.trans prepared)
        intro answer last quiet' more'
        exact quiet.trans quiet'
    · exact quiet
  · exact quiet

theorem watches_advertise (name : List UInt8) (serving : watch.phase = .subscribed) :
    sensorNode.Watches (advertise wire name) (fun _ => Quiet watch) watch := by
  unfold advertise
  split
  · exact Quiet.refl watch
  · next payload _ =>
      apply (watches_nowMS serving).bind
      intro nowMS later quiet
      apply (watches_sendSensorOperation (quiet.1.phase.trans serving) _ _).mono
      intro sent last quiet'
      exact quiet.1.trans quiet'

theorem watches_joinNetwork (name : List UInt8) (connected : watch.phase = .connected) :
    sensorNode.Watches (joinNetwork wire name) (Brought watch) watch := by
  apply watches_call
  intro answer
  refine ⟨connected, ?_⟩
  have moved := moved_next (.subscribe (sensorNodeDiscoverInterest wire) bringUpDeadlineMS)
    rfl answer watch
  cases answer with
  | none => exact ⟨moved, fun same => (by cases same), .inl connected⟩
  | some answer =>
      apply (watches_advertise name rfl).bind
      intro advertised later quiet
      have moved := moved.trans quiet.toMoved
      cases advertised with
      | true => exact ⟨moved, fun _ => ⟨quiet.phase, rfl⟩, .inr quiet.phase⟩
      | false => exact ⟨moved, fun same => (by cases same), .inr quiet.phase⟩

theorem watches_bringUp (name : List UInt8) (started : watch.phase = .started) :
    sensorNode.Watches (bringUp wire name) (Brought watch) watch := by
  apply watches_call
  intro network
  refine ⟨started, ?_⟩
  have moved := moved_next (.prepareNetwork bringUpDeadlineMS) rfl network watch
  have phase : (watch.next ⟨.prepareNetwork bringUpDeadlineMS, network⟩).phase =
      if isUp network then .prepared else .closing := rfl
  split
  · next up =>
      rw [isUp, if_pos up] at phase
      apply (watches_configureSensorLastWill phase).bind
      intro configured first quiet
      have moved := moved.trans quiet.toMoved
      have prepared := quiet.phase.trans phase
      cases configured with
      | false => exact ⟨moved, fun same => (by cases same), .inr prepared⟩
      | true =>
          apply watches_call
          intro answer
          refine ⟨prepared, ?_⟩
          have moved := moved.trans (moved_next (.connect bringUpDeadlineMS) rfl answer first)
          cases answer with
          | none => exact ⟨moved, fun same => (by cases same), .inl rfl⟩
          | some answer =>
              apply (watches_joinNetwork name rfl).mono
              intro session last brought
              exact { brought with toMoved := moved.trans brought.toMoved }
  · next down =>
      rw [isUp, if_neg down] at phase
      exact ⟨moved, fun same => (by cases same), .inl phase⟩

/-- What a teardown leaves. -/
structure TornDown (stage : Stage) (before after : Watch) : Prop where
  phase : after.phase = .idle
  lines : after.lines = before.lines ++ [.ended stage]
  calls : before.calls < after.calls

theorem watches_tearDown {session : BroughtUp} (running : stopped watch.lines = false)
    (stage : session.stage = .serving ↔ isOpen watch.lines = true)
    (phase : if session.connected then watch.phase = .connected ∨ watch.phase = .subscribed
      else watch.phase = .closing ∨ watch.phase = .prepared) :
    sensorNode.Watches (tearDown session) (fun _ => TornDown session.stage watch) watch := by
  have ending (closing : Watch) (moved : Moved watch closing)
      (allowed : closing.phase = .closing ∨ closing.phase = .prepared) :
      sensorNode.Watches (do
        let _ ← ask .cleanupNetwork
        sensorNodeLog (.ended session.stage)) (fun _ => TornDown session.stage watch) closing := by
    apply watches_call
    intro bits
    refine ⟨allowed, ?_⟩
    have moved := moved.trans (moved_next .cleanupNetwork rfl bits closing)
    apply watches_call
    intro answer
    refine ⟨⟨rfl, ?_⟩, rfl, ?_, ?_⟩
    · constructor
      · change stopped (closing.next ⟨.cleanupNetwork, bits⟩).lines = false
        rw [moved.lines]
        exact running
      · change session.stage = .serving ↔ isOpen (closing.next ⟨.cleanupNetwork, bits⟩).lines = true
        rw [moved.lines]
        exact stage
    · exact congrArg (· ++ _) moved.lines
    · exact Nat.lt_succ_of_le moved.calls
  unfold tearDown
  split at phase
  · next connected =>
      rw [if_pos connected]
      apply watches_call
      intro answer
      exact ⟨phase, ending _ (moved_next .disconnect rfl answer watch) (.inl rfl)⟩
  · next apart =>
      rw [if_neg apart]
      exact ending watch ⟨rfl, Nat.le_refl _⟩ phase


/-! ## Runs -/

theorem failedRun_ended (lines : List Line) (stage : Stage) :
    failedRun (lines ++ [.ended stage]) = if stage = .serving then 0 else failedRun lines + 1 := by
  rw [failedRun, List.reverse_append, List.reverse_singleton, List.singleton_append]
  split
  · next serving =>
      rw [List.takeWhile_cons_of_neg (by simp [Line.isFailed, serving])]
      rfl
  · next other =>
      rw [List.takeWhile_cons_of_pos (by simp [Line.isFailed, other])]
      rfl

/-- The session that has ended is counted. -/
theorem Tallied.ended (tallied : Tallied 1 counters watch) {stage : Stage}
    (down : TornDown stage watch later) :
    Tallied 0 { counters with sessions := counters.sessions + 1 } later := by
  have count : endedCount later.lines = endedCount watch.lines + 1 := by
    rw [down.lines]
    simp [endedCount, Line.isEnded]
  refine ⟨?_, ?_, ?_, tallied.reading, tallied.frame, ?_, ?_⟩
  · rw [down.lines, stopped, List.any_append]
    exact (Bool.or_false _).trans tallied.running
  · rw [count]
    change counters.sessions + 1 = _
    rw [tallied.sessions, BitVec.ofNat_add]
    rfl
  · rw [count]
    exact tallied.publishFailures
  · intro small
    have more := down.calls
    obtain ⟨readings, resolves, rejected, failures⟩ := tallied.bounded (by omega)
    exact ⟨readings.trans more.le, resolves.trans more.le, rejected.trans more.le, by
      change counters.publishFailures.toNat < later.calls + 0
      omega⟩
  · intro small earlier platform member
    rw [down.lines, List.mem_append, List.mem_singleton] at member
    cases member with
    | inl before =>
        obtain ⟨first, samples⟩ :=
          tallied.later (by have := down.calls; omega) earlier platform before
        exact ⟨first, { samples with }⟩
    | inr other => cases other

/-- What a session leaves. -/
structure SessionEnd (before : Watch) (reached : Bool) (counters : Counters) (after : Watch) : Prop where
  between : Between { counters with sessions := counters.sessions + 1 } after
  failures : failedRun after.lines = if reached then 0 else failedRun before.lines + 1

theorem watches_runSensorNodeSession (rounds : Nat) (between : Between counters watch) :
    sensorNode.Watches (runSensorNodeSession wire rounds counters)
      (fun result after => ∀ reached counters, result = some (reached, counters) →
        SessionEnd watch reached counters after) watch := by
  apply watches_call
  intro reset
  refine ⟨⟨between.phase, between.tallied.running⟩, ?_⟩
  have moved := moved_next .resetTransport rfl reset watch
  have started : (watch.next ⟨.resetTransport, reset⟩).phase = .started := rfl
  apply watches_quiet (.copyDeviceDisplayName nameCapacity) ⟨rfl, fun _ _ => rfl⟩ started
  intro name first quiet more
  have moved := moved.trans quiet.toMoved
  apply (watches_bringUp _ quiet.phase).bind
  intro session second brought
  have moved := moved.trans brought.toMoved
  have closed : isOpen second.lines = false := by
    rw [moved.lines, between.closed]
  have tallied := between.tallied.moved moved
  split
  · next serving =>
      apply (watches_serve rounds _ (brought.serving serving).1 closed tallied).bind
      intro served third met
      cases served with
      | none =>
          intro reached counters none
          cases none
      | some counters =>
          obtain ⟨subscribed, opened, tallied⟩ := met counters rfl
          have phase : if session.connected then third.phase = .connected ∨ third.phase = .subscribed
              else third.phase = .closing ∨ third.phase = .prepared := by
            rw [if_pos (brought.serving serving).2]
            exact .inr subscribed
          apply (watches_tearDown tallied.running (by simp [serving, opened]) phase).bind
          intro done last down reached same found
          cases found
          refine ⟨⟨down.phase, ?_, tallied.ended down⟩, ?_⟩
          · rw [down.lines, isOpen_ended]
          · rw [down.lines, failedRun_ended, if_pos serving]
            rfl
  · next other =>
      apply (watches_tearDown tallied.running (by simp [other, closed]) brought.phase).bind
      intro done last down reached same found
      cases found
      refine ⟨⟨down.phase, ?_, tallied.weaken.ended down⟩, ?_⟩
      · rw [down.lines, isOpen_ended]
      · rw [down.lines, failedRun_ended, if_neg other, moved.lines]
        rfl

/-- What a pass of the application starts from. -/
structure Passing (running : Running) (watch : Watch) : Prop where
  between : Between running.counters watch
  failures : failedRun watch.lines = running.failedSessions

theorem watches_runOnce (rounds : Nat) {running : Running} (passing : Passing running watch)
    (few : running.failedSessions < maximumFailedSessions) :
    sensorNode.Watches (runOnce wire rounds running)
      (fun result after => result.elim
        (fun running => Passing running after ∧ running.failedSessions < maximumFailedSessions)
        fun _ => True) watch := by
  apply (watches_runSensorNodeSession rounds passing.between).bind
  intro session later met
  cases session with
  | none => exact trivial
  | some session =>
      obtain ⟨reached, counters⟩ := session
      obtain ⟨between, failures⟩ := met reached counters rfl
      rw [passing.failures] at failures
      have most : (if reached = true then 0 else running.failedSessions + 1) ≤ maximumFailedSessions := by
        cases reached with
        | true => exact Nat.zero_le _
        | false => exact few
      dsimp only
      generalize (if reached = true then 0 else running.failedSessions + 1) = failed at failures most
      split
      · next again =>
          apply watches_quiet (.delay _) ⟨rfl, fun _ _ => rfl⟩
            (.inr ⟨between.phase, between.tallied.running, congrArg backoffTicks failures.symm⟩)
          intro answer last quiet more
          refine ⟨⟨⟨quiet.phase.trans between.phase, ?_, between.tallied.moved quiet.toMoved⟩, ?_⟩, again⟩
          · rw [quiet.lines, between.closed]
          · rw [quiet.lines, failures]
      · next stop =>
          have ten : failedRun later.lines = maximumFailedSessions := by
            rw [failures]
            exact Nat.le_antisymm most (Nat.not_lt.mp stop)
          apply watches_call
          intro written
          refine ⟨⟨between.phase, between.tallied.running, ten, between.closed⟩, ?_⟩
          apply watches_call
          intro answer
          exact ⟨by simp [sensorNode, Watch.Allows, Watch.next, Call.lines], trivial⟩

theorem watches_run (sessions rounds : Nat) :
    sensorNode.Watches (run wire sessions rounds) (fun _ _ => True) .start := by
  have fresh : Watch.start.Allows .isNetworkConfigured := rfl
  apply watches_quiet .isNetworkConfigured ⟨rfl, fun _ _ => rfl⟩ fresh
  intro configured later quiet more
  have lines : later.lines = [] := quiet.lines
  split
  · have between : Between .zero later := by
      refine ⟨quiet.phase, by rw [lines]; rfl, ?_, ?_, ?_, BitVec.le_refl _, BitVec.le_refl _, ?_, ?_⟩
      · rw [lines]
        rfl
      · rw [lines]
        rfl
      · exact Nat.zero_le _
      · intro small
        exact ⟨Nat.zero_le _, Nat.zero_le _, Nat.zero_le _, more⟩
      · intro small earlier platform member
        rw [lines] at member
        cases member
    apply (watches_loop (fun running watch =>
      Passing running watch ∧ running.failedSessions < maximumFailedSessions)
      (fun running watch both => watches_runOnce rounds both.1 both.2) sessions
      ⟨⟨between, by rw [lines]; rfl⟩, by decide⟩).mono
    intro ending last met
    trivial
  · apply watches_call
    intro written
    exact ⟨⟨quiet.phase, by rw [lines]; rfl, lines⟩, trivial⟩

/-! ## The console of a run -/

/-- The lines of some exchanges. -/
def linesOf (exchanges : List (Exchange Call.Answer)) : List Line := exchanges.flatMap (·.1.lines)

/-- Each line may come when it comes. -/
def Lawful (lines : List Line) : Prop :=
  ∀ before line rest, lines = before ++ line :: rest → ∃ calls < 2 ^ 32, Follows before calls line

theorem Call.lines_cases (made : Call) : made.lines = [] ∨ ∃ line, made = .writeLog line := by
  cases made with
  | writeLog line => exact .inr ⟨line, rfl⟩
  | _ => exact .inl rfl

theorem follows_of_accepts {exchanges : List (Exchange Call.Answer)}
    (accepts : sensorNode.Accepts watch exchanges) {before rest : List Line} {line : Line}
    (split : linesOf exchanges = before ++ line :: rest) :
    ∃ calls < watch.calls + exchanges.length, Follows (watch.lines ++ before) calls line := by
  induction exchanges generalizing watch before with
  | nil => simp [linesOf] at split
  | cons exchange later ih =>
      obtain ⟨allowed, accepts⟩ := accepts
      have next : linesOf (exchange :: later) = exchange.1.lines ++ linesOf later := rfl
      have stepped : (sensorNode.step watch exchange).lines = watch.lines ++ exchange.1.lines := rfl
      have counted : (sensorNode.step watch exchange).calls = watch.calls + 1 := rfl
      rw [next] at split
      cases exchange.1.lines_cases with
      | inl silent =>
          rw [silent, List.nil_append] at split
          obtain ⟨calls, bound, follows⟩ := ih accepts split
          rw [stepped, silent, List.append_nil] at follows
          exact ⟨calls, by rw [counted] at bound; rw [List.length_cons]; omega, follows⟩
      | inr written =>
          obtain ⟨written, same⟩ := written
          have own : exchange.1.lines = [written] := by rw [same]; rfl
          rw [own, List.singleton_append] at split
          cases before with
          | nil =>
              obtain ⟨rfl, _⟩ := List.cons.inj split
              have allowed : watch.Allows exchange.1 := allowed
              rw [same] at allowed
              refine ⟨watch.calls, by rw [List.length_cons]; omega, ?_⟩
              rw [List.append_nil]
              exact allowed.2
          | cons first before =>
              obtain ⟨head, tail⟩ := List.cons.inj split
              obtain ⟨calls, bound, follows⟩ := ih accepts tail
              subst head
              rw [stepped, own, List.append_assoc, List.singleton_append] at follows
              exact ⟨calls, by rw [counted] at bound; rw [List.length_cons]; omega, follows⟩

/-- In every run of the sensor node, whatever its calls return, each call and each line may come
next when it comes. -/
theorem run_accepted (wire : Wire) (sessions rounds : Nat) (environment : Environment Call.Answer) :
    sensorNode.Accepts .start
      ((run wire sessions rounds).run (fun _ => ()) environment fun _ => 0).exchanges :=
  ((watches_run sessions rounds).run _ environment _).1

/-- The console of a run of fewer than 2^32 calls. -/
theorem lawful_of_accepts {exchanges : List (Exchange Call.Answer)}
    (accepts : sensorNode.Accepts .start exchanges) (few : exchanges.length < 2 ^ 32) :
    Lawful (linesOf exchanges) := by
  intro before line rest split
  obtain ⟨calls, bound, follows⟩ := follows_of_accepts accepts split
  refine ⟨calls, ?_, follows⟩
  have start : Watch.start.calls = 0 := rfl
  omega

theorem Lawful.of_isPrefix {lines lines' : List Line} (lawful : Lawful lines) (within : lines' <+: lines) :
    Lawful lines' := by
  intro before line rest split
  obtain ⟨tail, rfl⟩ := within
  apply lawful before line (rest ++ tail)
  rw [split, List.append_assoc, List.cons_append]

end AxolotyEmbedded.SensorNode
