import AxolotyEmbedded.SensorNode.Verdict

/-!
The host's verdict on a run across outages. The counters of the node, which it keeps from session to
session, never fail it: an outage fails when the node does not report it or does not come back.
-/
namespace AxolotyEmbedded.SensorNode

open Smoke (JsValue)

variable {received : List Received} {conversions : Conversions} {window : Window}

/-! ## Times -/

theorem receivedAt_stamp {line : Line} {at' : Int} (safe : at'.natAbs ≤ maximumSafe) :
    receivedAt (stamp line at') = some at' := by
  have field : (stamp line at').get "receivedAtMs" = number at' := by
    cases line <;> rfl
  rw [receivedAt, field]
  exact safeInteger_number safe

theorem time_received (arrived : Received) : time arrived.record = arrived.receivedAtMs := by
  rw [time, Received.record, receivedAt_stamp arrived.safe]
  rfl

theorem time_sample (sample : Sample) : time sample.record = sample.receivedAtMs := by
  rw [time, Sample.record, receivedAt_stamp sample.safe]
  rfl

/-- Before the next outage starts. -/
def Window.before (window : Window) (at' : Int) : Bool := window.limit.all (at' < ·)

/-- Before, and not before the outage starts. -/
def Window.during (window : Window) (at' : Int) : Bool := window.startMs ≤ at' && window.before at'

theorem isBelow_received (arrived : Received) :
    window.isBelow arrived.record = window.before arrived.receivedAtMs := by
  rw [Window.isBelow, time_received]
  rfl

theorem isBelow_sample (sample : Sample) :
    window.isBelow sample.record = window.before sample.receivedAtMs := by
  rw [Window.isBelow, time_sample]
  rfl

/-! ## Outages -/

def Window.isReadvertised (window : Window) (arrived : Received) : Bool :=
  arrived.line.isAdvertised && window.endMs ≤ arrived.receivedAtMs && window.before arrived.receivedAtMs

def Window.isAfter (window : Window) (advertised : Received) (sample : Sample) : Bool :=
  advertised.receivedAtMs < sample.receivedAtMs && window.before sample.receivedAtMs

/-- The node has come back after an Advertise. -/
structure Window.Returned (window : Window) (received : List Received) (advertised : Received) : Prop where
  samples : minimumRecoverySamples ≤ ((samplesIn received).filter (window.isAfter advertised)).length
  lasting : ∀ arrived ∈ received, arrived.line.isEnded = true →
    advertised.receivedAtMs ≤ arrived.receivedAtMs → window.before arrived.receivedAtMs = false

/-- The node has reported an outage and has come back from it. -/
structure Window.Recovered (window : Window) (received : List Received) : Prop where
  sampled : ∃ sample ∈ samplesIn received, sample.receivedAtMs < window.startMs
  reported : ∃ arrived ∈ received, arrived.line.isEnded = true ∧ window.during arrived.receivedAtMs = true
  returned : ∃ advertised, received.find? window.isReadvertised = some advertised ∧
    window.Returned received advertised

theorem readvertised_received : readvertised window (received.map Received.record) =
    (received.find? window.isReadvertised).map Received.record := by
  rw [readvertised, List.find?_map]
  congr 2
  funext arrived
  rw [Function.comp_apply, isBelow_received, time_received, Received.record, isEvent_advertised]
  rfl

theorem samplesBefore_samples (samples : List Sample) : samplesBefore window (samples.map Sample.record) =
    (samples.filter fun sample => sample.receivedAtMs < window.startMs).map Sample.record := by
  rw [samplesBefore, List.filter_map]
  congr 2
  funext sample
  rw [Function.comp_apply, time_sample]

theorem samplesAfter_samples (samples : List Sample) (advertised : Received) :
    samplesAfter window (samples.map Sample.record) advertised.record =
      (samples.filter (window.isAfter advertised)).map Sample.record := by
  rw [samplesAfter, List.filter_map]
  congr 2
  funext sample
  rw [Function.comp_apply, time_sample, time_received, isBelow_sample]
  rfl

section Console

variable (lawful : Lawful (received.map Received.line)) (few : received.length < 2 ^ 32)
  (clock : received.Pairwise fun earlier later => earlier.receivedAtMs ≤ later.receivedAtMs)

include lawful few clock in
/-- A sample counts a session that has ended before it. -/
theorem sessions_pos {sample : Sample} (member : sample ∈ samplesIn received) {arrived : Received}
    (within : arrived ∈ received) (ended : arrived.line.isEnded = true)
    (earlier : arrived.receivedAtMs < sample.receivedAtMs) : 0 < sample.counters.sessions.toNat := by
  obtain ⟨before, own, rest, calls, split, same, follows⟩ := sample_split lawful member
  have sessions := follows.fits.2.1.sessions
  have most : endedCount (before.map Received.line) < 2 ^ 32 := by
    calc endedCount (before.map Received.line)
        ≤ (before.map Received.line).length := List.countP_le_length
      _ = before.length := List.length_map _
      _ ≤ received.length := by
          rw [split, List.length_append]
          exact Nat.le_add_right _ _
      _ < 2 ^ 32 := few
  have first : arrived ∈ before := by
    rw [split, List.mem_append] at within
    cases within with
    | inl first => exact first
    | inr later =>
        rw [split] at clock
        have ordered := List.pairwise_cons.mp (List.pairwise_append.mp clock).2.1
        cases later with
        | head => omega
        | tail _ later =>
            have after := ordered.1 arrived later
            omega
  have counted : 0 < endedCount (before.map Received.line) := by
    rw [endedCount, List.countP_pos_iff]
    exact ⟨arrived.line, List.mem_map_of_mem first, ended⟩
  rw [sessions, BitVec.toNat_ofNat, Nat.mod_eq_of_lt most]
  exact counted

include lawful clock in
/-- The readings of a later sample are more. -/
theorem readings_lt {sample sample' : Sample} (member : sample ∈ samplesIn received)
    (member' : sample' ∈ samplesIn received) (earlier : sample.receivedAtMs < sample'.receivedAtMs) :
    sample.counters.readings < sample'.counters.readings := by
  have ordered := samples_pairwise lawful
  have times : (samplesIn received).Pairwise fun earlier later =>
      earlier.receivedAtMs ≤ later.receivedAtMs := by
    apply clock.filterMap Received.sample
    intro first second before sample found sample' found'
    rw [← (sample_eq_some found).2, ← (sample_eq_some found').2]
    exact before
  obtain ⟨first, rest, split⟩ := List.append_of_mem member'
  rw [split] at ordered times member
  rw [List.mem_append, List.mem_cons] at member
  rcases member with before | rfl | after
  · exact ((List.pairwise_append.mp ordered).2.2 sample before sample' List.mem_cons_self).1
  · omega
  · have later := (List.pairwise_cons.mp (List.pairwise_append.mp times).2.1).1 sample after
    omega

theorem readingsFailures_eq_nil {before after : List Sample}
    (grow : ∀ last ∈ before, ∀ first ∈ after, last.counters.readings < first.counters.readings) :
    readingsFailures conversions window (before.map Sample.record) (after.map Sample.record) = [] := by
  rw [readingsFailures, List.head?_map, List.getLast?_map]
  cases next : after.head? with
  | none => rfl
  | some first =>
      cases final : before.getLast? with
      | none => rfl
      | some last =>
          have less := grow last (List.mem_of_getLast? final) first (List.mem_of_head? next)
          have advanced : isAtMost conversions (first.record.get "readings") (last.record.get "readings") =
              decide ((first.counters.readings.toNat : Int) ≤ last.counters.readings.toNat) :=
            isAtMost_number _ _
          change failIf (isAtMost conversions (first.record.get "readings") (last.record.get "readings")) _ =
            []
          rw [advanced, failIf_eq_nil, decide_eq_false_iff_not, Int.not_le, Int.ofNat_lt]
          exact less

theorem sessionsFailures_eq_nil {after : List Sample}
    (counted : ∀ sample ∈ after, 0 < sample.counters.sessions.toNat) :
    sessionsFailures conversions window (after.map Sample.record) = [] := by
  rw [sessionsFailures, List.getLast?_map]
  cases final : after.getLast? with
  | none => rfl
  | some last =>
      have enough := counted last (List.mem_of_getLast? final)
      have grown : isAtLeast conversions (last.record.get "sessions") (number 1) =
          decide ((1 : Int) ≤ last.counters.sessions.toNat) := isAtLeast_number _ _
      change failIf (!isAtLeast conversions (last.record.get "sessions") (number 1)) _ = []
      rw [grown, failIf_eq_nil, Bool.not_eq_false', decide_eq_true_eq]
      omega

include lawful few clock in
/-- The node has come back, or it is said why not. -/
theorem readvertisedFailures_eq_nil (positive : window.startMs < window.endMs) {advertised : Received}
    (found : received.find? window.isReadvertised = some advertised)
    (reported : ∃ arrived ∈ received, arrived.line.isEnded = true ∧
      window.during arrived.receivedAtMs = true) :
    readvertisedFailures conversions window ((samplesIn received).map Sample.record)
        ((received.filter fun arrived => arrived.line.isEnded).map Received.record) advertised.record = [] ↔
      window.Returned received advertised := by
  have lasting : (((received.filter fun arrived => arrived.line.isEnded).map Received.record).any
      fun record => time advertised.record ≤ time record && window.isBelow record) = false ↔
        ∀ arrived ∈ received, arrived.line.isEnded = true →
          advertised.receivedAtMs ≤ arrived.receivedAtMs → window.before arrived.receivedAtMs = false := by
    simp [List.any_eq_false, time_received, isBelow_received]
  unfold readvertisedFailures
  rw [List.append_eq_nil_iff, List.append_eq_nil_iff, failIf_eq_nil, lasting, samplesBefore_samples,
    samplesAfter_samples, List.length_map]
  constructor
  · intro ⟨⟨enough, _⟩, lasting⟩
    refine ⟨?_, lasting⟩
    split at enough
    · cases enough
    · next more => exact Nat.not_lt.mp more
  · intro ⟨enough, lasting⟩
    have back : window.endMs ≤ advertised.receivedAtMs := by
      have advertises := List.find?_some found
      simp [Window.isReadvertised] at advertises
      exact advertises.1.2
    refine ⟨⟨?_, ?_⟩, lasting⟩
    · rw [if_neg (Nat.not_lt.mpr enough)]
      apply readingsFailures_eq_nil
      intro last before first after
      obtain ⟨member, early⟩ := List.mem_filter.mp before
      obtain ⟨member', late⟩ := List.mem_filter.mp after
      apply readings_lt lawful clock member member'
      simp [Window.isAfter] at early late
      omega
    · apply sessionsFailures_eq_nil
      intro sample after
      obtain ⟨member, late⟩ := List.mem_filter.mp after
      obtain ⟨arrived, within, ended, during⟩ := reported
      apply sessions_pos lawful few clock member within ended
      have apart := lasting arrived within ended
      simp [Window.isAfter, Window.during] at late during apart
      by_contra other
      rw [apart (by omega)] at during
      cases during.2

include lawful few clock in
theorem windowFailures_eq_nil (positive : window.startMs < window.endMs) :
    windowFailures conversions window (received.map Received.record)
        ((samplesIn received).map Sample.record)
        ((received.filter fun arrived => arrived.line.isEnded).map Received.record) = [] ↔
      window.Recovered received := by
  have reports : (((received.filter fun arrived => arrived.line.isEnded).map Received.record).find?
      window.holds).isNone = false ↔
        ∃ arrived ∈ received, arrived.line.isEnded = true ∧ window.during arrived.receivedAtMs = true := by
    rw [← Bool.not_eq_true, Option.isNone_iff_eq_none, List.find?_eq_none]
    simp [Window.holds, Window.during, time_received, isBelow_received, and_assoc]
  have sampled : (samplesBefore window ((samplesIn received).map Sample.record)).isEmpty = false ↔
      ∃ sample ∈ samplesIn received, sample.receivedAtMs < window.startMs := by
    rw [samplesBefore_samples, List.isEmpty_map, ← Bool.not_eq_true, List.isEmpty_iff,
      List.filter_eq_nil_iff]
    simp
  unfold windowFailures
  rw [List.append_eq_nil_iff, List.append_eq_nil_iff, List.append_eq_nil_iff, failIf_eq_nil, failIf_eq_nil,
    failIf_eq_nil, reports, sampled, readvertised_received]
  cases found : received.find? window.isReadvertised with
  | none =>
      constructor
      · intro ⟨⟨⟨_, missing⟩, _⟩, _⟩
        cases missing
      · intro recovered
        obtain ⟨advertised, found', _⟩ := recovered.returned
        cases found.symm.trans found'
  | some advertised =>
      constructor
      · intro ⟨⟨⟨reported, _⟩, sampled⟩, returned⟩
        exact ⟨sampled, reported, advertised, found,
          (readvertisedFailures_eq_nil lawful few clock positive found reported).mp returned⟩
      · intro recovered
        obtain ⟨other, found', returned⟩ := recovered.returned
        obtain rfl := Option.some.inj (found.symm.trans found')
        exact ⟨⟨⟨recovered.reported, rfl⟩, recovered.sampled⟩,
          (readvertisedFailures_eq_nil lawful few clock positive found recovered.reported).mpr returned⟩

end Console

/-! ## Verdicts -/

theorem mem_windowsFrom {several : Bool} {index : Nat} {outages : List Outage}
    (member : window ∈ windowsFrom several index outages) : window.toOutage ∈ outages := by
  induction outages generalizing index with
  | nil => cases member
  | cons outage rest ih =>
      rw [windowsFrom] at member
      cases member with
      | head => exact List.mem_cons_self
      | tail _ later => exact List.mem_cons_of_mem _ (ih later)

theorem readOutage_positive {given : JsValue} {outage : Outage} (read : readOutage given = some outage) :
    outage.startMs < outage.endMs := by
  simp only [readOutage, Option.bind_eq_bind, Option.bind_eq_some_iff] at read
  obtain ⟨startMs, _, endMs, _, read⟩ := read
  split at read
  · next positive =>
      cases read
      exact positive
  · cases read

theorem mapM_readOutage_positive {listed : List JsValue} {outages : List Outage}
    (read : listed.mapM readOutage = some outages) : ∀ outage ∈ outages, outage.startMs < outage.endMs := by
  induction listed generalizing outages with
  | nil =>
      cases read
      simp
  | cons first rest ih =>
      rw [List.mapM_cons] at read
      simp only [Option.bind_eq_bind, Option.bind_eq_some_iff] at read
      obtain ⟨outage, own, later, others, made⟩ := read
      cases made
      rw [List.forall_mem_cons]
      exact ⟨readOutage_positive own, ih others⟩

/-- A valid outage starts before it ends. -/
theorem readOutages_positive {given : Option (List JsValue)} {outages : List Outage}
    (read : readOutages given = some outages) : ∀ outage ∈ outages, outage.startMs < outage.endMs := by
  simp only [readOutages, Option.bind_eq_bind, Option.bind_eq_some_iff] at read
  obtain ⟨listed, _, others, each, valid⟩ := read
  split at valid
  · cases valid
    exact mapM_readOutage_positive each
  · cases valid

/-- The outages of a run are valid, no session ended before the first of them, and the node came
back from each. -/
def RecoveredFrom (received : List Received) (given : Option (List JsValue)) : Prop :=
  ∃ outages, readOutages given = some outages ∧
    (∀ first ∈ outages.head?, ∀ arrived ∈ received, arrived.line.isEnded = true →
      first.startMs ≤ arrived.receivedAtMs) ∧
    ∀ window ∈ windowsOf outages, window.Recovered received

/-- The outages of a run fail it when there are none, when a session ended before them, or when the
node did not come back from one. -/
theorem judgeRecovery_eq_nil (lawful : Lawful (received.map Received.line)) (few : received.length < 2 ^ 32)
    (clock : received.Pairwise fun earlier later => earlier.receivedAtMs ≤ later.receivedAtMs)
    (given : Option (List JsValue)) :
    (judgeRecovery conversions (received.map Received.record) given).1 = [] ↔
      RecoveredFrom received given := by
  have timed : ((received.map Received.record).all fun record => (receivedAt record).isSome) = true := by
    rw [List.all_map, List.all_eq_true]
    intro arrived member
    rw [Function.comp_apply, Received.record, receivedAt_stamp arrived.safe]
    rfl
  rw [judgeRecovery, samplesOf_received, endedOf_received]
  cases read : readOutages given with
  | none =>
      constructor
      · intro silent
        cases silent
      · intro ⟨outages, read', _⟩
        rw [read] at read'
        cases read'
  | some outages =>
      have early : ((received.filter fun arrived => arrived.line.isEnded).map Received.record).any
          (fun record => outages.head?.any (time record < ·.startMs)) = false ↔
            ∀ first ∈ outages.head?, ∀ arrived ∈ received, arrived.line.isEnded = true →
              first.startMs ≤ arrived.receivedAtMs := by
        cases outages.head? with
        | none => simp
        | some first => simp [time_received]
      have windows : ((windowsOf outages).flatMap fun window =>
          windowFailures conversions window (received.map Received.record)
            ((samplesIn received).map Sample.record)
            ((received.filter fun arrived => arrived.line.isEnded).map Received.record)) = [] ↔
              ∀ window ∈ windowsOf outages, window.Recovered received := by
        rw [List.flatMap_eq_nil_iff]
        apply forall₂_congr
        intro window member
        apply windowFailures_eq_nil lawful few clock
        exact readOutages_positive read _ (mem_windowsFrom member)
      simp only [timed, if_true, List.append_eq_nil_iff, failIf_eq_nil]
      rw [early, windows]
      constructor
      · intro ⟨before, recovered⟩
        exact ⟨outages, read, before, recovered⟩
      · intro ⟨others, read', before, recovered⟩
        obtain rfl := Option.some.inj (read.symm.trans read')
        exact ⟨before, recovered⟩

/-- What a host received of a run passes in recovery mode if and only if the node did not restart,
its samples are as in normal mode, and it came back from each outage. -/
theorem recovery_verdict (wire : Wire) (sessions rounds : Nat) (environment : Environment Call.Answer)
    (few : (callsOf wire sessions rounds environment).length < 2 ^ 32) (received : List Received)
    (within : received.map Received.line <+: linesOf (callsOf wire sessions rounds environment))
    (clock : received.Pairwise fun earlier later => earlier.receivedAtMs ≤ later.receivedAtMs)
    (conversions : Conversions) (budgets : Option (List (Text × JsValue)))
    (outages : Option (List JsValue)) :
    (evaluateSensorRun conversions (received.map Received.record) budgets .recovery outages).passed = true ↔
      Steady received ∧ (∀ arrived ∈ received, arrived.line.isRestart = false) ∧
        FloorsHold (samplesIn received) budgets ∧ RecoveredFrom received outages := by
  obtain ⟨lawful, short⟩ := lawful_of_calls few within
  rw [evaluateSensorRun_passed lawful short, and_assoc, and_assoc]
  apply and_congr_right'
  apply and_congr_right'
  apply and_congr_right'
  exact judgeRecovery_eq_nil lawful short clock outages

/-- A carrier that is closed for a while. -/
def outageAnswer (index : Nat) : (made : Call) → made.Answer
  | .pollOneEvent .. => if 140 ≤ index ∧ index < 150 then some .closed else some (.event [] [])
  | made => steadyAnswer index made

def outageRun : List Received :=
  [⟨.advertised, 1500, by decide⟩, ⟨steadySample 0 5 4, 2500, by decide⟩,
    ⟨steadySample 0 10 9, 3500, by decide⟩, ⟨.ended .serving, 5000, by decide⟩,
    ⟨.advertised, 7000, by decide⟩, ⟨steadySample 1 15 13, 8000, by decide⟩,
    ⟨steadySample 1 20 18, 9000, by decide⟩]

theorem recovered_outageRun :
    RecoveredFrom outageRun
      (some [.obj [(text "startMs", .num (.finite 4000)), (text "endMs", .num (.finite 6000))]]) := by
  refine ⟨[⟨4000, 6000⟩], by rfl, by decide, ?_⟩
  intro window member
  rw [windowsOf, windowsFrom, windowsFrom, List.mem_singleton] at member
  subst member
  refine ⟨by decide, by decide, ⟨.advertised, 7000, by decide⟩, by rfl, by decide, by decide⟩

theorem recovery_verdict_outageRun :
    (evaluateSensorRun ⟨fun _ _ => none, fun _ => .nan⟩ (outageRun.map Received.record) none .recovery
      (some [.obj [(text "startMs", .num (.finite 4000)), (text "endMs", .num (.finite 6000))]])).passed =
        true := by
  apply (recovery_verdict plainWire 2 20 outageAnswer (by decide +kernel) outageRun (by decide +kernel)
    (by decide) _ _ _).mpr
  refine ⟨⟨by decide, by unfold Metrics.Sane; decide, by unfold Served; decide⟩, by decide, ?_,
    recovered_outageRun⟩
  intro floors given
  cases given

end AxolotyEmbedded.SensorNode
