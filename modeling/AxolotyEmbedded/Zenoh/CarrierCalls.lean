import AxolotyEmbedded.Zenoh.Carrier

/-!
What each call of the carrier can do. `Keeps` says that a call changed nothing
but failure counts, the cursor and the router flags; each operation either
keeps everything in that sense or does the one thing it is for.
-/
namespace AxolotyEmbedded.Zenoh
namespace CarrierSystem
variable {Token : Type} {s t u : CarrierSystem Token}

def framesReceived (s : CarrierSystem Token) : BitVec 32 := s.diagnostics.counters .framesReceived

/-- The frame store and what went into it and out of it are the same. -/
structure KeepsFrames (s t : CarrierSystem Token) : Prop where
  frames : t.carrier.frames = s.carrier.frames
  hasPendingFrame : t.carrier.hasPendingFrame = s.carrier.hasPendingFrame
  taken : t.session.taken = s.session.taken
  delivered : t.delivered = s.delivered
  framesReceived : t.framesReceived = s.framesReceived

/-- The lifecycle, the slots, the live declarations and the gauge are the same. -/
structure KeepsSlots (s t : CarrierSystem Token) : Prop where
  phase : t.carrier.phase = s.carrier.phase
  slots : t.carrier.slots = s.carrier.slots
  live : t.session.live = s.session.live
  gauge : t.diagnostics.activeSubscriptions = s.diagnostics.activeSubscriptions
  peak : t.diagnostics.activeSubscriptionsPeak = s.diagnostics.activeSubscriptionsPeak

structure Keeps (s t : CarrierSystem Token) : Prop extends KeepsFrames s t, KeepsSlots s t

theorem KeepsFrames.trans (first : s.KeepsFrames t) (second : t.KeepsFrames u) :
    s.KeepsFrames u where
  frames := second.frames.trans first.frames
  hasPendingFrame := second.hasPendingFrame.trans first.hasPendingFrame
  taken := second.taken.trans first.taken
  delivered := second.delivered.trans first.delivered
  framesReceived := second.framesReceived.trans first.framesReceived

theorem KeepsSlots.trans (first : s.KeepsSlots t) (second : t.KeepsSlots u) :
    s.KeepsSlots u where
  phase := second.phase.trans first.phase
  slots := second.slots.trans first.slots
  live := second.live.trans first.live
  gauge := second.gauge.trans first.gauge
  peak := second.peak.trans first.peak

namespace Keeps

@[refl] theorem refl (s : CarrierSystem Token) : s.Keeps s :=
  ⟨⟨rfl, rfl, rfl, rfl, rfl⟩, ⟨rfl, rfl, rfl, rfl, rfl⟩⟩

theorem trans (first : s.Keeps t) (second : t.Keeps u) : s.Keeps u where
  toKeepsFrames := first.toKeepsFrames.trans second.toKeepsFrames
  toKeepsSlots := first.toKeepsSlots.trans second.toKeepsSlots

theorem count (keeps : s.Keeps t) {metric : CarrierMetric} (other : metric ≠ .framesReceived) :
    s.Keeps (t.count metric) :=
  keeps.trans ⟨⟨rfl, rfl, rfl, rfl, t.diagnostics.counters_add_of_ne other.symm⟩,
    ⟨rfl, rfl, rfl, rfl, rfl⟩⟩

end Keeps

/-! ## Counting -/

theorem keeps_noteSubscriptionFailure (s : CarrierSystem Token) :
    s.Keeps s.noteSubscriptionFailure :=
  (Keeps.refl s).count (by decide)

theorem keeps_noteSessionOpen (s : CarrierSystem Token) (result : ZenohResult) :
    s.Keeps (s.noteSessionOpen result) :=
  (Keeps.refl s).count (by split <;> decide)

theorem keeps_noteSessionClose (s : CarrierSystem Token) (result : ZenohResult) :
    s.Keeps (s.noteSessionClose result) :=
  (Keeps.refl s).count (by split <;> decide)

theorem keeps_notePublishRefusedLocally (s : CarrierSystem Token) :
    s.Keeps s.notePublishRefusedLocally :=
  ((Keeps.refl s).count (by decide)).count (by decide)

theorem keeps_notePublishOutcome (s : CarrierSystem Token) (result : ZenohResult) :
    s.Keeps (s.notePublishOutcome result) := by
  have attempted := (Keeps.refl s).count (show CarrierMetric.publishAttempts ≠ _ by decide)
  unfold notePublishOutcome
  split
  · exact attempted
  · exact (attempted.count (by decide)).count (by decide)

theorem keeps_notePollOutcome (s : CarrierSystem Token) (result : ZenohResult) :
    s.Keeps (s.notePollOutcome result) := by
  have same := Keeps.refl s
  cases result with
  | ok | queueEmpty => exact same
  | queueFull | frameTooLarge | notOpen => exact same.count (by decide)
  | invalidArgument | capacityExceeded | transportError =>
      exact (same.count (by decide)).count (by decide)

/-! ## Opening, declaring, publishing -/

/-- An admitted `connect` whose open succeeded. -/
structure Opens (s t : CarrierSystem Token) : Prop where
  before : s.carrier.phase = .idle ∨ s.carrier.phase = .disconnected
  state : ∃ (u : CarrierSystem Token) (observed : Bool), s.Keeps u ∧ t = { u with
    carrier := { u.carrier with
      connectedRouterObserved := observed
      phase := .connected } }.publishSubscriptionGauge

theorem connect_cases (s : CarrierSystem Token) (endpointLength : Int) (opened : ZenohResult)
    (routers : Except ZenohResult Nat) :
    (∃ t, s.connect endpointLength opened routers = (false, t) ∧ s.Keeps t) ∨
      ∃ t, s.connect endpointLength opened routers = (true, t) ∧ s.Opens t := by
  unfold connect
  split
  · rename_i closed
    split
    · dsimp only
      split
      · exact .inr ⟨_, rfl, closed, _, _, s.keeps_noteSessionOpen opened, rfl⟩
      · exact .inl ⟨_, rfl, s.keeps_noteSessionOpen opened⟩
    · exact .inl ⟨_, rfl, .refl s⟩
  · exact .inl ⟨_, rfl, .refl s⟩

/-- A `subscribe` that declared `topic` and got `handle`, in the slot `free`. -/
structure Declares (bounds : CarrierBounds) (s : CarrierSystem Token) (topic : List UInt8)
    (handle : Token) (t : CarrierSystem Token) : Prop where
  before : s.carrier.phase = .connected ∨ s.carrier.phase = .subscribed
  nonempty : topic ≠ []
  bounded : topic.length ≤ bounds.maxTopicBytes
  undeclared : s.carrier.findSlot topic = none
  state : ∃ free, s.carrier.findFreeSlot = some free ∧ t = { s with
    carrier := { s.carrier.setSlotAt free ⟨true, topic, some handle⟩ with phase := .subscribed }
    session := s.session.subscribe topic handle }.publishSubscriptionGauge

theorem subscribe_cases (s : CarrierSystem Token) (bounds : CarrierBounds) (topic : List UInt8)
    (answer : Except ZenohResult Token) :
    (∃ t, s.subscribe bounds topic answer = (false, t) ∧ s.Keeps t) ∨
      (s.subscribe bounds topic answer = (true, s) ∧ ∃ index, s.carrier.findSlot topic = some index) ∨
      ∃ handle t, answer = .ok handle ∧ s.subscribe bounds topic answer = (true, t) ∧
        s.Declares bounds topic handle t := by
  have failed := s.keeps_noteSubscriptionFailure
  unfold subscribe
  split
  · rename_i admitted
    split
    · split
      · rename_i index found
        exact .inr (.inl ⟨rfl, index, found⟩)
      · rename_i undeclared
        split
        · exact .inl ⟨_, rfl, failed⟩
        · rename_i free found
          split
          · rename_i handle
            exact .inr (.inr ⟨handle, _, rfl, rfl, admitted.1, admitted.2.1, admitted.2.2,
              undeclared, free, found, rfl⟩)
          · exact .inl ⟨_, rfl, failed⟩
    · exact .inl ⟨_, rfl, failed⟩
  · exact .inl ⟨_, rfl, failed⟩

theorem publish_keeps (s : CarrierSystem Token) (bounds : CarrierBounds) (message : Message)
    (result : ZenohResult) : s.Keeps (s.publish bounds message result).2 := by
  have refused := s.keeps_notePublishRefusedLocally
  unfold publish
  split
  · split
    · have passed : s.Keeps { s with session := s.session.publish message } :=
        ⟨⟨rfl, rfl, rfl, rfl, rfl⟩, ⟨rfl, rfl, rfl, rfl, rfl⟩⟩
      exact passed.trans (keeps_notePublishOutcome _ result)
    · exact refused
  · exact refused

/-- An `unsubscribe` that ended the declaration in the slot `index`. -/
structure Undeclares [DecidableEq Token] (s : CarrierSystem Token) (topic : List UInt8)
    (t : CarrierSystem Token) : Prop where
  before : s.carrier.phase = .subscribed
  state : ∃ index handle, s.carrier.findSlot topic = some index ∧
    (s.carrier.slots index).subscription = some handle ∧ t = { s with
      carrier := s.carrier.setSlotAt index .unused
      session := s.session.unsubscribe handle .ok }.publishSubscriptionGauge

theorem unsubscribe_cases [DecidableEq Token] (s : CarrierSystem Token) (bounds : CarrierBounds)
    (topic : List UInt8) (result : ZenohResult) :
    (∃ t, s.unsubscribe bounds topic result = (false, t) ∧ s.Keeps t) ∨
      ∃ t, s.unsubscribe bounds topic result = (true, t) ∧ s.Undeclares topic t := by
  have failed := s.keeps_noteSubscriptionFailure
  unfold unsubscribe
  split
  · rename_i admitted
    split
    · exact .inl ⟨_, rfl, failed⟩
    · rename_i index found
      split
      · exact .inl ⟨_, rfl, failed⟩
      · rename_i handle holds
        dsimp only
        split
        · rename_i success
          subst success
          exact .inr ⟨_, rfl, admitted.1, index, handle, found, holds, rfl⟩
        · rename_i failure
          refine .inl ⟨_, rfl, ?_⟩
          have same : s.session.unsubscribe handle result = s.session := if_neg failure
          rw [same]
          exact failed
  · exact .inl ⟨_, rfl, failed⟩

/-! ## Polling -/

/-- The session's answer to a poll of `handle`, stored and not yet handed over. -/
def store (s : CarrierSystem Token) (handle : Token) (message : Message) : CarrierSystem Token :=
  { s with
    session := s.session.poll handle (.ok message)
    carrier := { s.carrier with
      frames := message
      hasPendingFrame := true } }

/-- The store after its frame went to the caller. -/
def release (s : CarrierSystem Token) : CarrierSystem Token :=
  { s with carrier := { s.carrier with hasPendingFrame := false } }.count .framesReceived

theorem copyPendingFrame_of_holds {capacities : PollCapacities}
    (holds : capacities.Holds s.carrier.frames) (storage : CallerStorage) :
    ∃ storage', s.copyPendingFrame capacities storage = (.frame, s.release, storage') ∧
      storage'.message = s.carrier.frames := by
  obtain ⟨nonempty, keyFits, payloadFits⟩ := holds
  have positive : 0 < s.carrier.frames.key.length := List.length_pos_iff.mpr nonempty
  simp only [copyPendingFrame, positive, keyFits, payloadFits, and_self, if_true]
  refine ⟨_, rfl, ?_⟩
  simp [CallerStorage.message]

theorem copyPendingFrame_of_not_holds {capacities : PollCapacities}
    (short : ¬ capacities.Holds s.carrier.frames) (storage : CallerStorage) :
    ∃ storage', s.copyPendingFrame capacities storage = (.insufficientCapacity, s, storage') := by
  unfold copyPendingFrame
  dsimp only
  rw [if_neg]
  · exact ⟨_, rfl⟩
  · rintro ⟨⟨positive, keyFits⟩, payloadFits⟩
    exact short ⟨List.length_pos_iff.mp positive, keyFits, payloadFits⟩

theorem keeps_keepSessionAlive (s : CarrierSystem Token) (reading : BitVec 64) :
    s.Keeps (s.keepSessionAlive reading) := by
  unfold keepSessionAlive
  dsimp only
  split
  · exact ⟨⟨rfl, rfl, rfl, rfl, rfl⟩, ⟨rfl, rfl, rfl, rfl, rfl⟩⟩
  · exact .refl s

/-- A round over the slots ends without a frame, or at the first slot whose queue
gives one. -/
inductive PollsSlots (capacities : PollCapacities)
    (answers : Fin maximumSubscriptions → Except ZenohResult Message) (storage : CallerStorage)
    (s : CarrierSystem Token) :
    ZenohCarrierPollOutcome × CarrierSystem Token × CallerStorage → Prop
  | nothing {outcome : ZenohCarrierPollOutcome} {t : CarrierSystem Token}
      (keeps : s.Keeps t) (frame : outcome ≠ .frame) (short : outcome ≠ .insufficientCapacity) :
      PollsSlots capacities answers storage s (outcome, t, storage)
  | takes {t : CarrierSystem Token} {index : Fin maximumSubscriptions} {handle : Token}
      {message : Message} (keeps : s.Keeps t) (answer : answers index = .ok message) :
      PollsSlots capacities answers storage s
        ((t.store handle message).copyPendingFrame capacities storage)

variable {capacities : PollCapacities} {storage : CallerStorage}
  {answers : Fin maximumSubscriptions → Except ZenohResult Message}
  {result : ZenohCarrierPollOutcome × CarrierSystem Token × CallerStorage}

theorem PollsSlots.after (first : s.Keeps t) (rest : t.PollsSlots capacities answers storage result) :
    s.PollsSlots capacities answers storage result := by
  cases rest with
  | nothing keeps frame short => exact .nothing (first.trans keeps) frame short
  | takes keeps answer => exact .takes (first.trans keeps) answer

theorem pollsSlots (turns : Nat) (s : CarrierSystem Token) :
    s.PollsSlots capacities answers storage (pollSlots capacities answers storage turns s) := by
  induction turns generalizing s with
  | zero => exact .nothing (.refl s) (by decide) (by decide)
  | succ turns ih =>
      have advanced : s.Keeps s.advanceCursor :=
        ⟨⟨rfl, rfl, rfl, rfl, rfl⟩, ⟨rfl, rfl, rfl, rfl, rfl⟩⟩
      simp only [pollSlots]
      split
      · rename_i handle active holds
        cases answer : answers s.advanceCursor.carrier.pollCursor with
        | ok message =>
            exact .after advanced (.takes (.refl s.advanceCursor) answer : PollsSlots _ _ _ _
              ((s.advanceCursor.store handle message).copyPendingFrame capacities storage))
        | error failure =>
            refine .after advanced ?_
            have asked : s.advanceCursor.Keeps { s.advanceCursor with
                session := s.advanceCursor.session.poll handle (.error failure) } :=
              ⟨⟨rfl, rfl, List.append_nil _, rfl, rfl⟩, ⟨rfl, rfl, rfl, rfl, rfl⟩⟩
            have noted := asked.trans (keeps_notePollOutcome _ failure)
            cases failure with
            | queueEmpty | frameTooLarge => exact .after noted (ih _)
            | _ => exact .nothing noted (by decide) (by decide)
      · exact .after advanced (ih _)

/-- A poll that is refused or finds nothing, one that serves the pending frame, and
one that asks the session. -/
inductive Polls (bounds : CarrierBounds) (capacities : PollCapacities)
    (answers : Fin maximumSubscriptions → Except ZenohResult Message) (storage : CallerStorage)
    (s : CarrierSystem Token) :
    ZenohCarrierPollOutcome × CarrierSystem Token × CallerStorage → Prop
  | refused {outcome : ZenohCarrierPollOutcome} (frame : outcome ≠ .frame)
      (short : outcome ≠ .insufficientCapacity) :
      Polls bounds capacities answers storage s (outcome, s, storage)
  | pending (admitted : capacities.Admitted bounds) (subscribed : s.carrier.phase = .subscribed)
      (pending : s.carrier.hasPendingFrame = true) :
      Polls bounds capacities answers storage s (s.copyPendingFrame capacities storage)
  | asks {result : ZenohCarrierPollOutcome × CarrierSystem Token × CallerStorage}
      (admitted : capacities.Admitted bounds) (subscribed : s.carrier.phase = .subscribed)
      (pending : s.carrier.hasPendingFrame = false)
      (round : s.PollsSlots capacities answers storage result) :
      Polls bounds capacities answers storage s result

theorem polls (s : CarrierSystem Token) (bounds : CarrierBounds) (capacities : PollCapacities)
    (storage : CallerStorage) (reading : BitVec 64)
    (answers : Fin maximumSubscriptions → Except ZenohResult Message) :
    s.Polls bounds capacities answers storage
      (s.pollOneEventOutcome bounds capacities storage reading answers) := by
  unfold pollOneEventOutcome
  split
  · rename_i admitted
    split
    · exact .refused (by decide) (by decide)
    · split
      · rename_i subscribed
        split
        · rename_i pending
          exact .pending admitted subscribed pending
        · rename_i settled
          split
          · exact .asks admitted subscribed (by simpa using settled)
              (.after (s.keeps_keepSessionAlive reading) (pollsSlots ..))
          · exact .refused (by decide) (by decide)
      · exact .refused (by decide) (by decide)
  · exact .refused (by decide) (by decide)

/-! ## Waiting for a router -/

theorem keeps_observeRouters (s : CarrierSystem Token) (answer : Except ZenohResult Nat) :
    s.Keeps (s.observeRouters answer).2 := by
  unfold observeRouters
  split
  · split
    · exact ⟨⟨rfl, rfl, rfl, rfl, rfl⟩, ⟨rfl, rfl, rfl, rfl, rfl⟩⟩
    · dsimp only
      split
      · exact .trans (.count ⟨⟨rfl, rfl, rfl, rfl, rfl⟩, ⟨rfl, rfl, rfl, rfl, rfl⟩⟩ (by decide))
          ⟨⟨rfl, rfl, rfl, rfl, rfl⟩, ⟨rfl, rfl, rfl, rfl, rfl⟩⟩
      · exact ⟨⟨rfl, rfl, rfl, rfl, rfl⟩, ⟨rfl, rfl, rfl, rfl, rfl⟩⟩
  · exact .refl s

theorem keeps_waitRounds {endMS : BitVec 64} {rounds : List RouterRound} {value : Bool}
    (returned : waitRounds endMS rounds s = some (value, t)) : s.Keeps t := by
  induction rounds generalizing s with
  | nil => cases returned
  | cons round rounds ih =>
      have observed := s.keeps_observeRouters round.answer
      simp only [waitRounds] at returned
      split at returned
      · split at returned
        · rename_i eq
          rw [eq] at observed
          cases returned
          exact observed
        · rename_i eq
          rw [eq] at observed
          exact observed.trans (ih returned)
      · cases returned
        exact .refl _

theorem keeps_waitForReconnect {deadlineMS : BitVec 32} {start : BitVec 64}
    {first : Except ZenohResult Nat} {rounds : List RouterRound} {value : Bool}
    (returned : s.waitForReconnect deadlineMS start first rounds = some (value, t)) :
    s.Keeps t := by
  have observed := s.keeps_observeRouters first
  unfold waitForReconnect at returned
  split at returned
  · dsimp only at returned
    split at returned
    · rename_i eq
      rw [eq] at observed
      cases returned
      exact observed
    · rename_i eq
      rw [eq] at observed
      exact observed.trans (keeps_waitRounds returned)
  · cases returned
    exact .refl s

/-! ## Teardown -/

variable [DecidableEq Token]

theorem keepsFrames_releaseSlot (unsubscribed : Fin maximumSubscriptions → ZenohResult)
    (s : CarrierSystem Token) (index : Fin maximumSubscriptions) :
    s.KeepsFrames (releaseSlot unsubscribed s index) ∧
      (releaseSlot unsubscribed s index).diagnostics.activeSubscriptionsPeak =
        s.diagnostics.activeSubscriptionsPeak := by
  unfold releaseSlot
  split
  · dsimp only
    split
    · rename_i handle _ _ success
      have taken : (s.session.unsubscribe handle (unsubscribed index)).taken = s.session.taken := by
        rw [success]
        rfl
      exact ⟨⟨rfl, rfl, taken, rfl, rfl⟩, rfl⟩
    · rename_i handle _ _ failure
      have same : s.session.unsubscribe handle (unsubscribed index) = s.session := if_neg failure
      rw [same]
      exact ⟨(s.keeps_noteSubscriptionFailure).toKeepsFrames, rfl⟩
  · exact ⟨(Keeps.refl s).toKeepsFrames, rfl⟩

theorem keepsFrames_foldl_releaseSlot (unsubscribed : Fin maximumSubscriptions → ZenohResult)
    (s : CarrierSystem Token) :
    let t := (List.finRange maximumSubscriptions).foldl (releaseSlot unsubscribed) s
    s.KeepsFrames t ∧
      t.diagnostics.activeSubscriptionsPeak = s.diagnostics.activeSubscriptionsPeak := by
  refine List.foldlRecOn (motive := fun t => s.KeepsFrames t ∧
    t.diagnostics.activeSubscriptionsPeak = s.diagnostics.activeSubscriptionsPeak) _ _
    ⟨(Keeps.refl s).toKeepsFrames, rfl⟩ fun t kept index _ => ?_
  have step := keepsFrames_releaseSlot unsubscribed t index
  exact ⟨kept.1.trans step.1, step.2.trans kept.2⟩

/-- An admitted `disconnect`. -/
structure Closes (s t : CarrierSystem Token) : Prop where
  before : s.carrier.phase = .connected ∨ s.carrier.phase = .subscribed
  phase : t.carrier.phase = .disconnected
  slots : t.carrier.slots = fun _ => .unused
  settled : t.carrier.hasPendingFrame = false
  live : t.session.live = []
  taken : t.session.taken = s.session.taken
  delivered : t.delivered = s.delivered
  gauge : t.diagnostics.activeSubscriptions = 0
  peak : t.diagnostics.activeSubscriptionsPeak = s.diagnostics.activeSubscriptionsPeak
  framesReceived : t.framesReceived = s.framesReceived

theorem disconnect_cases (s : CarrierSystem Token)
    (unsubscribed : Fin maximumSubscriptions → ZenohResult) (closed : ZenohResult) :
    (s.disconnect unsubscribed closed = (false, s) ∧
      ¬ (s.carrier.phase = .connected ∨ s.carrier.phase = .subscribed)) ∨
      ∃ t, s.disconnect unsubscribed closed = (decide (closed = .ok), t) ∧ s.Closes t := by
  unfold disconnect
  split
  · rename_i admitted
    obtain ⟨frames, peak⟩ := keepsFrames_foldl_releaseSlot unsubscribed s
    revert frames peak
    generalize (List.finRange maximumSubscriptions).foldl (releaseSlot unsubscribed) s = u
    intro frames peak
    refine .inr ⟨_, rfl, admitted, rfl, rfl, rfl, rfl, frames.taken, frames.delivered, rfl, ?_, ?_⟩
    · exact (CarrierDiagnostics.peak_setActiveSubscriptions_zero _).trans peak
    · exact (keeps_noteSessionClose _ closed).framesReceived.trans frames.framesReceived
  · rename_i refused
    exact .inl ⟨rfl, refused⟩

end CarrierSystem
end AxolotyEmbedded.Zenoh
