import AxolotyEmbedded.Library.Transition
import AxolotyEmbedded.Zenoh.CarrierCalls

/-!
The frame store between the session and the caller. Every frame taken from the
session is handed to the caller once, in order and byte for byte, except one
that is still pending; a call whose buffers are too small leaves it there. Only
an admitted `disconnect` discards it.
-/
namespace AxolotyEmbedded.Zenoh
open Transition
variable {Token : Type}

/-- A frame the session answers a poll with has a key. -/
def CarrierCall.Keyed : CarrierCall Token → Prop
  | .pollOneEvent _ _ _ answers => ∀ index, ∀ message ∈ (answers index).toOption, message.key ≠ []
  | _ => True

instance (call : CarrierCall Token) : Decidable call.Keyed := by
  cases call <;> unfold CarrierCall.Keyed <;> infer_instance

namespace CarrierSystem
variable {s t u : CarrierSystem Token} {incoming outgoing : List Message}

/-- The frame taken and not yet handed over. -/
def pending (s : CarrierSystem Token) : List Message :=
  if s.carrier.hasPendingFrame then [s.carrier.frames] else []

/-- The call is a `disconnect` that is not refused. -/
def Disconnects (s : CarrierSystem Token) : CarrierCall Token → Prop
  | .disconnect .. => s.carrier.phase = .connected ∨ s.carrier.phase = .subscribed
  | _ => False

instance (s : CarrierSystem Token) (call : CarrierCall Token) : Decidable (s.Disconnects call) := by
  cases call <;> unfold Disconnects <;> infer_instance

/-! ## What goes in comes out -/

/-- From `s` to `t` the session gave `incoming` and the caller got `outgoing`: nothing
between them is lost or repeated, and the counter counts what was delivered. -/
structure Flow (s t : CarrierSystem Token) (incoming outgoing : List Message) : Prop where
  taken : t.session.taken = s.session.taken ++ incoming
  delivered : t.delivered = s.delivered ++ outgoing
  conserved : s.pending ++ incoming = outgoing ++ t.pending
  received : t.framesReceived.toNat = min (s.framesReceived.toNat + outgoing.length) (2 ^ 32 - 1)

theorem Flow.trans {incoming' outgoing' : List Message} (first : s.Flow t incoming outgoing)
    (second : t.Flow u incoming' outgoing') :
    s.Flow u (incoming ++ incoming') (outgoing ++ outgoing') where
  taken := by rw [second.taken, first.taken, List.append_assoc]
  delivered := by rw [second.delivered, first.delivered, List.append_assoc]
  conserved := by
    rw [← List.append_assoc, first.conserved, List.append_assoc, second.conserved,
      List.append_assoc]
  received := by
    rw [second.received, first.received, List.length_append]
    omega

theorem KeepsFrames.flow (keeps : s.KeepsFrames t) : s.Flow t [] [] where
  taken := by rw [keeps.taken, List.append_nil]
  delivered := by rw [keeps.delivered, List.append_nil]
  conserved := by rw [pending, pending, keeps.frames, keeps.hasPendingFrame, List.append_nil,
    List.nil_append]
  received := by
    have := s.framesReceived.isLt
    rw [keeps.framesReceived, List.length_nil]
    omega

/-- One call: no frame is taken while one is pending, `.frame` is the outcome that
delivers, and after `.insufficientCapacity` there is a frame pending. -/
structure FrameStep (s t : CarrierSystem Token) (incoming outgoing : List Message) : Prop
    extends Flow s t incoming outgoing where
  alone : s.pending ≠ [] → incoming = []
  frame : outgoing.length = if t.reply = some (.polled .frame) then 1 else 0
  short : t.reply = some (.polled .insufficientCapacity) → t.pending ≠ []

/-! ## The invariant -/

/-- A pending frame belongs to a subscribed carrier and has a key. -/
structure FramesInv (s : CarrierSystem Token) : Prop where
  subscribed : s.carrier.hasPendingFrame = true → s.carrier.phase = .subscribed
  keyed : s.carrier.hasPendingFrame = true → s.carrier.frames.key ≠ []

theorem FramesInv.of_settled (settled : s.carrier.hasPendingFrame = false) : s.FramesInv :=
  ⟨fun pending => by simp [settled] at pending, fun pending => by simp [settled] at pending⟩

theorem FramesInv.keeps (inv : s.FramesInv) (keeps : s.Keeps t) : t.FramesInv where
  subscribed pending := keeps.phase.trans (inv.subscribed (keeps.hasPendingFrame ▸ pending))
  keyed pending := by
    rw [keeps.frames]
    exact inv.keyed (keeps.hasPendingFrame ▸ pending)

theorem FramesInv.settled (inv : s.FramesInv) (phase : s.carrier.phase ≠ .subscribed) :
    s.carrier.hasPendingFrame = false := by
  cases pending : s.carrier.hasPendingFrame with
  | false => rfl
  | true => exact absurd (inv.subscribed pending) phase

/-- A frame keeps its place in the store while the carrier is subscribed. -/
theorem FramesInv.keepsFrames (inv : s.FramesInv) (keeps : s.KeepsFrames t)
    (phase : t.carrier.phase = .subscribed) : t.FramesInv where
  subscribed _ := phase
  keyed pending := by
    rw [keeps.frames]
    exact inv.keyed (keeps.hasPendingFrame ▸ pending)

/-! ## Serving the pending frame -/

theorem pending_of_hasPendingFrame (pending : s.carrier.hasPendingFrame = true) :
    s.pending = [s.carrier.frames] :=
  if_pos pending

theorem pending_of_settled (settled : s.carrier.hasPendingFrame = false) : s.pending = [] := by
  rw [CarrierSystem.pending, settled]
  rfl

/-- The caller has the frame of the store. -/
structure Serves (s t : CarrierSystem Token) : Prop where
  reply : t.reply = some (.polled .frame)
  settled : t.carrier.hasPendingFrame = false
  phase : t.carrier.phase = s.carrier.phase
  slots : t.carrier.slots = s.carrier.slots
  session : t.session = s.session
  delivered : t.delivered = s.delivered ++ [s.carrier.frames]
  received : t.framesReceived = saturatingAdd s.framesReceived 1

theorem serves_of_holds {capacities : PollCapacities} (holds : capacities.Holds s.carrier.frames)
    (storage : CallerStorage) : s.Serves (receiving (s.copyPendingFrame capacities storage)) := by
  obtain ⟨storage', eq, message⟩ := copyPendingFrame_of_holds holds storage
  rw [eq]
  refine ⟨rfl, rfl, rfl, rfl, rfl, ?_, CarrierDiagnostics.counters_add_self ..⟩
  rw [← message]
  rfl

theorem retains_of_not_holds {capacities : PollCapacities}
    (short : ¬ capacities.Holds s.carrier.frames) (storage : CallerStorage) :
    receiving (s.copyPendingFrame capacities storage) =
      { s with reply := some (.polled .insufficientCapacity) } := by
  obtain ⟨storage', eq⟩ := copyPendingFrame_of_not_holds short storage
  rw [eq]
  rfl

/-- A pending frame is handed over or stays, by what the buffers hold. -/
theorem frameStep_copyPendingFrame (pending : s.carrier.hasPendingFrame = true)
    (capacities : PollCapacities) (storage : CallerStorage) :
    ∃ outgoing, s.FrameStep (receiving (s.copyPendingFrame capacities storage)) [] outgoing := by
  by_cases holds : capacities.Holds s.carrier.frames
  · have serves := serves_of_holds holds storage
    refine ⟨[s.carrier.frames], ⟨?_, serves.delivered, ?_, ?_⟩, fun _ => rfl, ?_, ?_⟩
    · rw [serves.session, List.append_nil]
    · rw [pending_of_hasPendingFrame pending, pending_of_settled serves.settled]
    · rw [serves.received]
      exact toNat_saturatingAdd_one _
    · rw [if_pos serves.reply]
      rfl
    · intro short
      rw [serves.reply] at short
      cases short
  · rw [retains_of_not_holds holds storage]
    have keeps : s.KeepsFrames { s with reply := some (.polled .insufficientCapacity) } :=
      ⟨rfl, rfl, rfl, rfl, rfl⟩
    refine ⟨[], keeps.flow, fun _ => rfl, rfl, fun _ none => ?_⟩
    have held := pending_of_hasPendingFrame
      (s := { s with reply := some (.polled .insufficientCapacity) }) pending
    rw [held] at none
    cases none

/-! ## Calls -/

theorem KeepsFrames.frameStep (keeps : s.KeepsFrames t)
    (frame : t.reply ≠ some (.polled .frame))
    (short : t.reply ≠ some (.polled .insufficientCapacity)) : s.FrameStep t [] [] :=
  ⟨keeps.flow, fun _ => rfl, (if_neg frame).symm, fun reply => absurd reply short⟩

/-- A call that leaves the store alone returns its own reply. -/
theorem KeepsFrames.returning (keeps : s.KeepsFrames t) (value : Bool) :
    s.FrameStep (CarrierSystem.returning (value, t)) [] [] := by
  have same : t.KeepsFrames (CarrierSystem.returning (value, t)) := ⟨rfl, rfl, rfl, rfl, rfl⟩
  exact (keeps.trans same).frameStep (by simp [CarrierSystem.returning])
    (by simp [CarrierSystem.returning])

/-- A frame is taken when none is pending. -/
theorem flow_store (keeps : s.Keeps t) (settled : s.carrier.hasPendingFrame = false)
    (handle : Token) (message : Message) : s.Flow (t.store handle message) [message] [] where
  taken := congrArg (· ++ [message]) keeps.taken
  delivered := by
    rw [List.append_nil]
    exact keeps.delivered
  conserved := by
    rw [pending_of_settled settled]
    rfl
  received := keeps.flow.received

theorem frameStep_receiving {outcome : ZenohCarrierPollOutcome} (storage : CallerStorage)
    (keeps : s.Keeps t) (frame : outcome ≠ .frame) (short : outcome ≠ .insufficientCapacity) :
    s.FrameStep (receiving (outcome, t, storage)) [] [] := by
  have same : t.KeepsFrames (receiving (outcome, t, storage)) :=
    ⟨rfl, rfl, rfl, if_neg frame, rfl⟩
  exact (keeps.toKeepsFrames.trans same).frameStep (by simpa [receiving] using frame)
    (by simpa [receiving] using short)

variable {bounds : CarrierBounds} {capacities : PollCapacities} {storage : CallerStorage}
  {answers : Fin maximumSubscriptions → Except ZenohResult Message}
  {result : ZenohCarrierPollOutcome × CarrierSystem Token × CallerStorage}

theorem Polls.frameStep (polls : s.Polls bounds capacities answers storage result) :
    ∃ incoming outgoing, s.FrameStep (receiving result) incoming outgoing := by
  cases polls with
  | refused frame short => exact ⟨[], [], frameStep_receiving storage (.refl s) frame short⟩
  | pending _ _ pending => exact ⟨[], frameStep_copyPendingFrame pending capacities storage⟩
  | asks _ _ settled round =>
      cases round with
      | nothing keeps frame short => exact ⟨[], [], frameStep_receiving storage keeps frame short⟩
      | @takes t _ handle message keeps answer =>
          obtain ⟨outgoing, step⟩ := frameStep_copyPendingFrame
            (s := t.store handle message) rfl capacities storage
          have flow := (flow_store keeps settled handle message).trans step.toFlow
          refine ⟨[message], outgoing, flow, fun held => ?_, step.frame, step.short⟩
          exact absurd (pending_of_settled settled) held

theorem FramesInv.receiving_copyPendingFrame (inv : s.FramesInv) :
    (receiving (s.copyPendingFrame capacities storage)).FramesInv := by
  by_cases holds : capacities.Holds s.carrier.frames
  · exact .of_settled (serves_of_holds holds storage).settled
  · rw [retains_of_not_holds holds storage]
    exact ⟨inv.subscribed, inv.keyed⟩

theorem FramesInv.receiving {outcome : ZenohCarrierPollOutcome} (inv : s.FramesInv) :
    (receiving (outcome, s, storage)).FramesInv :=
  ⟨inv.subscribed, inv.keyed⟩

theorem FramesInv.polls (inv : s.FramesInv)
    (keyed : ∀ index, ∀ message ∈ (answers index).toOption, message.key ≠ [])
    (polls : s.Polls bounds capacities answers storage result) :
    (CarrierSystem.receiving result).FramesInv := by
  cases polls with
  | refused => exact inv.receiving
  | pending => exact inv.receiving_copyPendingFrame
  | asks _ subscribed settled round =>
      cases round with
      | nothing keeps => exact (inv.keeps keeps).receiving
      | @takes t index handle message keeps answer =>
          have stored : (t.store handle message).FramesInv :=
            ⟨fun _ => keeps.phase.trans subscribed, fun _ => keyed index message (by
              rw [answer]
              exact rfl)⟩
          exact stored.receiving_copyPendingFrame

theorem FramesInv.returning (inv : s.FramesInv) (value : Bool) :
    (CarrierSystem.returning (value, s)).FramesInv :=
  ⟨inv.subscribed, inv.keyed⟩

theorem pollOneEventOutcome_of_pending (inv : s.FramesInv)
    (pending : s.carrier.hasPendingFrame = true) (admitted : capacities.Admitted bounds)
    (storage : CallerStorage) (reading : BitVec 64)
    (answers : Fin maximumSubscriptions → Except ZenohResult Message) :
    s.pollOneEventOutcome bounds capacities storage reading answers =
      s.copyPendingFrame capacities storage := by
  have subscribed := inv.subscribed pending
  have other : s.carrier.phase ≠ .disconnected := by simp [subscribed]
  rw [pollOneEventOutcome, if_pos admitted, if_neg other, if_pos subscribed, if_pos pending]

theorem Opens.keepsFrames (opens : s.Opens t) : s.KeepsFrames t := by
  obtain ⟨_, u, observed, keeps, rfl⟩ := opens
  exact keeps.toKeepsFrames.trans ⟨rfl, rfl, rfl, rfl, rfl⟩

theorem Declares.keepsFrames {topic : List UInt8} {handle : Token}
    (declares : s.Declares bounds topic handle t) : s.KeepsFrames t := by
  obtain ⟨_, _, _, _, free, _, rfl⟩ := declares
  exact ⟨rfl, rfl, rfl, rfl, rfl⟩

variable [DecidableEq Token]

theorem Undeclares.keepsFrames {topic : List UInt8} (undeclares : s.Undeclares topic t) :
    s.KeepsFrames t := by
  obtain ⟨_, index, handle, _, _, rfl⟩ := undeclares
  exact ⟨rfl, rfl, rfl, rfl, rfl⟩

/-- What a call that does not disconnect does to the frames. -/
theorem frameStep_of_next {call : CarrierCall Token} (called : s.next bounds call = some t)
    (stays : ¬ s.Disconnects call) : ∃ incoming outgoing, s.FrameStep t incoming outgoing := by
  cases call with
  | connect endpointLength opened routers =>
      cases called
      rcases s.connect_cases endpointLength opened routers with
        ⟨t, eq, keeps⟩ | ⟨t, eq, opens⟩ <;> rw [eq]
      · exact ⟨[], [], keeps.returning false⟩
      · exact ⟨[], [], opens.keepsFrames.returning true⟩
  | subscribe topic answer =>
      cases called
      rcases s.subscribe_cases bounds topic answer with
        ⟨t, eq, keeps⟩ | ⟨eq, _⟩ | ⟨handle, t, _, eq, declares⟩ <;> rw [eq]
      · exact ⟨[], [], keeps.returning false⟩
      · exact ⟨[], [], (Keeps.refl s).returning true⟩
      · exact ⟨[], [], declares.keepsFrames.returning true⟩
  | unsubscribe topic result =>
      cases called
      rcases s.unsubscribe_cases bounds topic result with
        ⟨t, eq, keeps⟩ | ⟨t, eq, undeclares⟩ <;> rw [eq]
      · exact ⟨[], [], keeps.returning false⟩
      · exact ⟨[], [], undeclares.keepsFrames.returning true⟩
  | publish message result =>
      cases called
      exact ⟨[], [], (s.publish_keeps bounds message result).returning _⟩
  | pollOneEvent capacities storage reading answers =>
      cases called
      exact (s.polls bounds capacities storage reading answers).frameStep
  | waitForReconnect deadlineMS start first rounds =>
      obtain ⟨⟨value, t⟩, returned, rfl⟩ := Option.map_eq_some_iff.mp called
      exact ⟨[], [], (keeps_waitForReconnect returned).returning value⟩
  | disconnect unsubscribed closed =>
      cases called
      rcases s.disconnect_cases unsubscribed closed with ⟨eq, _⟩ | ⟨t, eq, closes⟩
      · rw [eq]
        exact ⟨[], [], (Keeps.refl s).returning false⟩
      · exact absurd closes.before stays

theorem FramesInv.next {call : CarrierCall Token} (inv : s.FramesInv) (keyed : call.Keyed)
    (called : s.next bounds call = some t) : t.FramesInv := by
  cases call with
  | connect endpointLength opened routers =>
      cases called
      rcases s.connect_cases endpointLength opened routers with
        ⟨t, eq, keeps⟩ | ⟨t, eq, opens⟩ <;> rw [eq]
      · exact (inv.keeps keeps).returning false
      · refine FramesInv.returning (.of_settled ?_) true
        rw [opens.keepsFrames.hasPendingFrame]
        rcases opens.before with phase | phase <;> exact inv.settled (by simp [phase])
  | subscribe topic answer =>
      cases called
      rcases s.subscribe_cases bounds topic answer with
        ⟨t, eq, keeps⟩ | ⟨eq, _⟩ | ⟨handle, t, _, eq, declares⟩ <;> rw [eq]
      · exact (inv.keeps keeps).returning false
      · exact inv.returning true
      · refine FramesInv.returning (inv.keepsFrames declares.keepsFrames ?_) true
        obtain ⟨_, _, _, _, free, _, rfl⟩ := declares
        rfl
  | unsubscribe topic result =>
      cases called
      rcases s.unsubscribe_cases bounds topic result with
        ⟨t, eq, keeps⟩ | ⟨t, eq, undeclares⟩ <;> rw [eq]
      · exact (inv.keeps keeps).returning false
      · refine FramesInv.returning (inv.keepsFrames undeclares.keepsFrames ?_) true
        obtain ⟨subscribed, index, handle, _, _, rfl⟩ := undeclares
        exact subscribed
  | publish message result =>
      cases called
      exact (inv.keeps (s.publish_keeps bounds message result)).returning _
  | pollOneEvent capacities storage reading answers =>
      cases called
      exact inv.polls keyed (s.polls bounds capacities storage reading answers)
  | waitForReconnect deadlineMS start first rounds =>
      obtain ⟨⟨value, t⟩, returned, rfl⟩ := Option.map_eq_some_iff.mp called
      exact (inv.keeps (keeps_waitForReconnect returned)).returning value
  | disconnect unsubscribed closed =>
      cases called
      rcases s.disconnect_cases unsubscribed closed with ⟨eq, _⟩ | ⟨t, eq, closes⟩ <;> rw [eq]
      · exact inv.returning false
      · exact FramesInv.returning (.of_settled closes.settled) _

/-! ## Runs -/

theorem FramesInv.of_run {calls : List (CarrierCall Token)}
    (run : Run (CarrierSystem.next bounds) (fun _ call => call.Keyed) .initial calls s) :
    s.FramesInv :=
  run.invariant (.of_settled rfl) fun inv keyed called => inv.next keyed called

theorem Flow.of_run {calls : List (CarrierCall Token)}
    (run : Run (CarrierSystem.next bounds) (fun s call => call.Keyed ∧ ¬ s.Disconnects call) s
      calls t) : ∃ incoming outgoing, s.Flow t incoming outgoing := by
  induction run with
  | nil => exact ⟨[], [], (Keeps.refl s).flow⟩
  | snoc _ met called ih =>
      obtain ⟨incoming, outgoing, flow⟩ := ih
      obtain ⟨incoming', outgoing', step⟩ := frameStep_of_next called met.2
      exact ⟨_, _, flow.trans step.toFlow⟩

/-- Between two disconnects every frame taken from the session is delivered once, in
order and with its own bytes, or is the one still pending. One call takes no frame
while one is pending and delivers exactly when it returns `.frame`, and a call with
admitted capacities that are large enough delivers the pending frame. -/
theorem every_frame_delivered {before calls : List (CarrierCall Token)}
    (reached : Run (CarrierSystem.next bounds) (fun _ call => call.Keyed) .initial before s)
    (run : Run (CarrierSystem.next bounds) (fun s call => call.Keyed ∧ ¬ s.Disconnects call) s
      calls t) :
    (∃ incoming outgoing, s.Flow t incoming outgoing) ∧
      (∀ call u, ¬ t.Disconnects call → t.next bounds call = some u →
        ∃ incoming outgoing, t.FrameStep u incoming outgoing) ∧
      ∀ message ∈ t.pending, ∀ capacities storage reading answers,
        capacities.Admitted bounds → (message.key.length : Int) ≤ capacities.topic →
          (message.payload.length : Int) ≤ capacities.payload →
            ∃ u, t.next bounds (.pollOneEvent capacities storage reading answers) = some u ∧
              u.reply = some (.polled .frame) ∧ u.delivered = t.delivered ++ [message] ∧
                u.pending = [] := by
  refine ⟨Flow.of_run run, fun call u stays called => frameStep_of_next called stays, ?_⟩
  intro message held capacities storage reading answers admitted keyFits payloadFits
  have inv : t.FramesInv := .of_run (reached.trans (run.mono And.left))
  have pending : t.carrier.hasPendingFrame = true := by
    by_contra settled
    rw [pending_of_settled (by simpa using settled)] at held
    cases held
  have message_eq : message = t.carrier.frames := by
    rw [pending_of_hasPendingFrame pending] at held
    exact List.mem_singleton.mp held
  subst message_eq
  have serves := serves_of_holds ⟨inv.keyed pending, keyFits, payloadFits⟩ storage
  rw [← pollOneEventOutcome_of_pending inv pending admitted storage reading answers] at serves
  exact ⟨_, rfl, serves.reply, serves.delivered, pending_of_settled serves.settled⟩

/-! ## A frame too large for the caller -/

/-- The frame `ab`. -/
def twoByteFrame : Message := ⟨[0x61, 0x62], [1]⟩

/-- A poll that finds `ab` in every queue it asks. -/
def pollOf (topicCapacity : Int) : CarrierCall Nat :=
  .pollOneEvent ⟨topicCapacity, 2048⟩ blankStorage 0 fun _ => .ok twoByteFrame

/-- The session opens and declares `ab`. -/
def subscribingCalls : List (CarrierCall Nat) :=
  [.connect 5 .ok (.ok 1), .subscribe [0x61, 0x62] (.ok 3)]

theorem every_frame_delivered_later : ∃ s t : CarrierSystem Nat, t.pending = [twoByteFrame] ∧
    (∃ incoming outgoing, s.Flow t incoming outgoing) ∧
      ∃ u, t.next smokeBounds (pollOf 2) = some u ∧
        u.reply = some (.polled .frame) ∧ u.delivered = t.delivered ++ [twoByteFrame] ∧
          u.pending = [] := by
  have reached : Run (CarrierSystem.next smokeBounds) (fun _ call => call.Keyed)
      (.initial : CarrierSystem Nat) [] .initial := .nil
  obtain ⟨t, run, seen⟩ := exists_run_of_exec
    (show (exec (CarrierSystem.next smokeBounds)
      (fun s call => call.Keyed ∧ ¬ s.Disconnects call) .initial
        (subscribingCalls ++ [pollOf 1])).map (fun t => decide (t.pending = [twoByteFrame])) =
          some true by decide)
  have pending := of_decide_eq_true seen
  obtain ⟨flow, -, delivers⟩ := every_frame_delivered reached run
  refine ⟨.initial, t, pending, flow, ?_⟩
  exact delivers twoByteFrame (by simp [pending]) _ _ _ _ (by decide) (by decide) (by decide)

/-! ## A counter that is full -/

/-- The carrier after a frame of its only slot was handed over. -/
def servedCarrier : ZenohCarrier Nat where
  phase := .subscribed
  connectedRouterObserved := true
  routerLossObserved := false
  frames := twoByteFrame
  hasPendingFrame := false
  pollCursor := 0
  lastKeepAliveMS := 0
  slots := Function.update (fun _ => .unused) 0 ⟨true, [0x61, 0x62], some 3⟩

theorem served_again {s : CarrierSystem Nat} (served : s.carrier = servedCarrier) :
    ∃ t, s.next smokeBounds (pollOf 2) = some t ∧ t.carrier = servedCarrier ∧
      t.reply = some (.polled .frame) ∧ t.framesReceived = saturatingAdd s.framesReceived 1 := by
  obtain ⟨carrier, diagnostics, session, reply, delivered⟩ := s
  subst served
  with_unfolding_all exact ⟨_, rfl, rfl, rfl, rfl⟩

theorem exists_run_served (n : Nat) : ∃ (s : CarrierSystem Nat) (calls : List (CarrierCall Nat)),
    Run (CarrierSystem.next smokeBounds) (fun _ call => call.Keyed) .initial calls s ∧
      s.carrier = servedCarrier ∧ s.framesReceived.toNat = min (n + 1) (2 ^ 32 - 1) := by
  induction n with
  | zero => exact ⟨_, subscribingCalls ++ [pollOf 2], .of_exec rfl, rfl, rfl⟩
  | succ n ih =>
      obtain ⟨s, calls, run, served, received⟩ := ih
      obtain ⟨t, called, served', -, received'⟩ := served_again served
      refine ⟨t, _, run.snoc (by decide) called, served', ?_⟩
      rw [received', toNat_saturatingAdd_one, received]
      omega

/-- A poll with room for a longer topic than any is refused, whatever is pending; and a
frame delivered when the counter has reached its largest value is not counted. -/
theorem frame_refused_or_uncounted :
    (∃ s u : CarrierSystem Nat, ∃ calls, Run (CarrierSystem.next smokeBounds)
      (fun _ call => call.Keyed) .initial calls s ∧
        s.reply = some (.polled .insufficientCapacity) ∧ s.pending = [twoByteFrame] ∧
          s.next smokeBounds (pollOf 257) = some u ∧
            u.reply = some (.polled .failed) ∧ u.delivered = s.delivered) ∧
      ∃ s u : CarrierSystem Nat, ∃ calls, Run (CarrierSystem.next smokeBounds)
        (fun _ call => call.Keyed) .initial calls s ∧
          s.next smokeBounds (pollOf 2) = some u ∧
            u.reply = some (.polled .frame) ∧ u.framesReceived = s.framesReceived := by
  refine ⟨?_, ?_⟩
  · obtain ⟨s, run, seen⟩ := exists_run_of_exec
      (show (exec (CarrierSystem.next smokeBounds) (fun _ call => call.Keyed)
        .initial (subscribingCalls ++ [pollOf 1])).map (fun s =>
          decide (s.reply = some (.polled .insufficientCapacity) ∧ s.pending = [twoByteFrame])) =
            some true by decide)
    obtain ⟨short, pending⟩ := of_decide_eq_true seen
    exact ⟨s, _, _, run, short, pending, rfl, rfl, rfl⟩
  · obtain ⟨s, calls, run, served, received⟩ := exists_run_served (2 ^ 32 - 2)
    obtain ⟨t, called, -, frame, received'⟩ := served_again served
    refine ⟨s, t, calls, run, called, frame, BitVec.eq_of_toNat_eq ?_⟩
    rw [received', toNat_saturatingAdd_one, received]
    omega

end CarrierSystem
end AxolotyEmbedded.Zenoh
