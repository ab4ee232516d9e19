import Mathlib.Data.List.Basic
import Mathlib.Data.Nat.Basic
import Mathlib.Order.Basic
import AxolotyEmbedded.Library.Transition
import AxolotyEmbedded.Mqtt.Session

/-!
What a `subscribe_wait` that returns 1 is evidence of. The call compares one count
of all acknowledgements with its value before the SUBSCRIBE was sent, so the
acknowledgement of another SUBSCRIBE counts for it too; while none arrives, the
call returns 1 only for its own filter.
-/
namespace AxolotyEmbedded.Mqtt
open Transition

/-- This acknowledged SUBSCRIBE is one the call may report: its own, or a
resubscription of its filter. -/
def SentSubscribe.Answers (message : SentSubscribe) (number : Nat) (filter : Filter) : Prop :=
  message.filter = filter ∧ (message.sender = .call number ∨ message.sender = .resubscription)

instance (message : SentSubscribe) (number : Nat) (filter : Filter) :
    Decidable (message.Answers number filter) :=
  inferInstanceAs (Decidable (_ ∧ _))

/-- The call that has read the count and not yet returned. -/
def AppPhase.waiting : AppPhase → Option SubscribeCall
  | .subscribeClear call | .subscribeSend call | .subscribeDeadline call | .subscribeLoad call
  | .subscribeReturn call => some call
  | _ => none

namespace MqttSystem
variable {s t : MqttSystem} {bounds : CarrierBounds}

/-- One of the SUBSCRIBEs acknowledged from position `since` on answers the call. -/
def Answered (s : MqttSystem) (since number : Nat) (filter : Filter) : Prop :=
  ∃ message ∈ s.connection.acknowledged.drop since, message.Answers number filter

instance (s : MqttSystem) (since number : Nat) (filter : Filter) :
    Decidable (s.Answered since number filter) :=
  inferInstanceAs (Decidable (∃ message ∈ _, _))

/-- Every call that returned 1 had been answered. -/
def Acknowledged (s : MqttSystem) : Prop :=
  ∀ call ∈ s.returned, call.value = true → s.Answered call.since call.number call.filter

instance (s : MqttSystem) : Decidable s.Acknowledged :=
  inferInstanceAs (Decidable (∀ call ∈ _, _))

/-- While a call waits and has no answer, no other SUBSCRIBE is acknowledged. -/
def OwnAcknowledgements (s : MqttSystem) : MqttLabel → Prop
  | .subscribed index => ∀ call ∈ s.app.waiting, ∀ message ∈ s.connection.outstanding[index]?,
      message.Answers call.number call.filter ∨ s.Answered call.since call.number call.filter
  | _ => True

instance (s : MqttSystem) (label : MqttLabel) : Decidable (s.OwnAcknowledgements label) := by
  cases label <;> simp only [OwnAcknowledgements] <;> infer_instance

/-! ## The invariant -/

/-- The count is above what the waiting call has read only if the call is answered. -/
structure AckInv (s : MqttSystem) : Prop where
  since : ∀ call ∈ s.app.waiting, call.since ≤ s.connection.acknowledged.length
  waiting : ∀ call ∈ s.app.waiting,
    call.priorAcknowledgements < s.carrier.subscriptionAckCount →
      s.Answered call.since call.number call.filter
  returned : s.Acknowledged

theorem AckInv.initial : initial.AckInv where
  since _ waits := nomatch waits
  waiting _ waits := nomatch waits
  returned _ none := nomatch none

/-- What is not about acknowledgements does not matter. -/
theorem AckInv.quiet (inv : s.AckInv) (waiting : ∀ call ∈ t.app.waiting, call ∈ s.app.waiting)
    (acknowledged : t.connection.acknowledged = s.connection.acknowledged)
    (count : t.carrier.subscriptionAckCount = s.carrier.subscriptionAckCount)
    (returned : t.returned = s.returned) : t.AckInv where
  since call waits := by
    rw [acknowledged]
    exact inv.since call (waiting call waits)
  waiting call waits := by
    rw [Answered, acknowledged, count]
    exact inv.waiting call (waiting call waits)
  returned call done := by
    rw [Answered, acknowledged]
    exact inv.returned call (returned ▸ done)

/-- A count of zero is above no count. -/
theorem AckInv.reset (inv : s.AckInv) (waiting : ∀ call ∈ t.app.waiting, call ∈ s.app.waiting)
    (acknowledged : t.connection.acknowledged = s.connection.acknowledged)
    (count : t.carrier.subscriptionAckCount = 0) (returned : t.returned = s.returned) :
    t.AckInv where
  since call waits := by
    rw [acknowledged]
    exact inv.since call (waiting call waits)
  waiting call waits above := by
    rw [count] at above
    exact absurd above BitVec.not_lt_zero
  returned call done := by
    rw [Answered, acknowledged]
    exact inv.returned call (returned ▸ done)

/-- A call returns 1 only when it has been answered. -/
theorem AckInv.subscribeReturns (inv : s.AckInv) (number : Nat) (filter : Filter) (since : Nat)
    (value : Bool) (answered : value = true → s.Answered since number filter) :
    (s.subscribeReturns number filter since value).AckInv where
  since _ waits := nomatch waits
  waiting _ waits := nomatch waits
  returned call done positive := by
    rcases List.mem_append.mp done with before | now
    · exact inv.returned call before positive
    · cases List.mem_singleton.mp now
      exact answered positive

theorem AckInv.send (inv : s.AckInv) (message : SentSubscribe) : (s.send message).AckInv := by
  unfold MqttSystem.send
  split
  · exact inv.quiet (fun _ waits => waits) rfl rfl rfl
  · exact inv

/-- The application moves on within its call, or out of it. -/
theorem AckInv.move (inv : s.AckInv) (app : AppPhase)
    (waiting : ∀ call ∈ app.waiting, call ∈ s.app.waiting) : { s with app := app }.AckInv :=
  inv.quiet waiting rfl rfl rfl

/-! ## Steps -/

theorem AckInv.connectWait (inv : s.AckInv) (start : ConnectStart) :
    (s.connectWait start).AckInv := by
  cases start with
  | rejected => exact inv
  | failed => exact inv.reset (fun _ waits => waits) rfl rfl rfl
  | started => exact inv.reset (fun _ waits => nomatch waits) rfl rfl rfl

theorem AckInv.subscribeWait (inv : s.AckInv) (topic : List UInt8) :
    (s.subscribeWait bounds topic).AckInv := by
  have counted : ({ s with calls := s.calls + 1 } : MqttSystem).AckInv :=
    inv.quiet (fun _ waits => waits) rfl rfl rfl
  simp only [MqttSystem.subscribeWait]
  split
  · split
    · exact counted.quiet (fun _ waits => nomatch waits) rfl rfl rfl
    · split
      · exact counted.subscribeReturns _ _ _ _ nofun
      · exact counted.quiet (fun _ waits => nomatch waits) rfl rfl rfl
  · exact counted.subscribeReturns _ _ _ _ nofun

theorem AckInv.stepApp (inv : s.AckInv) {answer : Bool} (taken : s.stepApp answer = some t) :
    t.AckInv := by
  cases app : s.app with
  | idle =>
      simp only [MqttSystem.stepApp, app] at taken
      cases taken
  | connectDeadline | connectLoad | unsubscribeSend _ | reconnectDeadline _ | reconnectLoadCount _
  | reconnectLoadConnected _ | reconnectLoadResubscribed _ | reconnectCheckBits _ =>
      simp only [MqttSystem.stepApp, app] at taken
      cases taken
      apply inv.move
      split <;> exact fun _ waits => nomatch waits
  | connectCheck =>
      simp only [MqttSystem.stepApp, app] at taken
      split at taken <;> cases taken
      · exact inv.move _ fun _ waits => nomatch waits
      · exact inv.quiet (fun _ waits => nomatch waits) rfl rfl rfl
  | connectBaseline | unsubscribeRemove _ =>
      simp only [MqttSystem.stepApp, app] at taken
      cases taken
      exact inv.quiet (fun _ waits => nomatch waits) rfl rfl rfl
  | subscribePrior number filter =>
      simp only [MqttSystem.stepApp, app] at taken
      cases taken
      -- The call starts to wait: the count is what it has read.
      refine ⟨fun call waits => ?_, fun call waits above => ?_, inv.returned⟩
      · cases waits
        exact Nat.le_refl _
      · cases waits
        exact absurd above (BitVec.lt_irrefl _)
  | subscribeClear call =>
      simp only [MqttSystem.stepApp, app] at taken
      cases taken
      refine inv.quiet (fun other waits => ?_) rfl rfl rfl
      rw [app]
      exact waits
  | subscribeSend call =>
      simp only [MqttSystem.stepApp, app] at taken
      split at taken <;> cases taken
      · refine (inv.send _).move _ fun other waits => ?_
        rw [app_send, app]
        exact waits
      · exact inv.subscribeReturns _ _ _ _ nofun
  | subscribeDeadline call | subscribeLoad call =>
      simp only [MqttSystem.stepApp, app] at taken
      cases taken
      apply inv.move
      intro other waits
      rw [app]
      split at waits <;> exact waits
  | subscribeReturn call =>
      simp only [MqttSystem.stepApp, app] at taken
      cases taken
      refine inv.subscribeReturns _ _ _ _ fun above => ?_
      exact inv.waiting call (by rw [app]; rfl) (of_decide_eq_true above)
  | reconnectCheckCount expected =>
      simp only [MqttSystem.stepApp, app] at taken
      split at taken <;> cases taken
      · exact inv.quiet (fun _ waits => nomatch waits) rfl rfl rfl
      · exact inv.move _ fun _ waits => nomatch waits

/-- An acknowledgement raises the count, and the waiting call has its answer. -/
theorem AckInv.subscribed (inv : s.AckInv) (index : Nat) (message : SentSubscribe)
    (own : ∀ call ∈ s.app.waiting, message.Answers call.number call.filter ∨
      s.Answered call.since call.number call.filter) : (s.subscribed index message).AckInv := by
  have kept : ∀ {since number filter}, s.Answered since number filter →
      (s.subscribed index message).Answered since number filter := by
    rintro since number filter ⟨earlier, inside, answers⟩
    refine ⟨earlier, ?_, answers⟩
    simp only [MqttSystem.subscribed, List.drop_append]
    exact List.mem_append_left _ inside
  refine ⟨fun call waits => ?_, fun call waits _ => ?_, fun call done positive => ?_⟩
  · have since := inv.since call waits
    exact since.trans (by simp [MqttSystem.subscribed])
  · cases own call waits with
    | inl answers =>
        refine ⟨message, ?_, answers⟩
        simp only [MqttSystem.subscribed, List.drop_append_of_le_length (inv.since call waits)]
        exact List.mem_append_right _ (List.mem_singleton_self _)
    | inr answered => exact kept answered
  · exact kept (inv.returned call done positive)

theorem AckInv.stepTask (inv : s.AckInv) {answer : Bool} (taken : s.stepTask answer = some t) :
    t.AckInv := by
  cases task : s.task with
  | idle =>
      simp only [MqttSystem.stepTask, task] at taken
      cases taken
  | connectedSet _ | connectedClear | connectedCopy | subscribedLoad _ | subscribedSet =>
      simp only [MqttSystem.stepTask, task] at taken
      cases taken
      exact inv.quiet (fun _ waits => waits) rfl rfl rfl
  | connectedReset =>
      simp only [MqttSystem.stepTask, task] at taken
      cases taken
      exact inv.reset (fun _ waits => waits) rfl rfl rfl
  | resubscribing rest =>
      cases rest with
      | nil =>
          simp only [MqttSystem.stepTask, task] at taken
          cases taken
          exact inv.quiet (fun _ waits => waits) rfl rfl rfl
      | cons filter rest =>
          simp only [MqttSystem.stepTask, task] at taken
          cases taken
          have sent : (if answer then s.send ⟨filter, .resubscription⟩ else s).AckInv := by
            split
            · exact inv.send _
            · exact inv
          exact sent.quiet (fun _ waits => waits) rfl rfl rfl

theorem AckInv.next {label : MqttLabel} (inv : s.AckInv) (own : s.OwnAcknowledgements label)
    (taken : s.next bounds label = some t) : t.AckInv := by
  cases label with
  | connectWait start =>
      simp only [MqttSystem.next] at taken
      split at taken <;> cases taken
      exact inv.connectWait start
  | subscribeWait topic =>
      simp only [MqttSystem.next] at taken
      split at taken <;> cases taken
      exact inv.subscribeWait topic
  | unsubscribe topic =>
      simp only [MqttSystem.next, MqttSystem.unsubscribe] at taken
      split at taken <;> cases taken
      split
      · exact inv.move _ fun _ waits => nomatch waits
      · exact inv
  | reconnectWait networkActive =>
      simp only [MqttSystem.next, MqttSystem.reconnectWait] at taken
      split at taken <;> cases taken
      split
      · exact inv.move _ fun _ waits => nomatch waits
      · exact inv
  | disconnect =>
      simp only [MqttSystem.next, MqttSystem.disconnect] at taken
      split at taken <;> cases taken
      split
      · exact inv.reset (fun _ waits => waits) rfl rfl rfl
      · exact inv
  | app answer => exact inv.stepApp taken
  | connected =>
      simp only [MqttSystem.next] at taken
      split at taken <;> cases taken
      exact inv.quiet (fun _ waits => waits) rfl rfl rfl
  | disconnected =>
      simp only [MqttSystem.next] at taken
      split at taken <;> cases taken
      exact inv.quiet (fun _ waits => waits) rfl rfl rfl
  | subscribed index =>
      simp only [MqttSystem.next] at taken
      split at taken <;> cases taken
      rename_i message _ found
      exact inv.subscribed index message fun call waits => own call waits message found
  | task answer => exact inv.stepTask taken

/-! ## Runs -/

/-- In every run in which no other SUBSCRIBE is acknowledged while a call waits
without its answer, every call that returned 1 had its own SUBSCRIBE, or a
resubscription of its filter, acknowledged since it read the count. -/
theorem acknowledged_of_run {labels : List MqttLabel}
    (run : Run (MqttSystem.next bounds) OwnAcknowledgements .initial labels s) : s.Acknowledged := by
  have inv : s.AckInv := run.invariant .initial fun inv own taken => inv.next own taken
  exact inv.returned

/-- `connect_wait` starts the client, sees CONNECTED and returns 1. -/
def connectingLabels : List MqttLabel :=
  [.connectWait .started, .connected, .task true] ++ List.replicate 4 (.app true)

/-- `subscribe_wait` up to the SUBSCRIBE it sends. -/
def subscribingLabels (topic : List UInt8) : List MqttLabel :=
  .subscribeWait topic :: List.replicate 3 (.app true)

theorem acknowledged_of_run_subscribing : ∃ s : MqttSystem,
    s.returned = [⟨0, [0x61], 0, true⟩] ∧ s.Acknowledged := by
  obtain ⟨s, run, seen⟩ := exists_run_of_exec
    (show (exec (MqttSystem.next smokeBounds) OwnAcknowledgements .initial
      (connectingLabels ++ subscribingLabels [0x61] ++ [.subscribed 0] ++
        List.replicate 3 (.app true))).map (fun s =>
          decide (s.returned = [⟨0, [0x61], 0, true⟩])) = some true by decide)
  exact ⟨s, of_decide_eq_true seen, acknowledged_of_run run⟩

/-- A call for `a` times out, and its acknowledgement arrives while a call for `b`
waits: that call returns 1, and no SUBSCRIBE for `b` was ever acknowledged. -/
theorem late_acknowledgement_counts : ∃ (s : MqttSystem) (labels : List MqttLabel),
    Run (MqttSystem.next smokeBounds) unguarded .initial labels s ∧
      ∃ call ∈ s.returned, call.value = true ∧
        ∀ message ∈ s.connection.acknowledged, ¬ message.Answers call.number call.filter := by
  obtain ⟨s, run, seen⟩ := exists_run_of_exec
    (show (exec (MqttSystem.next smokeBounds) unguarded .initial
      (connectingLabels ++ subscribingLabels [0x61] ++ [.app false, .app true] ++
        subscribingLabels [0x62] ++ [.subscribed 0] ++ List.replicate 3 (.app true))).map
          (fun s => decide (∃ call ∈ s.returned, call.value = true ∧
            ∀ message ∈ s.connection.acknowledged, ¬ message.Answers call.number call.filter)) =
              some true by decide)
  exact ⟨s, _, run, of_decide_eq_true seen⟩

end MqttSystem
end AxolotyEmbedded.Mqtt
