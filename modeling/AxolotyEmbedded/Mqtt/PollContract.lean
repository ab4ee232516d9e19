import Mathlib.Data.Int.Order.Basic
import AxolotyEmbedded.Mqtt.Poll

/-!
What a caller of the three layers gets for every accepted frame. A poll that reaches
the queue takes the oldest frame out of it before it checks the size, so a frame that
the caller has no room for is gone. The contract that the applications state, where
such a frame stays queued, is kept exactly in the runs without such a poll.
-/
namespace AxolotyEmbedded.Mqtt
open Transition

variable {bounds : CarrierBounds}

/-- The removed frame had room in the buffers of the call. -/
def Removal.Fits (removal : Removal) : Prop := removal.call.capacities.Holds removal.frame

instance (removal : Removal) : Decidable removal.Fits :=
  inferInstanceAs (Decidable (removal.call.capacities.Holds removal.frame))

namespace PollLabel

/-- The frame of a DATA event classified ACCEPT. -/
def accepted (bounds : CarrierBounds) : PollLabel → Option Message
  | .data event => MqttDataEvent.accepted bounds event
  | _ => none

end PollLabel

namespace PollSystem

/-- The accepted frames that the queue took. -/
def queuedFrames (s : PollSystem) : List Message :=
  (s.arrivals.filter Arrival.queued).map Arrival.frame

/-- The contract of a poll: the frames returned and the queued ones are those that the
queue took, in order; a poll that fails has removed no frame; a refused frame found
the queue full and is reported. -/
structure Kept (bounds : CarrierBounds) (s : PollSystem) : Prop where
  order : s.queuedFrames = s.returned ++ s.carrier.eventQueue
  once : s.removals.map Removal.frame = s.returned
  succeeded : ∀ removal ∈ s.removals, removal.status = removal.call.success
  refused : ∀ arrival ∈ s.arrivals, arrival.queued = false →
    arrival.occupied = networkEventCapacity
  reported : s.owed = true → ∀ call, s.Reaches bounds call →
    (s.answer bounds call).1 = call.failure
  oldest : ∀ call, s.Reaches bounds call → s.carrier.overflowBit = false →
    s.carrier.connectedBit = true → ∀ frame ∈ s.carrier.eventQueue.head?,
      if call.capacities.Holds frame then
        (s.answer bounds call).1 = call.success ∧ (s.answer bounds call).2.2.message = frame ∧
          (s.poll bounds call).carrier.eventQueue = s.carrier.eventQueue.tail
      else (s.answer bounds call).1 = call.failure
  turnedAway : ∀ call, ¬ s.Reaches bounds call →
    (s.answer bounds call).1 ≠ call.success ∧ (s.poll bounds call).carrier = s.carrier

/-- A poll that would take the oldest frame has room for it. -/
def Roomy (bounds : CarrierBounds) (s : PollSystem) : PollLabel → Prop
  | .poll call => s.Reaches bounds call → s.carrier.overflowBit = false →
      s.carrier.connectedBit = true →
        ∀ frame ∈ s.carrier.eventQueue.head?, call.capacities.Holds frame
  | _ => True

instance (s : PollSystem) (label : PollLabel) : Decidable (s.Roomy bounds label) :=
  match label with
  | .poll call => inferInstanceAs (Decidable (s.Reaches bounds call →
      s.carrier.overflowBit = false → s.carrier.connectedBit = true →
        ∀ frame ∈ s.carrier.eventQueue.head?, call.capacities.Holds frame))
  | .connected | .disconnected | .subscribed | .data _ => inferInstanceAs (Decidable True)

end PollSystem

/-! ## The handler -/

namespace InboundCarrier
variable {c : InboundCarrier}

theorem networkMqttEvent_of_accepted {event : Option MqttDataEvent} {frame : Message}
    (accepted : MqttDataEvent.accepted bounds event = some frame) :
    c.networkMqttEvent bounds event = c.queueFrame frame := by
  rw [MqttDataEvent.accepted] at accepted
  split at accepted
  · rename_i verdict
    obtain ⟨event, rfl, rfl⟩ := Option.map_eq_some_iff.mp accepted
    simp only [networkMqttEvent, verdict]
  · cases accepted

/-- Any other event leaves the queue and its overflow notice as they are. -/
theorem networkMqttEvent_of_not_accepted {event : Option MqttDataEvent}
    (rejected : MqttDataEvent.accepted bounds event = none) :
    (c.networkMqttEvent bounds event).eventQueue = c.eventQueue ∧
      (c.networkMqttEvent bounds event).overflowBit = c.overflowBit := by
  cases verdict : MqttDataEvent.verdict bounds event with
  | accept =>
      rw [MqttDataEvent.accepted, if_pos verdict, Option.map_eq_none_iff] at rejected
      subst rejected
      simp only [networkMqttEvent, verdict, and_self]
  | oversized => simp only [networkMqttEvent, verdict, and_self]
  | discard => simp only [networkMqttEvent, verdict, and_self]

theorem queueFrame_of_room (frame : Message) (room : c.eventQueue.length < networkEventCapacity) :
    (c.queueFrame frame).eventQueue = c.eventQueue ++ [frame] ∧
      (c.queueFrame frame).overflowBit = c.overflowBit := by
  simp only [queueFrame, apply_ite eventQueue, apply_ite overflowBit, ite_self, room, if_true,
    and_self]

theorem queueFrame_of_full (frame : Message) (full : ¬ c.eventQueue.length < networkEventCapacity) :
    (c.queueFrame frame).eventQueue = c.eventQueue ∧ (c.queueFrame frame).overflowBit = true := by
  simp only [queueFrame, apply_ite eventQueue, apply_ite overflowBit, ite_self, full, if_false,
    and_self]

/-! ## One poll of the carrier -/

/-- What a poll with admitted arguments does to the carrier. -/
inductive Polled (c : InboundCarrier) (capacities : PollCapacities) :
    Int → InboundCarrier → CallerStorage → Prop
  | overflowed {storage : CallerStorage} : c.overflowBit = true →
      Polled c capacities (-1) { c with overflowBit := false } storage
  | idle {result : Int} {storage : CallerStorage} : c.overflowBit = false →
      (c.connectedBit = true → c.eventQueue = []) → result = 0 ∨ result = -2 →
        Polled c capacities result c storage
  | lost {frame : Message} {rest : List Message} {storage : CallerStorage} :
      c.overflowBit = false → c.connectedBit = true → c.eventQueue = frame :: rest →
        ¬ capacities.Holds frame → Polled c capacities (-1) { c with eventQueue := rest } storage
  | served {frame : Message} {rest : List Message} {storage : CallerStorage} :
      c.overflowBit = false → c.eventQueue = frame :: rest → capacities.Holds frame →
        storage.topicLength = frame.key.length → storage.payloadLength = frame.payload.length →
          storage.message = frame → Polled c capacities 1 { c with eventQueue := rest } storage

theorem polled_of_admits {nonNull : Bool} {capacities : PollCapacities}
    (admits : Admits bounds nonNull capacities) (storage : CallerStorage) :
    c.Polled capacities (c.pollOneEvent bounds nonNull capacities storage).1
      (c.pollOneEvent bounds nonNull capacities storage).2.1
      (c.pollOneEvent bounds nonNull capacities storage).2.2 := by
  rw [pollOneEvent, if_pos admits]
  by_cases raised : c.overflowBit = true
  · rw [if_pos raised]
    exact .overflowed raised
  · rw [if_neg raised]
    have cleared := Bool.eq_false_iff.mpr raised
    by_cases connected : c.connectedBit = true
    · rw [if_pos connected]
      cases queued : c.eventQueue with
      | nil => exact .idle cleared (fun _ => queued) (.inl rfl)
      | cons frame rest =>
          dsimp only
          split
          · rename_i large
            refine .lost cleared connected queued fun holds => ?_
            obtain ⟨keyed, keyFits, payloadFits⟩ := holds
            have nonempty := List.length_pos_iff.mpr keyed
            omega
          · rename_i fits
            push Not at fits
            refine .served cleared queued ⟨?_, fits.2.1, fits.2.2⟩ rfl rfl ?_
            · exact fun empty => fits.1 (by rw [empty, List.length_nil])
            · simp only [CallerStorage.message, Int.toNat_natCast, Memory.bytes_copy,
                Memory.bytes_ofList]
    · rw [if_neg connected]
      exact .idle cleared (fun up => absurd up connected) (.inr rfl)

theorem Polled.lengths {capacities : PollCapacities} {result : Int} {carrier : InboundCarrier}
    {storage : CallerStorage} (polled : c.Polled capacities result carrier storage)
    (frame : result = 1) : 0 < storage.topicLength ∧ storage.topicLength ≤ capacities.topic ∧
      0 ≤ storage.payloadLength ∧ storage.payloadLength ≤ capacities.payload := by
  cases polled with
  | overflowed _ | lost _ _ _ _ => cases frame
  | idle _ _ result => cases result <;> omega
  | served _ _ holds topicLength payloadLength _ =>
      obtain ⟨keyed, keyFits, payloadFits⟩ := holds
      have nonempty := List.length_pos_iff.mpr keyed
      omega

/-- Swift admits no capacities that C refuses. -/
theorem admits_of_admitted {capacities : PollCapacities} (admitted : capacities.Admitted bounds) :
    Admits bounds true capacities := by
  obtain ⟨topic, topicBound, payload, payloadBound⟩ := admitted
  refine ⟨rfl, topic, payload, ?_, ?_⟩
  · rw [networkMaxTopic]
    omega
  · rw [networkMaxPayload]
    omega

end InboundCarrier

/-! ## One poll at any layer -/

/-- What the layer makes of the result of the C carrier. -/
def PollCall.report : PollCall → Int → Int
  | .carrier .., result | .client .., result => result
  | .v1 .., result =>
      if result = 1 then abiStatusOk
      else if result = 0 then abiStatusNoEvent
      else if result = -2 then abiStatusClosed
      else abiStatusFailed

theorem PollCall.report_success (call : PollCall) : call.report 1 = call.success := by
  cases call <;> rfl

theorem PollCall.report_failure (call : PollCall) : call.report (-1) = call.failure := by
  cases call <;> rfl

theorem PollCall.success_ne_failure (call : PollCall) : call.success ≠ call.failure := by
  cases call with
  | carrier _ _ _ | client _ _ => exact show (1 : Int) ≠ -1 by decide
  | v1 _ _ _ _ => exact show abiStatusOk ≠ abiStatusFailed by decide

theorem PollCall.report_idle (call : PollCall) {result : Int} (idle : result = 0 ∨ result = -2) :
    call.report result ≠ call.success ∧ call.report result ≠ call.failure := by
  cases call with
  | carrier _ _ _ | client _ _ =>
      simp only [report, success, failure]
      omega
  | v1 _ _ _ _ =>
      cases idle with
      | inl empty =>
          subst empty
          exact show abiStatusNoEvent ≠ abiStatusOk ∧ abiStatusNoEvent ≠ abiStatusFailed by decide
      | inr closed =>
          subst closed
          exact show abiStatusClosed ≠ abiStatusOk ∧ abiStatusClosed ≠ abiStatusFailed by decide

namespace PollSystem
variable {s : PollSystem}

/-- The check of the reported lengths in Swift never fails. -/
theorem clientPollOneEvent_of_admitted {capacities : PollCapacities}
    (subscribed : s.subscribed = true) (admitted : capacities.Admitted bounds)
    (storage : CallerStorage) : s.clientPollOneEvent bounds capacities storage =
      s.carrier.pollOneEvent bounds true capacities storage := by
  have admits := InboundCarrier.admits_of_admitted admitted
  have lengths := (InboundCarrier.polled_of_admits (c := s.carrier) admits storage).lengths
  rw [clientPollOneEvent, if_pos ⟨subscribed, admitted⟩]
  generalize s.carrier.pollOneEvent bounds true capacities storage = returned at lengths ⊢
  obtain ⟨result, carrier, stored⟩ := returned
  dsimp only at lengths
  refine if_neg fun caught => ?_
  obtain ⟨topic, topicFits, payload, payloadFits⟩ := lengths caught.1
  omega

/-- A poll that reaches the carrier reports what the C function did. -/
theorem polled_of_reaches {call : PollCall} (reaches : s.Reaches bounds call) :
    ∃ result stored, s.carrier.Polled call.capacities result (s.answer bounds call).2.1 stored ∧
      (s.answer bounds call).1 = call.report result ∧
        (result = 1 → (s.answer bounds call).2.2.message = stored.message) := by
  cases call with
  | carrier nonNull capacities storage =>
      exact ⟨_, _, InboundCarrier.polled_of_admits reaches storage, rfl, fun _ => rfl⟩
  | client capacities storage =>
      rw [answer, clientPollOneEvent_of_admitted reaches.1 reaches.2]
      have admits := InboundCarrier.admits_of_admitted reaches.2
      exact ⟨_, _, InboundCarrier.polled_of_admits admits storage, rfl, fun _ => rfl⟩
  | v1 nonNull topicCapacity payloadCapacity storage =>
      obtain ⟨given, subscribed, admitted⟩ := reaches
      have polled := InboundCarrier.polled_of_admits (c := s.carrier)
        (InboundCarrier.admits_of_admitted admitted)
        { storage with topicLength := 0, payloadLength := 0 }
      rw [answer, v1PollOneEvent, if_pos given, clientPollOneEvent_of_admitted subscribed admitted]
      generalize s.carrier.pollOneEvent bounds true _ _ = returned at polled ⊢
      obtain ⟨result, carrier, stored⟩ := returned
      by_cases frame : result = 1
      · subst frame
        exact ⟨1, stored, polled, rfl, fun _ => rfl⟩
      · refine ⟨result, stored, ?_, ?_, fun one => absurd one frame⟩
        · simp only [if_neg frame, apply_ite Prod.snd, ite_self]
          exact polled
        · simp only [PollCall.report, if_neg frame, apply_ite Prod.fst]

/-- A poll that is turned away does not touch the carrier. -/
theorem answer_of_not_reaches {call : PollCall} (turnedAway : ¬ s.Reaches bounds call) :
    (s.answer bounds call).1 ≠ call.success ∧ (s.answer bounds call).2.1 = s.carrier := by
  cases call with
  | carrier nonNull capacities storage =>
      rw [Reaches] at turnedAway
      rw [answer, InboundCarrier.pollOneEvent, if_neg turnedAway]
      exact ⟨show (-1 : Int) ≠ 1 by decide, rfl⟩
  | client capacities storage =>
      rw [Reaches] at turnedAway
      rw [answer, clientPollOneEvent, if_neg turnedAway]
      exact ⟨show (-1 : Int) ≠ 1 by decide, rfl⟩
  | v1 nonNull topicCapacity payloadCapacity storage =>
      rw [answer, v1PollOneEvent]
      split
      · rename_i given
        rw [clientPollOneEvent, if_neg fun admitted => turnedAway ⟨given, admitted⟩]
        exact ⟨show abiStatusFailed ≠ abiStatusOk by decide, rfl⟩
      · exact ⟨show abiStatusInvalidArgument ≠ abiStatusOk by decide, rfl⟩

/-- What a poll does to the session. A frame is lost to a poll that is not roomy, and
served to one that is. -/
inductive Polled (bounds : CarrierBounds) (s : PollSystem) (call : PollCall) : PollSystem → Prop
  | kept : s.Roomy bounds (.poll call) → Polled bounds s call s
  | overflowed : s.carrier.overflowBit = true →
      Polled bounds s call { s with
        carrier := { s.carrier with overflowBit := false }
        owed := false }
  | lost {frame : Message} {rest : List Message} : ¬ s.Roomy bounds (.poll call) →
      s.carrier.eventQueue = frame :: rest → ¬ call.capacities.Holds frame →
        Polled bounds s call { s with
          carrier := { s.carrier with eventQueue := rest }
          removals := s.removals ++ [⟨frame, call, call.failure⟩]
          owed := false }
  | served {frame : Message} {rest : List Message} : s.Roomy bounds (.poll call) →
      s.carrier.eventQueue = frame :: rest → call.capacities.Holds frame →
        Polled bounds s call { s with
          carrier := { s.carrier with eventQueue := rest }
          removals := s.removals ++ [⟨frame, call, call.success⟩]
          returned := s.returned ++ [frame] }

/-- The history of the queue records exactly the frame that left it. -/
theorem take_cons_sub {frame : Message} {queue rest : List Message}
    (queued : queue = frame :: rest) : queue.take (queue.length - rest.length) = [frame] := by
  subst queued
  rw [List.length_cons, Nat.add_sub_cancel_left, List.take_succ_cons, List.take_zero]

/-- Nothing is asked of a poll where the queue is empty. -/
theorem roomy_of_nothing {call : PollCall}
    (nothing : s.carrier.connectedBit = true → s.carrier.eventQueue = []) :
    s.Roomy bounds (.poll call) := by
  intro _ _ connected frame first
  rw [nothing connected] at first
  cases first

theorem roomy_of_holds {call : PollCall} {frame : Message} {rest : List Message}
    (queued : s.carrier.eventQueue = frame :: rest) (holds : call.capacities.Holds frame) :
    s.Roomy bounds (.poll call) := by
  intro _ _ _ first head
  rw [queued] at head
  cases head
  exact holds

theorem polled (s : PollSystem) (call : PollCall) :
    s.Polled bounds call (s.poll bounds call) := by
  by_cases reaches : s.Reaches bounds call
  · obtain ⟨result, stored, polled, status, message⟩ := polled_of_reaches reaches
    rw [poll]
    generalize s.answer bounds call = returned at polled status message ⊢
    obtain ⟨returnedStatus, carrier, storage⟩ := returned
    dsimp only at polled status message ⊢
    subst status
    cases polled with
    | overflowed raised =>
        have reported : s.Polled bounds call _ := .overflowed raised
        simpa [call.report_failure, reaches, call.success_ne_failure.symm] using reported
    | idle cleared nothing idle =>
        obtain ⟨noFrame, noFailure⟩ := call.report_idle idle
        have kept : s.Polled bounds call s := .kept (roomy_of_nothing nothing)
        simpa [noFrame, noFailure] using kept
    | lost cleared connected queued tooLarge =>
        have short : ¬ s.Roomy bounds (.poll call) :=
          fun roomy => tooLarge (roomy reaches cleared connected _ (by rw [queued]; rfl))
        simpa [call.report_failure, reaches, call.success_ne_failure.symm, take_cons_sub queued] using
          Polled.lost short queued tooLarge
    | served _ queued holds _ _ read =>
        have roomy : s.Roomy bounds (.poll call) := roomy_of_holds queued holds
        rw [read] at message
        simpa [call.report_success, call.success_ne_failure, take_cons_sub queued, message rfl] using
          Polled.served roomy queued holds
  · obtain ⟨status, carrier⟩ := answer_of_not_reaches reaches
    have same : s.poll bounds call = s := by
      rw [poll]
      generalize s.answer bounds call = returned at status carrier ⊢
      obtain ⟨returnedStatus, returnedCarrier, storage⟩ := returned
      dsimp only at status carrier ⊢
      subst carrier
      simp [if_neg status, reaches]
    rw [same]
    exact .kept fun reached => absurd reached reaches

/-! ## The invariant -/

/-- What holds of the history and the queue. -/
structure Inv (s : PollSystem) : Prop where
  order : s.queuedFrames = s.removals.map Removal.frame ++ s.carrier.eventQueue
  bounded : s.carrier.eventQueue.length ≤ networkEventCapacity
  refused : ∀ arrival ∈ s.arrivals, arrival.queued = false →
    arrival.occupied = networkEventCapacity
  served : ∀ removal ∈ s.removals,
    removal.status = if removal.Fits then removal.call.success else removal.call.failure
  returned : s.returned = (s.removals.filter Removal.Fits).map Removal.frame
  owed : s.owed = true → s.carrier.overflowBit = true

theorem Inv.opened (probe : Message) (oversizedCount : BitVec 32) :
    (opened probe oversizedCount).Inv where
  order := rfl
  bounded := Nat.zero_le _
  refused := nofun
  served := nofun
  returned := rfl
  owed := nofun

section removed
variable {frame : Message} {rest : List Message}

theorem Inv.bounded_rest (inv : s.Inv) (queued : s.carrier.eventQueue = frame :: rest) :
    rest.length ≤ networkEventCapacity := by
  have bounded := inv.bounded
  rw [queued, List.length_cons] at bounded
  omega

theorem Inv.order_removed (inv : s.Inv) (queued : s.carrier.eventQueue = frame :: rest)
    (call : PollCall) (status : Int) :
    s.queuedFrames =
      (s.removals ++ [(⟨frame, call, status⟩ : Removal)]).map Removal.frame ++ rest := by
  rw [List.map_append, List.append_assoc]
  exact inv.order.trans (congrArg _ queued)

theorem Inv.served_removed (inv : s.Inv) {call : PollCall} {status : Int}
    (answered : status = if call.capacities.Holds frame then call.success else call.failure) :
    ∀ removal ∈ s.removals ++ [(⟨frame, call, status⟩ : Removal)],
      removal.status = if removal.Fits then removal.call.success else removal.call.failure := by
  intro removal removed
  cases List.mem_append.mp removed with
  | inl before => exact inv.served removal before
  | inr last =>
      rw [List.mem_singleton.mp last]
      exact answered

end removed

theorem Inv.poll (inv : s.Inv) {call : PollCall} {t : PollSystem} (polled : s.Polled bounds call t) :
    t.Inv := by
  cases polled with
  | kept _ => exact inv
  | overflowed raised => exact { inv with owed := nofun }
  | @lost frame rest short queued tooLarge =>
      have lost : ¬ Removal.Fits ⟨frame, call, call.failure⟩ := tooLarge
      exact {
        inv with
        order := inv.order_removed queued call call.failure
        bounded := inv.bounded_rest queued
        served := inv.served_removed (if_neg tooLarge).symm
        returned := by simpa [List.filter_append, lost] using inv.returned
        owed := nofun }
  | @served frame rest roomy queued holds =>
      have fits : Removal.Fits ⟨frame, call, call.success⟩ := holds
      exact {
        inv with
        order := inv.order_removed queued call call.success
        bounded := inv.bounded_rest queued
        served := inv.served_removed (if_pos holds).symm
        returned := by simpa [List.filter_append, fits] using inv.returned
        owed := inv.owed }

/-- An accepted frame is at the end of the queue, or the queue was full and says so. -/
theorem Inv.arrive (inv : s.Inv) (event : Option MqttDataEvent) : (s.arrive bounds event).Inv := by
  rw [PollSystem.arrive]
  cases accepted : MqttDataEvent.accepted bounds event with
  | none =>
      obtain ⟨queue, overflow⟩ :=
        InboundCarrier.networkMqttEvent_of_not_accepted (c := s.carrier) accepted
      exact {
        inv with
        order := inv.order.trans (congrArg _ queue.symm)
        bounded := queue ▸ inv.bounded
        owed := fun owed => overflow.trans (inv.owed owed) }
  | some frame =>
      rw [InboundCarrier.networkMqttEvent_of_accepted accepted]
      by_cases room : s.carrier.eventQueue.length < networkEventCapacity
      · obtain ⟨queue, overflow⟩ := InboundCarrier.queueFrame_of_room frame room
        have grows : s.carrier.eventQueue.length <
            (s.carrier.queueFrame frame).eventQueue.length := by
          rw [queue, List.length_append]
          exact Nat.lt_succ_self _
        simp only [decide_eq_true grows, Bool.not_true, Bool.or_false]
        exact {
          inv with
          order := by
            rw [queue, ← List.append_assoc, ← inv.order]
            simp [queuedFrames]
          bounded := by
            rw [queue, List.length_append]
            exact room
          refused := by
            intro arrival arrived refused
            cases List.mem_append.mp arrived with
            | inl before => exact inv.refused arrival before refused
            | inr last =>
                rw [List.mem_singleton.mp last] at refused
                cases refused
          owed := fun owed => overflow.trans (inv.owed owed) }
      · obtain ⟨queue, overflow⟩ := InboundCarrier.queueFrame_of_full frame room
        have full : s.carrier.eventQueue.length = networkEventCapacity := by
          have := inv.bounded
          omega
        have stays : ¬ s.carrier.eventQueue.length <
            (s.carrier.queueFrame frame).eventQueue.length := by
          rw [queue]
          exact Nat.lt_irrefl _
        simp only [decide_eq_false stays, Bool.not_false, Bool.or_true]
        exact {
          inv with
          order := by
            rw [queue, ← inv.order]
            simp [queuedFrames]
          bounded := queue ▸ inv.bounded
          refused := by
            intro arrival arrived refused
            cases List.mem_append.mp arrived with
            | inl before => exact inv.refused arrival before refused
            | inr last =>
                rw [List.mem_singleton.mp last]
                exact full
          owed := fun _ => overflow }

theorem Inv.step {t : PollSystem} {label : PollLabel} (inv : s.Inv)
    (taken : s.next bounds label = some t) : t.Inv := by
  cases label with
  | connected | disconnected | subscribed =>
      cases taken
      exact { inv with }
  | data event =>
      cases taken
      exact inv.arrive event
  | poll call =>
      cases taken
      exact inv.poll (polled s call)

/-! ## The contract of a run -/

theorem answer_of_owed (inv : s.Inv) (owed : s.owed = true) {call : PollCall}
    (reaches : s.Reaches bounds call) : (s.answer bounds call).1 = call.failure := by
  have raised := inv.owed owed
  obtain ⟨result, stored, polled, status, message⟩ := polled_of_reaches reaches
  rw [status]
  generalize (s.answer bounds call).2.1 = carrier at polled
  cases polled with
  | overflowed _ => exact call.report_failure
  | idle cleared _ _ | lost cleared _ _ _ | served cleared _ _ _ _ _ =>
      rw [cleared] at raised
      cases raised

/-- The carrier answers with the oldest frame, or fails where it is too large. -/
theorem answer_of_queued {call : PollCall} (reaches : s.Reaches bounds call)
    (cleared : s.carrier.overflowBit = false) (connected : s.carrier.connectedBit = true)
    {frame : Message} {rest : List Message} (queued : s.carrier.eventQueue = frame :: rest) :
    if call.capacities.Holds frame then
      (s.answer bounds call).1 = call.success ∧ (s.answer bounds call).2.2.message = frame ∧
        (s.poll bounds call).carrier.eventQueue = s.carrier.eventQueue.tail
    else (s.answer bounds call).1 = call.failure := by
  obtain ⟨result, stored, polled, status, message⟩ := polled_of_reaches reaches
  have same : (s.poll bounds call).carrier = (s.answer bounds call).2.1 := rfl
  rw [same, status]
  generalize (s.answer bounds call).2.1 = carrier at polled ⊢
  cases polled with
  | overflowed raised =>
      rw [raised] at cleared
      cases cleared
  | idle _ nothing _ =>
      rw [nothing connected] at queued
      cases queued
  | lost _ _ held tooLarge =>
      cases queued.symm.trans held
      rw [if_neg tooLarge]
      exact call.report_failure
  | served _ held holds _ _ read =>
      cases queued.symm.trans held
      rw [if_pos holds, queued]
      exact ⟨call.report_success, (message rfl).trans read, rfl⟩

/-- Every frame removed so far had room. -/
def AllFit (s : PollSystem) : Prop := ∀ removal ∈ s.removals, removal.Fits

theorem Inv.kept_iff (inv : s.Inv) : s.Kept bounds ↔ s.AllFit := by
  constructor
  · intro kept removal removed
    by_contra tooLarge
    have failed := inv.served removal removed
    rw [if_neg tooLarge, kept.succeeded removal removed] at failed
    exact removal.call.success_ne_failure failed
  · intro fit
    have once : s.removals.map Removal.frame = s.returned := by
      rw [inv.returned, List.filter_eq_self.mpr fun removal removed =>
        decide_eq_true (fit removal removed)]
    exact {
      order := once ▸ inv.order
      once := once
      succeeded := fun removal removed =>
        (inv.served removal removed).trans (if_pos (fit removal removed))
      refused := inv.refused
      reported := fun owed _ reaches => answer_of_owed inv owed reaches
      oldest := by
        intro call reaches cleared connected frame first
        obtain ⟨rest, queued⟩ := List.head?_eq_some_iff.mp first
        exact answer_of_queued reaches cleared connected queued
      turnedAway := fun _ turnedAway => answer_of_not_reaches turnedAway }

/-- A poll keeps the frames removed fitting exactly where it is roomy. -/
theorem allFit_of_polled {call : PollCall} {t : PollSystem} (polled : s.Polled bounds call t) :
    t.AllFit ↔ s.AllFit ∧ s.Roomy bounds (.poll call) := by
  cases polled with
  | kept roomy => exact (and_iff_left roomy).symm
  | overflowed raised =>
      have roomy : s.Roomy bounds (.poll call) := fun _ cleared =>
        absurd (raised.symm.trans cleared) (by decide)
      exact (and_iff_left roomy).symm
  | @lost frame rest short queued tooLarge =>
      constructor
      · intro fit
        exact absurd (fit ⟨frame, call, call.failure⟩ (List.mem_concat_self ..)) tooLarge
      · exact fun met => absurd met.2 short
  | @served frame rest roomy queued holds =>
      have last : Removal.Fits ⟨frame, call, call.success⟩ := holds
      constructor
      · exact fun fit => ⟨fun removal removed => fit removal (List.mem_append_left _ removed), roomy⟩
      · intro met removal removed
        cases List.mem_append.mp removed with
        | inl before => exact met.1 removal before
        | inr added => exact List.mem_singleton.mp added ▸ last

theorem allFit_of_next {label : PollLabel} {t : PollSystem}
    (taken : s.next bounds label = some t) :
    t.AllFit ↔ s.AllFit ∧ s.Roomy bounds label := by
  cases label with
  | connected | disconnected | subscribed =>
      cases taken
      exact (and_iff_left trivial).symm
  | data event =>
      cases taken
      have same : (s.arrive bounds event).removals = s.removals := by
        rw [arrive]
        split <;> rfl
      rw [AllFit, same]
      exact (and_iff_left trivial).symm
  | poll call =>
      cases taken
      exact allFit_of_polled (polled s call)

/-- The history holds every message classified ACCEPT, in the order of arrival. -/
theorem arrivals_of_run {probe : Message} {oversizedCount : BitVec 32} {labels : List PollLabel}
    (run : Run (next bounds) unguarded (.opened probe oversizedCount) labels s) :
    s.arrivals.map Arrival.frame = labels.filterMap (PollLabel.accepted bounds) := by
  induction run with
  | nil => rfl
  | @snoc t u labels label _ _ taken ih =>
      rw [List.filterMap_append, ← ih]
      cases label with
      | connected | disconnected | subscribed =>
          cases taken
          simp [PollLabel.accepted]
      | data event =>
          cases taken
          rw [arrive]
          cases accepted : MqttDataEvent.accepted bounds event with
          | none => simp [PollLabel.accepted, accepted]
          | some frame => simp [PollLabel.accepted, accepted]
      | poll call =>
          cases taken
          simp [PollLabel.accepted, poll]

/-- In any run of a session the contract holds exactly if no poll of the run took a frame
that it had no room for. -/
theorem kept_iff_roomy {probe : Message} {oversizedCount : BitVec 32} {labels : List PollLabel}
    (run : Run (next bounds) unguarded (.opened probe oversizedCount) labels s) :
    s.arrivals.map Arrival.frame = labels.filterMap (PollLabel.accepted bounds) ∧
      (s.Kept bounds ↔
        Run (next bounds) (Roomy bounds) (.opened probe oversizedCount) labels s) := by
  have inv : s.Inv := run.invariant (.opened probe oversizedCount) fun inv _ taken => inv.step taken
  refine ⟨arrivals_of_run run, inv.kept_iff.trans ?_⟩
  exact run.guarded_iff nofun fun taken => allFit_of_next taken

/-! ## A full queue, and a frame too large for the caller -/

/-- A complete event with the topic `ab` and one byte of payload. -/
def twoByteEvent : Option MqttDataEvent :=
  some ⟨some (Memory.ofList [0x61, 0x62]), 2, some (Memory.ofList [1]), 1, 1, 0⟩

/-- An application's poll with room for a topic of this length. -/
def pollOf (topicCapacity : BitVec 32) : PollCall := .v1 true topicCapacity 2048 blankStorage

/-- The loopback probe of the session. -/
def probe : Message := ⟨[0x70], [0]⟩

/-- Five frames arrive, one more than the queue holds. The first poll reports the refusal
and the second has room for the oldest frame. -/
def fullQueueLabels : List PollLabel :=
  [.connected, .subscribed, .data twoByteEvent, .data twoByteEvent, .data twoByteEvent,
    .data twoByteEvent, .data twoByteEvent, .poll (pollOf 256), .poll (pollOf 256)]

theorem kept_iff_roomy_fullQueue : ∃ s : PollSystem,
    Run (next smokeBounds) unguarded (.opened probe 0) fullQueueLabels s ∧
      s.arrivals.map Arrival.queued = [true, true, true, true, false] ∧
      s.returned = [⟨[0x61, 0x62], [1]⟩] ∧ s.carrier.eventQueue.length = 3 ∧
      s.Kept smokeBounds := by
  obtain ⟨s, roomy, seen⟩ := exists_run_of_exec
    (show (exec (next smokeBounds) (Roomy smokeBounds) (.opened probe 0) fullQueueLabels).map
      (fun s => decide (s.arrivals.map Arrival.queued = [true, true, true, true, false] ∧
        s.returned = [⟨[0x61, 0x62], [1]⟩] ∧ s.carrier.eventQueue.length = 3)) = some true by
          decide)
  obtain ⟨arrived, returned, queued⟩ := of_decide_eq_true seen
  have run : Run (next smokeBounds) unguarded (.opened probe 0) fullQueueLabels s :=
    roomy.mono fun _ => trivial
  exact ⟨s, run, arrived, returned, queued, (kept_iff_roomy run).2.mpr roomy⟩

/-- The frame arrives, and a poll has room for one byte of its topic. -/
def shortPollLabels : List PollLabel :=
  [.connected, .subscribed, .data twoByteEvent, .poll (pollOf 1)]

/-- The queue took the frame, the poll with too little room failed, and a poll with
room finds nothing: the frame is neither returned nor queued, and was not refused. -/
theorem short_poll_loses_frame : ∃ s : PollSystem,
    Run (next smokeBounds) unguarded (.opened probe 0) shortPollLabels s ∧
      s.queuedFrames = [⟨[0x61, 0x62], [1]⟩] ∧
      s.removals.map Removal.status = [abiStatusFailed] ∧
      s.carrier.eventQueue = [] ∧ s.returned = [] ∧
      (s.answer smokeBounds (pollOf 256)).1 = abiStatusNoEvent := by
  obtain ⟨s, run, seen⟩ := exists_run_of_exec
    (show (exec (next smokeBounds) unguarded (.opened probe 0) shortPollLabels).map
      (fun s => decide (s.queuedFrames = [⟨[0x61, 0x62], [1]⟩] ∧
        s.removals.map Removal.status = [abiStatusFailed] ∧
        s.carrier.eventQueue = [] ∧ s.returned = [] ∧
        (s.answer smokeBounds (pollOf 256)).1 = abiStatusNoEvent)) = some true by decide)
  exact ⟨s, run, of_decide_eq_true seen⟩

end PollSystem
end AxolotyEmbedded.Mqtt
