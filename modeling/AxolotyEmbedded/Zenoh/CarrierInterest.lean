import AxolotyEmbedded.Library.Transition
import AxolotyEmbedded.Zenoh.CarrierSlots

/-!
Publishing against the slots. The guard of `publish` reads the phase, and the phase
stays at subscribed when the last subscription is removed: a message reaches the
session without one exactly after such a removal.
-/
namespace AxolotyEmbedded.Zenoh
open Transition

variable {Token : Type} {bounds : CarrierBounds}

/-- An active slot has a handle and a key that was admitted. -/
def ZenohCarrierSlot.Sound (bounds : CarrierBounds) (slot : ZenohCarrierSlot Token) : Prop :=
  slot.active = true → slot.subscription.isSome = true ∧ slot.key ≠ [] ∧
    slot.key.length ≤ bounds.maxTopicBytes

theorem ZenohCarrierSlot.sound_unused : (unused : ZenohCarrierSlot Token).Sound bounds :=
  fun active => by cases active

theorem ZenohCarrier.sound_setSlotAt {carrier : ZenohCarrier Token}
    {index : Fin maximumSubscriptions} {slot : ZenohCarrierSlot Token}
    (sound : ∀ other, (carrier.slots other).Sound bounds) (stored : slot.Sound bounds)
    (other : Fin maximumSubscriptions) : ((carrier.setSlotAt index slot).slots other).Sound bounds := by
  by_cases same : other = index
  · rw [same, carrier.setSlotAt_self]
    exact stored
  · rw [carrier.setSlotAt_of_ne slot same]
    exact sound other

theorem ZenohCarrier.activeSlotCount_pos {carrier : ZenohCarrier Token} :
    0 < carrier.activeSlotCount ↔ ∃ index, (carrier.slots index).active = true := by
  simp [activeSlotCount, List.countP_pos_iff]

namespace CarrierSystem
variable {s t : CarrierSystem Token}

/-- Whatever the session answers: the slots are sound, and only a subscribed carrier
has an active one. -/
structure Standing (bounds : CarrierBounds) (s : CarrierSystem Token) : Prop where
  sound : ∀ index, (s.carrier.slots index).Sound bounds
  closed : s.carrier.phase ≠ .subscribed → ∀ index, (s.carrier.slots index).active = false

theorem Standing.initial : Standing bounds (initial : CarrierSystem Token) where
  sound _ := ZenohCarrierSlot.sound_unused
  closed _ _ := rfl

theorem Standing.keepsSlots (standing : s.Standing bounds) (keeps : s.KeepsSlots t) :
    t.Standing bounds where
  sound := by
    rw [keeps.slots]
    exact standing.sound
  closed other := by
    rw [keeps.slots]
    exact standing.closed (keeps.phase ▸ other)

/-! ## What a call does to the slots -/

/-- How a call leaves the phase and the slots. -/
inductive SlotStep (bounds : CarrierBounds) (s : CarrierSystem Token) (call : CarrierCall Token)
    (t : CarrierSystem Token) : Prop
  | keeps (keeps : s.KeepsSlots t)
  | opens (before : s.carrier.phase = .idle ∨ s.carrier.phase = .disconnected)
      (phase : t.carrier.phase = .connected) (slots : t.carrier.slots = s.carrier.slots)
  | fills {topic : List UInt8} {handle : Token} {free : Fin maximumSubscriptions}
      (nonempty : topic ≠ []) (bounded : topic.length ≤ bounds.maxTopicBytes)
      (phase : t.carrier.phase = .subscribed)
      (slots : t.carrier.slots = (s.carrier.setSlotAt free ⟨true, topic, some handle⟩).slots)
  | removes {topic : List UInt8} {index : Fin maximumSubscriptions}
      (named : call = .unsubscribe topic .ok) (found : s.carrier.findSlot topic = some index)
      (before : s.carrier.phase = .subscribed) (phase : t.carrier.phase = .subscribed)
      (slots : t.carrier.slots = (s.carrier.setSlotAt index .unused).slots)
  | closes (phase : t.carrier.phase = .disconnected) (slots : t.carrier.slots = fun _ => .unused)

variable [DecidableEq Token]

theorem granted_of_unsubscribed {topic : List UInt8} {result : ZenohResult}
    (removed : (s.unsubscribe bounds topic result).1 = true) : result = .ok := by
  unfold unsubscribe at removed
  split at removed
  · split at removed
    · cases removed
    · split at removed
      · cases removed
      · dsimp only at removed
        split at removed
        · assumption
        · cases removed
  · cases removed

theorem slotStep_of_next {call : CarrierCall Token} (called : s.next bounds call = some t) :
    s.SlotStep bounds call t := by
  cases call with
  | connect endpointLength opened routers =>
      cases called
      rcases s.connect_cases endpointLength opened routers with
        ⟨t, eq, keeps⟩ | ⟨t, eq, before, u, observed, keeps, rfl⟩ <;> rw [eq]
      · exact .keeps (keeps.toKeepsSlots.trans (keepsSlots_returning ..))
      · exact .opens before rfl keeps.slots
  | subscribe topic answer =>
      cases called
      rcases s.subscribe_cases bounds topic answer with
        ⟨t, eq, keeps⟩ | ⟨eq, _⟩ | ⟨handle, t, _, eq, -, nonempty, bounded, -, free, -, rfl⟩ <;>
        rw [eq]
      · exact .keeps (keeps.toKeepsSlots.trans (keepsSlots_returning ..))
      · exact .keeps (keepsSlots_returning ..)
      · exact .fills nonempty bounded rfl rfl
  | unsubscribe topic result =>
      cases called
      rcases s.unsubscribe_cases bounds topic result with
        ⟨t, eq, keeps⟩ | ⟨t, eq, before, index, handle, found, -, rfl⟩
      · rw [eq]
        exact .keeps (keeps.toKeepsSlots.trans (keepsSlots_returning ..))
      · obtain rfl := granted_of_unsubscribed (show (s.unsubscribe bounds topic result).1 = true by
          rw [eq])
        rw [eq]
        exact .removes rfl found before before rfl
  | publish message result =>
      cases called
      exact .keeps ((s.publish_keeps bounds message result).toKeepsSlots.trans
        (keepsSlots_returning ..))
  | pollOneEvent capacities storage reading answers =>
      cases called
      exact .keeps (s.polls bounds capacities storage reading answers).keepsSlots
  | waitForReconnect deadlineMS start first rounds =>
      obtain ⟨⟨value, t⟩, returned, rfl⟩ := Option.map_eq_some_iff.mp called
      exact .keeps ((keeps_waitForReconnect returned).toKeepsSlots.trans (keepsSlots_returning ..))
  | disconnect unsubscribed closed =>
      cases called
      rcases s.disconnect_cases unsubscribed closed with ⟨eq, _⟩ | ⟨t, eq, closes⟩ <;> rw [eq]
      · exact .keeps (keepsSlots_returning ..)
      · exact .closes closes.phase closes.slots

theorem Standing.next {call : CarrierCall Token} (standing : s.Standing bounds)
    (called : s.next bounds call = some t) : t.Standing bounds := by
  cases slotStep_of_next called with
  | keeps keeps => exact standing.keepsSlots keeps
  | opens before phase slots =>
      refine ⟨slots ▸ standing.sound, fun _ => slots ▸ standing.closed ?_⟩
      obtain idle | disconnected := before
      · simp [idle]
      · simp [disconnected]
  | fills nonempty bounded phase slots =>
      refine ⟨slots ▸ ZenohCarrier.sound_setSlotAt standing.sound ?_, fun other => absurd phase other⟩
      exact fun _ => ⟨rfl, nonempty, bounded⟩
  | removes _ _ _ phase slots =>
      refine ⟨slots ▸ ZenohCarrier.sound_setSlotAt standing.sound ?_, fun other => absurd phase other⟩
      exact ZenohCarrierSlot.sound_unused
  | closes phase slots =>
      refine ⟨?_, fun _ index => by rw [slots]; rfl⟩
      rw [slots]
      exact fun _ => ZenohCarrierSlot.sound_unused

theorem Standing.of_run {calls : List (CarrierCall Token)}
    (run : Run (CarrierSystem.next bounds) unguarded .initial calls s) : s.Standing bounds :=
  run.invariant .initial fun standing _ called => standing.next called

/-! ## Publishing -/

/-- A publish reaches the session in the subscribed phase only, and can there. -/
theorem publish_reaches_iff (s : CarrierSystem Token) (bounds : CarrierBounds) :
    (∃ message result t, s.next bounds (.publish message result) = some t ∧
      t.session.published ≠ s.session.published) ↔ s.carrier.phase = .subscribed := by
  constructor
  · rintro ⟨message, result, t, called, passed⟩
    cases called
    by_contra other
    refine passed ?_
    simp only [publish, other, false_and, if_false]
    rfl
  · intro subscribed
    refine ⟨⟨[0x61], []⟩, .ok, _, rfl, ?_⟩
    have admitted : s.carrier.phase = .subscribed ∧ ([0x61] : List UInt8) ≠ [] ∧
        ([0x61] : List UInt8).length ≤ bounds.maxTopicBytes ∧
          ([] : List UInt8).length ≤ bounds.maxPayloadBytes :=
      ⟨subscribed, by simp, bounds.topicPositive, Nat.zero_le _⟩
    have valid : KeyExpression.isValidPublication [0x61] = true := by decide
    simp only [publish, admitted, valid, and_self, if_true]
    simp [returning, notePublishOutcome, count, SessionView.publish]

/-- The session is reached with a subscription only. -/
def Interested (s : CarrierSystem Token) : Prop :=
  s.carrier.phase = .subscribed → 0 < s.carrier.activeSlotCount

/-- An `unsubscribe` that the session grants and that names the one active slot. -/
def RemovesLast (s : CarrierSystem Token) : CarrierCall Token → Prop
  | .unsubscribe topic result => result = .ok ∧
      ∃ index, s.carrier.findSlot topic = some index ∧
        ∀ other, (s.carrier.slots other).active = true → other = index
  | _ => False

theorem Interested.next {call : CarrierCall Token} (interested : s.Interested)
    (another : ¬ s.RemovesLast call) (called : s.next bounds call = some t) : t.Interested := by
  intro subscribed
  rw [ZenohCarrier.activeSlotCount_pos]
  cases slotStep_of_next called with
  | keeps keeps =>
      rw [keeps.slots, ← ZenohCarrier.activeSlotCount_pos]
      exact interested (keeps.phase ▸ subscribed)
  | opens _ phase => rw [phase] at subscribed; cases subscribed
  | @fills topic handle free _ _ _ slots =>
      refine ⟨free, ?_⟩
      rw [slots, s.carrier.setSlotAt_self]
  | @removes topic index named found _ _ slots =>
      subst named
      by_contra none
      refine another ⟨rfl, index, found, fun other active => ?_⟩
      by_contra ne
      refine none ⟨other, ?_⟩
      rwa [slots, s.carrier.setSlotAt_of_ne .unused ne]
  | closes phase => rw [phase] at subscribed; cases subscribed

/-- An `unsubscribe` of an active key that the session grants succeeds. -/
theorem Standing.unsubscribed {topic : List UInt8} {index : Fin maximumSubscriptions}
    (standing : s.Standing bounds) (found : s.carrier.findSlot topic = some index) :
    (s.unsubscribe bounds topic .ok).1 = true := by
  obtain ⟨active, key⟩ := ZenohCarrier.findSlot_eq_some found
  obtain ⟨held, nonempty, bounded⟩ := standing.sound index active
  obtain ⟨handle, holds⟩ := Option.isSome_iff_exists.mp held
  rw [key] at nonempty bounded
  have subscribed : s.carrier.phase = .subscribed := by
    by_contra other
    have inactive := standing.closed other index
    rw [active] at inactive
    cases inactive
  have admitted : s.carrier.phase = .subscribed ∧ topic ≠ [] ∧
      topic.length ≤ bounds.maxTopicBytes := ⟨subscribed, nonempty, bounded⟩
  rw [unsubscribe, if_pos admitted]
  simp only [found, holds, if_true]

/-- Removing the last subscription leaves the carrier subscribed without one. -/
theorem Standing.not_interested {call : CarrierCall Token} (standing : s.Standing bounds)
    (last : s.RemovesLast call) (called : s.next bounds call = some t) : ¬ t.Interested := by
  cases call with
  | unsubscribe topic result =>
      obtain ⟨rfl, index, found, only⟩ := last
      have removed := standing.unsubscribed found
      cases called
      rcases s.unsubscribe_cases bounds topic .ok with
        ⟨t, eq, _⟩ | ⟨t, eq, before, index', handle, found', -, rfl⟩
      · rw [eq] at removed
        cases removed
      · obtain rfl := Option.some.inj (found.symm.trans found')
        rw [eq]
        intro interested
        obtain ⟨other, active⟩ := ZenohCarrier.activeSlotCount_pos.mp (interested before)
        change ((s.carrier.setSlotAt index .unused).slots other).active = true at active
        by_cases same : other = index
        · rw [same, s.carrier.setSlotAt_self] at active
          cases active
        · rw [s.carrier.setSlotAt_of_ne .unused same] at active
          exact same (only other active)
  | _ => exact last.elim

/-- In a run, whatever the session answers, every publish that reaches the session does
so with an active subscription exactly when no `unsubscribe` of the run removes the last
one. -/
theorem published_subscribed_iff {calls : List (CarrierCall Token)}
    (run : Run (CarrierSystem.next bounds) unguarded .initial calls s) :
    (∀ before u, before <+: calls → Run (CarrierSystem.next bounds) unguarded .initial before u →
      ∀ message result v, u.next bounds (.publish message result) = some v →
        v.session.published ≠ u.session.published → 0 < u.carrier.activeSlotCount) ↔
      ∀ before call u, before ++ [call] <+: calls →
        Run (CarrierSystem.next bounds) unguarded .initial before u → ¬ u.RemovesLast call := by
  have whole : (∀ before u, before <+: calls →
      Run (CarrierSystem.next bounds) unguarded .initial before u →
        u.Standing bounds ∧ u.Interested) ↔
      ∀ before call u, before ++ [call] <+: calls →
        Run (CarrierSystem.next bounds) unguarded .initial before u → ¬ u.RemovesLast call :=
    run.forall_good_iff ⟨.initial, fun subscribed => by cases subscribed⟩
      (fun good met called => ⟨good.1.next called, good.2.next met called⟩)
      (fun good unmet called after => good.1.not_interested (not_not.mp unmet) called after.2)
  rw [← whole]
  refine forall₂_congr fun before u => forall₂_congr fun _ first => ?_
  have standing := Standing.of_run first
  constructor
  · intro published
    refine ⟨standing, fun subscribed => ?_⟩
    obtain ⟨message, result, v, called, passed⟩ := (u.publish_reaches_iff bounds).mpr subscribed
    exact published message result v called passed
  · rintro ⟨-, interested⟩ message result v called passed
    exact interested ((u.publish_reaches_iff bounds).mp ⟨message, result, v, called, passed⟩)

def noteMessage : Message := ⟨[0x61], [1]⟩

/-- Nothing is removed before the message is published. -/
def publishingCalls : List (CarrierCall Nat) :=
  [.connect 5 .ok (.ok 1), .subscribe [0x61] (.ok 3), .publish noteMessage .ok]

theorem published_subscribed : ∃ s : CarrierSystem Nat, s.session.published = [noteMessage] ∧
    ∀ before u, before <+: publishingCalls →
      Run (CarrierSystem.next smokeBounds) unguarded .initial before u →
        ∀ message result v, u.next smokeBounds (.publish message result) = some v →
          v.session.published ≠ u.session.published → 0 < u.carrier.activeSlotCount := by
  obtain ⟨s, run, seen⟩ := exists_run_of_exec
    (show (exec (CarrierSystem.next smokeBounds) unguarded .initial publishingCalls).map
      (fun s => decide (s.session.published = [noteMessage])) = some true by decide)
  refine ⟨s, of_decide_eq_true seen, (published_subscribed_iff run).mpr ?_⟩
  intro before call u within _ last
  have member : call ∈ publishingCalls := within.subset (by simp)
  simp only [publishingCalls, List.mem_cons, List.not_mem_nil, or_false] at member
  obtain rfl | rfl | rfl := member <;> exact last

/-- The one subscription is removed, and the message still reaches the session. -/
def orphanedCalls : List (CarrierCall Nat) :=
  [.connect 5 .ok (.ok 1), .subscribe [0x61] (.ok 3), .unsubscribe [0x61] .ok]

theorem published_unsubscribed : ∃ s t : CarrierSystem Nat,
    Run (CarrierSystem.next smokeBounds) unguarded .initial orphanedCalls s ∧
      s.carrier.activeSlotCount = 0 ∧ s.next smokeBounds (.publish noteMessage .ok) = some t ∧
        t.session.published = [noteMessage] ∧ t.reply = some (.done true) := by
  obtain ⟨s, run, seen⟩ := exists_run_of_exec
    (show (exec (CarrierSystem.next smokeBounds) unguarded .initial orphanedCalls).map
      (fun s => decide (s.carrier.activeSlotCount = 0 ∧
        (s.publish smokeBounds noteMessage .ok).2.session.published = [noteMessage] ∧
          (s.publish smokeBounds noteMessage .ok).1 = true)) = some true by decide)
  obtain ⟨none, published, accepted⟩ := of_decide_eq_true seen
  refine ⟨s, _, run, none, rfl, published, ?_⟩
  rw [returning, accepted]

end CarrierSystem
end AxolotyEmbedded.Zenoh
