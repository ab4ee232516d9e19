import AxolotyEmbedded.Library.Table
import AxolotyEmbedded.Library.Transition
import AxolotyEmbedded.Zenoh.CarrierCalls

/-!
The slot table against the session's live declarations. A run is one in which
the session names each new declaration by a token that no live declaration has;
then the active slots are the live declarations, and the gauge counts them.
-/
namespace AxolotyEmbedded.Zenoh
open Transition
variable {Token : Type}

/-- What an active slot stands for. -/
def ZenohCarrierSlot.declaration (slot : ZenohCarrierSlot Token) : Option (Declaration Token) :=
  if slot.active then slot.subscription.map fun handle => ⟨handle, slot.key⟩ else none

/-- The declarations of the active slots, in the order of the slots. -/
def ZenohCarrier.declarations (carrier : ZenohCarrier Token) : List (Declaration Token) :=
  Table.entries fun index => (carrier.slots index).declaration

theorem ZenohCarrier.findSlot_eq_some {carrier : ZenohCarrier Token} {key : List UInt8}
    {index : Fin maximumSubscriptions} (found : carrier.findSlot key = some index) :
    (carrier.slots index).active = true ∧ (carrier.slots index).key = key := by
  have holds := List.find?_some found
  simpa using holds

theorem ZenohCarrier.findSlot_eq_none {carrier : ZenohCarrier Token} {key : List UInt8}
    (undeclared : carrier.findSlot key = none) (index : Fin maximumSubscriptions)
    (active : (carrier.slots index).active = true) : (carrier.slots index).key ≠ key := by
  have absent := List.find?_eq_none.mp undeclared index (List.mem_finRange index)
  simpa [active] using absent

theorem ZenohCarrier.findFreeSlot_eq_some {carrier : ZenohCarrier Token}
    {index : Fin maximumSubscriptions} (found : carrier.findFreeSlot = some index) :
    (carrier.slots index).active = false := by
  have free := List.find?_some found
  simpa using free

/-- The slots after one is stored, as declarations. -/
theorem ZenohCarrier.declaration_setSlotAt (carrier : ZenohCarrier Token)
    (index : Fin maximumSubscriptions) (slot : ZenohCarrierSlot Token) :
    (fun other => ((carrier.setSlotAt index slot).slots other).declaration) =
      Function.update (fun other => (carrier.slots other).declaration) index slot.declaration := by
  funext other
  by_cases same : other = index
  · subst same
    simp [ZenohCarrier.setSlotAt]
  · simp [ZenohCarrier.setSlotAt, same]

theorem ZenohCarrier.perm_declarations_fill {carrier : ZenohCarrier Token}
    {index : Fin maximumSubscriptions} {slot : ZenohCarrierSlot Token}
    {declaration : Declaration Token} (free : (carrier.slots index).active = false)
    (stands : slot.declaration = some declaration) :
    (carrier.setSlotAt index slot).declarations.Perm (declaration :: carrier.declarations) := by
  rw [declarations, declaration_setSlotAt, stands]
  exact Table.perm_entries_fill (by simp [ZenohCarrierSlot.declaration, free])

theorem ZenohCarrier.perm_declarations_clear {carrier : ZenohCarrier Token}
    {index : Fin maximumSubscriptions} {declaration : Declaration Token}
    (stands : (carrier.slots index).declaration = some declaration) :
    carrier.declarations.Perm (declaration :: (carrier.setSlotAt index .unused).declarations) := by
  rw [declarations, declarations, declaration_setSlotAt]
  exact Table.perm_entries_clear stands

/-- Storing one slot leaves the others. -/
theorem ZenohCarrier.setSlotAt_of_ne (carrier : ZenohCarrier Token)
    {index other : Fin maximumSubscriptions} (slot : ZenohCarrierSlot Token) (ne : other ≠ index) :
    (carrier.setSlotAt index slot).slots other = carrier.slots other :=
  Function.update_of_ne ne ..

theorem ZenohCarrier.setSlotAt_self (carrier : ZenohCarrier Token)
    (index : Fin maximumSubscriptions) (slot : ZenohCarrierSlot Token) :
    (carrier.setSlotAt index slot).slots index = slot :=
  Function.update_self ..

/-- The session names a new declaration apart from the live ones. -/
def CarrierSystem.TokensFresh (s : CarrierSystem Token) : CarrierCall Token → Prop
  | .subscribe _ answer =>
      ∀ handle ∈ answer.toOption, ∀ declaration ∈ s.session.live, declaration.token ≠ handle
  | _ => True

namespace CarrierSystem
variable {s t : CarrierSystem Token}

instance [DecidableEq Token] (s : CarrierSystem Token) :
    (call : CarrierCall Token) → Decidable (s.TokensFresh call)
  | .subscribe _ answer =>
      inferInstanceAs (Decidable (∀ handle ∈ answer.toOption, _))
  | .connect .. | .unsubscribe .. | .publish .. | .pollOneEvent .. | .waitForReconnect ..
  | .disconnect .. => inferInstanceAs (Decidable True)

/-! ## The invariant -/

/-- The active slots are the live declarations, under keys of their own. -/
structure Mirrors (s : CarrierSystem Token) : Prop where
  declared : s.carrier.declarations.Perm s.session.live
  tokens : (s.session.live.map Declaration.token).Nodup
  held : ∀ index, (s.carrier.slots index).active = true →
    (s.carrier.slots index).subscription.isSome = true
  distinct : ∀ first second, (s.carrier.slots first).active = true →
    (s.carrier.slots second).active = true →
      (s.carrier.slots first).key = (s.carrier.slots second).key → first = second
  closed : s.carrier.phase ≠ .subscribed → ∀ index, (s.carrier.slots index).active = false

structure SlotsInv (s : CarrierSystem Token) : Prop extends Mirrors s where
  gauge : s.diagnostics.activeSubscriptions = BitVec.ofNat 32 s.carrier.activeSlotCount
  peak : s.diagnostics.activeSubscriptions ≤ s.diagnostics.activeSubscriptionsPeak

/-- Publishing the gauge makes it right. -/
theorem Mirrors.publishSubscriptionGauge (mirrors : s.Mirrors) :
    s.publishSubscriptionGauge.SlotsInv where
  toMirrors := ⟨mirrors.declared, mirrors.tokens, mirrors.held, mirrors.distinct, mirrors.closed⟩
  gauge := rfl
  peak := CarrierDiagnostics.le_peak_setActiveSubscriptions ..

/-- No slot is active and nothing is live. -/
theorem Mirrors.of_unused (slots : s.carrier.slots = fun _ => .unused)
    (live : s.session.live = []) : s.Mirrors where
  declared := by
    rw [ZenohCarrier.declarations, slots, live]
    exact .refl _
  tokens := by
    rw [live]
    exact .nil
  held index active := by
    rw [slots] at active
    cases active
  distinct first _ active := by
    rw [slots] at active
    cases active
  closed _ index := by
    rw [slots]
    rfl

theorem SlotsInv.initial : (initial : CarrierSystem Token).SlotsInv where
  toMirrors := .of_unused rfl rfl
  gauge := rfl
  peak := BitVec.le_refl _

theorem SlotsInv.keepsSlots (inv : s.SlotsInv) (keeps : s.KeepsSlots t) : t.SlotsInv := by
  obtain ⟨⟨declared, tokens, held, distinct, closed⟩, gauge, peak⟩ := inv
  obtain ⟨phase', slots', live', gauge', peak'⟩ := keeps
  refine ⟨⟨?declared, ?tokens, ?held, ?distinct, ?closed⟩, ?gauge, ?peak⟩
  case declared => simpa only [ZenohCarrier.declarations, slots', live'] using declared
  case tokens => rwa [live']
  case held => rwa [slots']
  case distinct => rwa [slots']
  case closed => rwa [phase', slots']
  case gauge => simpa only [ZenohCarrier.activeSlotCount, gauge', slots'] using gauge
  case peak => rwa [gauge', peak']

/-- An active slot is a declaration, so both are counted alike. -/
theorem Mirrors.activeSlotCount_eq (mirrors : s.Mirrors) :
    s.carrier.activeSlotCount = s.carrier.declarations.length := by
  rw [ZenohCarrier.declarations, Table.entries, List.length_filterMap_eq_countP,
    ZenohCarrier.activeSlotCount]
  refine List.countP_congr fun index _ => ?_
  have held := mirrors.held index
  cases active : (s.carrier.slots index).active with
  | false => simp [ZenohCarrierSlot.declaration, active]
  | true => simpa [ZenohCarrierSlot.declaration, active] using held active

/-- A live key is the key of an active slot. -/
theorem Mirrors.exists_slot (mirrors : s.Mirrors) {declaration : Declaration Token}
    (live : declaration ∈ s.session.live) : ∃ index, (s.carrier.slots index).active = true ∧
      (s.carrier.slots index).key = declaration.key := by
  obtain ⟨index, holds⟩ := Table.mem_entries.mp (mirrors.declared.mem_iff.mpr live)
  refine ⟨index, ?_⟩
  unfold ZenohCarrierSlot.declaration at holds
  split at holds
  · rename_i active
    obtain ⟨handle, -, rfl⟩ := Option.map_eq_some_iff.mp holds
    exact ⟨active, rfl⟩
  · cases holds

/-! ## Declaring and undeclaring -/

variable {bounds : CarrierBounds}

theorem Opens.slotsInv (inv : s.SlotsInv) (opens : s.Opens t) : t.SlotsInv := by
  obtain ⟨before, u, observed, keeps, rfl⟩ := opens
  have kept := inv.keepsSlots keeps.toKeepsSlots
  refine Mirrors.publishSubscriptionGauge
    ⟨kept.declared, kept.tokens, kept.held, kept.distinct, fun _ => kept.closed ?_⟩
  rw [keeps.phase]
  rcases before with phase | phase <;> simp [phase]

theorem Declares.slotsInv {topic : List UInt8} {handle : Token} (inv : s.SlotsInv)
    (fresh : ∀ declaration ∈ s.session.live, declaration.token ≠ handle)
    (declares : s.Declares bounds topic handle t) : t.SlotsInv := by
  obtain ⟨before, -, -, undeclared, free, found, rfl⟩ := declares
  have notActive := ZenohCarrier.findFreeSlot_eq_some found
  have noKey := ZenohCarrier.findSlot_eq_none undeclared
  have stored := s.carrier.setSlotAt_self free ⟨true, topic, some handle⟩
  have others : ∀ other ≠ free, _ := fun other =>
    s.carrier.setSlotAt_of_ne ⟨true, topic, some handle⟩
  refine Mirrors.publishSubscriptionGauge ⟨?_, ?_, ?_, ?_, fun other => absurd rfl other⟩
  · exact (ZenohCarrier.perm_declarations_fill notActive rfl).trans
      ((inv.declared.cons _).trans (List.perm_append_singleton ..).symm)
  · have added : (s.session.subscribe topic handle).live.Perm (⟨handle, topic⟩ :: s.session.live) :=
      List.perm_append_singleton ..
    refine (added.map Declaration.token).nodup_iff.mpr (List.nodup_cons.mpr ⟨?_, inv.tokens⟩)
    intro taken
    obtain ⟨declaration, live, same⟩ := List.mem_map.mp taken
    exact fresh declaration live same
  · intro index active
    dsimp only at active ⊢
    by_cases same : index = free
    · rw [same, stored]
      rfl
    · rw [others index same] at active ⊢
      exact inv.held index active
  · intro first second active active' equal
    dsimp only at active active' equal
    by_cases same : first = free <;> by_cases same' : second = free
    · rw [same, same']
    · rw [others second same'] at active' equal
      rw [same, stored] at equal
      exact absurd equal.symm (noKey second active')
    · rw [others first same] at active equal
      rw [same', stored] at equal
      exact absurd equal (noKey first active)
    · rw [others first same] at active equal
      rw [others second same'] at active' equal
      exact inv.distinct first second active active' equal

theorem Closes.slotsInv (closes : s.Closes t) : t.SlotsInv where
  toMirrors := .of_unused closes.slots closes.live
  gauge := by
    rw [closes.gauge, ZenohCarrier.activeSlotCount, closes.slots]
    rfl
  peak := by
    rw [closes.gauge]
    exact BitVec.le_def.mpr (Nat.zero_le _)

/-! ## Calls that leave the slots alone -/

theorem keepsSlots_returning (s : CarrierSystem Token) (value : Bool) :
    s.KeepsSlots (returning (value, s)) :=
  ⟨rfl, rfl, rfl, rfl, rfl⟩

theorem keepsSlots_copyPendingFrame (s : CarrierSystem Token) (capacities : PollCapacities)
    (storage : CallerStorage) :
    s.KeepsSlots (receiving (s.copyPendingFrame capacities storage)) := by
  by_cases holds : capacities.Holds s.carrier.frames
  · obtain ⟨storage', eq, -⟩ := copyPendingFrame_of_holds holds storage
    rw [eq]
    exact ⟨rfl, rfl, rfl, rfl, rfl⟩
  · obtain ⟨storage', eq⟩ := copyPendingFrame_of_not_holds holds storage
    rw [eq]
    exact ⟨rfl, rfl, rfl, rfl, rfl⟩

/-- Polling looks at the slots and leaves them. -/
theorem Polls.keepsSlots {capacities : PollCapacities} {storage : CallerStorage}
    {answers : Fin maximumSubscriptions → Except ZenohResult Message}
    {result : ZenohCarrierPollOutcome × CarrierSystem Token × CallerStorage}
    (polls : s.Polls bounds capacities answers storage result) :
    s.KeepsSlots (receiving result) := by
  cases polls with
  | refused => exact ⟨rfl, rfl, rfl, rfl, rfl⟩
  | pending => exact keepsSlots_copyPendingFrame ..
  | asks _ _ _ round =>
      cases round with
      | nothing keeps => exact keeps.toKeepsSlots.trans ⟨rfl, rfl, rfl, rfl, rfl⟩
      | @takes t _ handle message keeps =>
          have stored : t.KeepsSlots (t.store handle message) := ⟨rfl, rfl, rfl, rfl, rfl⟩
          exact (keeps.toKeepsSlots.trans stored).trans (keepsSlots_copyPendingFrame ..)

/-! ## Calls and runs -/

variable [DecidableEq Token]

/-- The session forgets exactly the declaration of the cleared slot. -/
theorem perm_live_unsubscribe {index : Fin maximumSubscriptions} {handle : Token}
    (inv : s.SlotsInv) (active : (s.carrier.slots index).active = true)
    (holds : (s.carrier.slots index).subscription = some handle) :
    (s.carrier.setSlotAt index .unused).declarations.Perm
      (s.session.unsubscribe handle .ok).live := by
  have stands : (s.carrier.slots index).declaration =
      some ⟨handle, (s.carrier.slots index).key⟩ := by
    simp [ZenohCarrierSlot.declaration, active, holds]
  have live := inv.declared.symm.trans (ZenohCarrier.perm_declarations_clear stands)
  have tokens := (live.map Declaration.token).nodup_iff.mp inv.tokens
  have apart : ∀ declaration ∈ (s.carrier.setSlotAt index .unused).declarations,
      declaration.token ≠ handle := by
    intro declaration rest same
    refine (List.nodup_cons.mp tokens).1 (List.mem_map.mpr ⟨declaration, rest, same⟩)
  have filtered := live.filter fun declaration => declaration.token ≠ handle
  have kept := List.filter_eq_self.mpr fun declaration rest =>
    decide_eq_true (apart declaration rest)
  rw [List.filter_cons_of_neg (by simp), kept] at filtered
  exact filtered.symm

theorem Undeclares.slotsInv {topic : List UInt8} (inv : s.SlotsInv)
    (undeclares : s.Undeclares topic t) : t.SlotsInv := by
  obtain ⟨subscribed, index, handle, found, holds, rfl⟩ := undeclares
  have active := (ZenohCarrier.findSlot_eq_some found).1
  have cleared := s.carrier.setSlotAt_self index .unused
  have others : ∀ other ≠ index, _ := fun other => s.carrier.setSlotAt_of_ne .unused
  -- A slot still active is another one, and was active before.
  have before : ∀ other, ((s.carrier.setSlotAt index .unused).slots other).active = true →
      other ≠ index := by
    rintro other active rfl
    rw [cleared] at active
    cases active
  refine Mirrors.publishSubscriptionGauge ⟨perm_live_unsubscribe inv active holds, ?_, ?_, ?_,
    fun other => absurd subscribed other⟩
  · exact inv.tokens.sublist (List.filter_sublist.map _)
  · intro other active
    dsimp only at active ⊢
    have ne := before other active
    rw [others other ne] at active ⊢
    exact inv.held other active
  · intro first second active active' equal
    dsimp only at active active' equal
    have ne := before first active
    have ne' := before second active'
    rw [others first ne] at active equal
    rw [others second ne'] at active' equal
    exact inv.distinct first second active active' equal

theorem SlotsInv.next {call : CarrierCall Token} (inv : s.SlotsInv) (fresh : s.TokensFresh call)
    (called : s.next bounds call = some t) : t.SlotsInv := by
  cases call with
  | connect endpointLength opened routers =>
      cases called
      rcases s.connect_cases endpointLength opened routers with
        ⟨t, eq, keeps⟩ | ⟨t, eq, opens⟩ <;> rw [eq]
      · exact (inv.keepsSlots keeps.toKeepsSlots).keepsSlots (keepsSlots_returning ..)
      · exact (opens.slotsInv inv).keepsSlots (keepsSlots_returning ..)
  | subscribe topic answer =>
      cases called
      rcases s.subscribe_cases bounds topic answer with
        ⟨t, eq, keeps⟩ | ⟨eq, _⟩ | ⟨handle, t, rfl, eq, declares⟩ <;> rw [eq]
      · exact (inv.keepsSlots keeps.toKeepsSlots).keepsSlots (keepsSlots_returning ..)
      · exact inv.keepsSlots (keepsSlots_returning ..)
      · exact (declares.slotsInv inv (fresh handle rfl)).keepsSlots (keepsSlots_returning ..)
  | unsubscribe topic result =>
      cases called
      rcases s.unsubscribe_cases bounds topic result with
        ⟨t, eq, keeps⟩ | ⟨t, eq, undeclares⟩ <;> rw [eq]
      · exact (inv.keepsSlots keeps.toKeepsSlots).keepsSlots (keepsSlots_returning ..)
      · exact (undeclares.slotsInv inv).keepsSlots (keepsSlots_returning ..)
  | publish message result =>
      cases called
      have keeps := s.publish_keeps bounds message result
      exact (inv.keepsSlots keeps.toKeepsSlots).keepsSlots (keepsSlots_returning ..)
  | pollOneEvent capacities storage reading answers =>
      cases called
      exact inv.keepsSlots (s.polls bounds capacities storage reading answers).keepsSlots
  | waitForReconnect deadlineMS start first rounds =>
      obtain ⟨⟨value, t⟩, returned, rfl⟩ := Option.map_eq_some_iff.mp called
      have keeps := keeps_waitForReconnect returned
      exact (inv.keepsSlots keeps.toKeepsSlots).keepsSlots (keepsSlots_returning ..)
  | disconnect unsubscribed closed =>
      cases called
      rcases s.disconnect_cases unsubscribed closed with ⟨eq, _⟩ | ⟨t, eq, closes⟩ <;> rw [eq]
      · exact inv.keepsSlots (keepsSlots_returning ..)
      · exact closes.slotsInv.keepsSlots (keepsSlots_returning ..)

theorem SlotsInv.of_run {calls : List (CarrierCall Token)}
    (run : Run (CarrierSystem.next bounds) TokensFresh .initial calls s) : s.SlotsInv :=
  run.invariant .initial fun inv fresh called => inv.next fresh called

/-- In every reachable state the active slots are the live declarations, each under
its own key, at most eight, and counted by the gauge, which the peak is not below. A
key that is live is not declared again, a refused `subscribe` or `unsubscribe` leaves
the slots alone, and an admitted `disconnect` leaves no active slot. -/
theorem slots_mirror_declarations {calls : List (CarrierCall Token)}
    (run : Run (CarrierSystem.next bounds) TokensFresh .initial calls s) :
    s.carrier.declarations.Perm s.session.live ∧
      s.carrier.activeSlotCount = s.session.live.length ∧
      s.carrier.activeSlotCount ≤ maximumSubscriptions ∧
      (∀ first second, (s.carrier.slots first).active = true →
        (s.carrier.slots second).active = true →
          (s.carrier.slots first).key = (s.carrier.slots second).key → first = second) ∧
      s.diagnostics.activeSubscriptions.toNat = s.carrier.activeSlotCount ∧
      s.diagnostics.activeSubscriptions ≤ s.diagnostics.activeSubscriptionsPeak ∧
      (∀ declaration ∈ s.session.live, ∀ answer t,
        s.next bounds (.subscribe declaration.key answer) = some t →
          t.session.live = s.session.live ∧ t.carrier.slots = s.carrier.slots) ∧
      (∀ topic answer t, s.next bounds (.subscribe topic answer) = some t →
        t.reply = some (.done false) → t.carrier.slots = s.carrier.slots) ∧
      (∀ topic result t, s.next bounds (.unsubscribe topic result) = some t →
        t.reply = some (.done false) → t.carrier.slots = s.carrier.slots) ∧
      ∀ unsubscribed closed t, s.carrier.phase = .connected ∨ s.carrier.phase = .subscribed →
        s.next bounds (.disconnect unsubscribed closed) = some t →
          ∀ index, (t.carrier.slots index).active = false := by
  have inv := SlotsInv.of_run run
  have length := inv.declared.length_eq
  have bound : s.carrier.declarations.length ≤ maximumSubscriptions := Table.length_entries_le _
  have count := inv.activeSlotCount_eq
  refine ⟨inv.declared, by omega, by omega, inv.distinct, ?_, inv.peak, ?_, ?_, ?_, ?_⟩
  · rw [inv.gauge, BitVec.toNat_ofNat]
    exact Nat.mod_eq_of_lt (Nat.lt_of_le_of_lt (count.trans_le bound) (by decide))
  · intro declaration live answer t called
    cases called
    rcases s.subscribe_cases bounds declaration.key answer with
      ⟨t, eq, keeps⟩ | ⟨eq, _⟩ | ⟨handle, t, _, eq, declares⟩ <;> rw [eq]
    · exact ⟨keeps.live, keeps.slots⟩
    · exact ⟨rfl, rfl⟩
    · obtain ⟨index, active, key⟩ := inv.exists_slot live
      exact absurd key (ZenohCarrier.findSlot_eq_none declares.undeclared index active)
  · intro topic answer t called refused
    cases called
    rcases s.subscribe_cases bounds topic answer with
      ⟨t, eq, keeps⟩ | ⟨eq, _⟩ | ⟨handle, t, _, eq, declares⟩ <;> rw [eq] at refused ⊢
    · exact keeps.slots
    · rfl
    · cases refused
  · intro topic result t called refused
    cases called
    rcases s.unsubscribe_cases bounds topic result with
      ⟨t, eq, keeps⟩ | ⟨t, eq, undeclares⟩ <;> rw [eq] at refused ⊢
    · exact keeps.slots
    · cases refused
  · intro unsubscribed closed t admitted called index
    cases called
    rcases s.disconnect_cases unsubscribed closed with ⟨_, refused⟩ | ⟨t, eq, closes⟩
    · exact absurd admitted refused
    · rw [eq, show (returning (_, t)).carrier.slots = _ from closes.slots]
      rfl

/-- A removal fails, another succeeds, and its token names the next declaration. -/
def declaringCalls : List (CarrierCall Nat) :=
  [.connect 5 .ok (.error .transportError), .subscribe [0x61] (.ok 3), .subscribe [0x62] (.ok 4),
    .unsubscribe [0x61] .transportError, .unsubscribe [0x62] .ok, .subscribe [0x63] (.ok 4)]

theorem slots_mirror_declarations_declaring : ∃ s : CarrierSystem Nat,
    s.session.live = [⟨3, [0x61]⟩, ⟨4, [0x63]⟩] ∧ s.carrier.declarations.Perm s.session.live ∧
      s.carrier.activeSlotCount = s.session.live.length := by
  obtain ⟨s, run, seen⟩ := exists_run_of_exec
    (show (exec (CarrierSystem.next smokeBounds) TokensFresh .initial
      declaringCalls).map (fun s => decide (s.session.live = [⟨3, [0x61]⟩, ⟨4, [0x63]⟩])) =
        some true by decide)
  obtain ⟨declared, count, -⟩ := slots_mirror_declarations run
  exact ⟨s, of_decide_eq_true seen, declared, count⟩

end CarrierSystem
end AxolotyEmbedded.Zenoh
