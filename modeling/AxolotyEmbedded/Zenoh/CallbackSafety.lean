import AxolotyEmbedded.Zenoh.CallbackLifecycle
import AxolotyEmbedded.Library.Transition

/-!
No callback uses a freed queue, in every schedule without hazards: a step of the
lifecycle thread keeps the assertion of each callback, a step of a callback
keeps the count of claims, and with both the drain lets no claim through.
-/
namespace AxolotyEmbedded.Zenoh
open Wrapping Transition

variable {s t : CallbackSystem} {callback : Callback} {k : Nat}

/-! ## Assertions under steps of other threads -/

/-- The heap only grows, and a step spares what the phase of the callback relies on. -/
theorem Callback.Ok.stable (ok : callback.Ok s) (heap : s.registry.heap <+: t.registry.heap)
    (freed : callback.phase.touches = true →
      t.registry.freed callback.context = s.registry.freed callback.context)
    (carried : ∀ record generation, callback.phase.carried = some (record, generation) →
      (t.record record).generation = generation →
        (s.record record).generation = generation ∧ t.latest record = s.latest record)
    (rechecked : ∀ record, callback.phase = .recheckActive record →
      t.latest record = s.latest record ∧
          ((s.record record).active = 0 ∧ s.lifecycle.refilling record = true →
            (t.record record).active = 0 ∧ t.lifecycle.refilling record = true) ∨
        ((t.record record).active = 0 ∧ t.lifecycle.refilling record = true))
    (copying : ∀ record, callback.phase = .copying record → t.latest record = s.latest record) :
    callback.Ok t := by
  have context : ∀ {queue slot generation}, s.IsContext queue slot generation →
      t.IsContext queue slot generation := by
    intro queue slot generation known
    obtain ⟨more, grown⟩ := heap
    rw [CallbackSystem.IsContext, ← grown, List.getElem?_append_left known.lt]
    exact known
  unfold Callback.Ok at ok ⊢
  cases phase : callback.phase <;> rw [phase] at ok freed carried rechecked copying <;>
    simp only at ok ⊢
  case readSessionIndex =>
    rw [freed rfl]
    exact ok
  case readSubscriberIndex session =>
    obtain ⟨unfreed, index, generation, known⟩ := ok
    exact ⟨by rw [freed rfl]; exact unfreed, index, generation, context known⟩
  case readGeneration record =>
    obtain ⟨unfreed, generation, known⟩ := ok
    exact ⟨by rw [freed rfl]; exact unfreed, generation, context known⟩
  case recheckActive record =>
    rcases rechecked record rfl with ⟨latest, refilling⟩ | refilled
    · rw [latest]
      exact ok.imp_right refilling
    · exact .inr refilled
  case copying record =>
    rw [freed rfl, copying record rfl]
    exact ok
  all_goals
    intro same
    obtain ⟨before, latest⟩ := carried _ _ rfl same
    rw [latest]
    exact ok before

theorem Callback.Ok.same_links (ok : callback.Ok s) (same : CallbackSystem.SameLinks s t)
    (rechecked : ∀ record, callback.phase = .recheckActive record →
      (s.record record).active = 0 → s.lifecycle.refilling record = true →
        (t.record record).active = 0 ∧ t.lifecycle.refilling record = true) : callback.Ok t := by
  refine ok.stable (same.heap ▸ List.prefix_refl _) (fun _ => by rw [same.freed])
    (fun record generation _ equal => ⟨?_, by rw [same.latest]⟩)
    (fun record phase => .inl ⟨by rw [same.latest], fun refilled =>
      rechecked record phase refilled.1 refilled.2⟩) fun _ _ => by rw [same.latest]
  rwa [same.generation] at equal

namespace CallbackSystem

/-! ## Steps of the callbacks -/

theorem claims_moveCallback (found : s.callbacks[k]? = some callback) (phase : CallbackPhase)
    (slot : Slot) :
    (s.moveCallback k callback phase).claims slot + (if callback.phase.counted slot then 1 else 0) =
      s.claims slot + (if phase.counted slot then 1 else 0) := by
  obtain ⟨below, at_k⟩ := List.getElem?_eq_some_iff.mp found
  have counted := List.countP_set (p := fun c : Callback => c.phase.counted slot)
    (a := { callback with phase }) below
  rw [at_k] at counted
  have positive : callback.phase.counted slot = true → 0 < s.claims slot := fun hit =>
    List.countP_pos_iff.mpr ⟨callback, List.mem_of_getElem? found, hit⟩
  simp only [claims, moveCallback, setCallback] at positive ⊢
  rw [counted]
  cases hit : callback.phase.counted slot with
  | true =>
      have := positive hit
      simp only [if_true]
      omega
  | false => simp

theorem mem_moveCallback {phase : CallbackPhase} {other : Callback}
    (mem : other ∈ (s.moveCallback k callback phase).callbacks) :
    other ∈ s.callbacks ∨ other = { callback with phase } :=
  List.mem_or_eq_of_mem_set mem

/-- A callback moves on, and nothing else changes. -/
theorem Inv.move (inv : s.Inv) (found : s.callbacks[k]? = some callback) {phase : CallbackPhase}
    (counted : ∀ slot, phase.counted slot = callback.phase.counted slot)
    (ok : Callback.Ok s { callback with phase })
    (drained : ∀ slot, s.lifecycle.freeing slot = true → phase ≠ .copying slot) :
    (s.moveCallback k callback phase).Inv := by
  have mem : callback ∈ s.callbacks := List.mem_of_getElem? found
  refine ⟨?_, fun other known => ?_, fun other known => ?_, fun slot freeing other known => ?_,
    fun slot => ?_⟩
  · obtain ⟨⟩ := inv.owned
    constructor <;> assumption
  · rcases mem_moveCallback known with old | rfl
    · exact inv.dispatched other old
    · exact inv.dispatched callback mem
  · rcases mem_moveCallback known with old | rfl
    · exact inv.callbacks other old
    · exact ok
  · rcases mem_moveCallback known with old | rfl
    · exact inv.drained slot freeing other old
    · exact drained slot freeing
  · have same : (s.moveCallback k callback phase).claims slot = s.claims slot := by
      have := claims_moveCallback found phase slot
      rw [counted slot] at this
      exact Nat.add_right_cancel this
    rw [same]
    exact inv.inFlight slot

theorem record_addInFlight (slot other : Slot) (amount : BitVec 32) :
    ((s.addInFlight slot amount).record other) =
      if other = slot then { s.record slot with inFlight := (s.record slot).inFlight + amount }
      else s.record other := by
  split
  · rename_i same
    rw [same]
    exact record_setRecord_self ..
  · rename_i ne
    exact record_setRecord_of_ne _ ne

/-- The count of claims of a record follows the callbacks. -/
theorem Inv.addInFlight (inv : s.Inv) (found : s.callbacks[k]? = some callback)
    {phase : CallbackPhase} {slot : Slot} {amount : BitVec 32}
    (ok : Callback.Ok s { callback with phase })
    (drained : ∀ slot, phase ≠ .copying slot)
    (others : ∀ other, other ≠ slot → phase.counted other = callback.phase.counted other)
    (count : BitVec.ofNat 32 (s.claims slot) + amount =
      BitVec.ofNat 32 ((s.moveCallback k callback phase).claims slot))
    (bound : (s.moveCallback k callback phase).claims slot < 2 ^ 32) :
    ((s.moveCallback k callback phase).addInFlight slot amount).Inv := by
  have mem : callback ∈ s.callbacks := List.mem_of_getElem? found
  have hrecord : ∀ other,
      ((s.moveCallback k callback phase).addInFlight slot amount).record other =
        if other = slot then { s.record slot with inFlight := (s.record slot).inFlight + amount }
        else s.record other := fun other => record_addInFlight ..
  have hactive : ∀ other,
      (((s.moveCallback k callback phase).addInFlight slot amount).record other).active =
        (s.record other).active := by
    intro other
    rw [hrecord]
    split
    · rename_i same
      rw [same]
    · rfl
  have hgeneration : ∀ other,
      (((s.moveCallback k callback phase).addInFlight slot amount).record other).generation =
        (s.record other).generation := by
    intro other
    rw [hrecord]
    split
    · rename_i same
      rw [same]
    · rfl
  have hstable : ∀ other : Callback, other.Ok s →
      other.Ok ((s.moveCallback k callback phase).addInFlight slot amount) := by
    intro other known
    refine known.stable (List.prefix_refl _) (fun _ => rfl) (fun record generation _ same => ?_)
      (fun record _ => .inl ⟨rfl, fun refilling => ⟨?_, refilling.2⟩⟩) fun _ _ => rfl
    · rw [hgeneration] at same
      exact ⟨same, rfl⟩
    · rw [hactive]
      exact refilling.1
  refine ⟨?_, fun other known => ?_, fun other known => ?_, fun record freeing other known => ?_,
    fun record => ?_⟩
  · refine inv.owned.settle ⟨rfl, rfl, rfl, rfl, fun other => ?_, hgeneration⟩
      (fun session opened => ?_) rfl (fun _ _ _ _ => rfl) (fun _ _ stored => stored)
      (fun _ => Iff.rfl) (fun other nonzero => .inl ?_) (fun other quieting => ?_)
    · rw [hrecord]
      split
      · rename_i same
        rw [same]
      · rfl
    · rw [show ((s.moveCallback k callback phase).addInFlight slot amount).registry =
          s.registry.setRecord slot _ from rfl, Registry.state_setRecord] at opened
      rw [show ((s.moveCallback k callback phase).addInFlight slot amount).registry =
          s.registry.setRecord slot _ from rfl, Registry.sessionIndex_setRecord]
      exact inv.owned.indexed session opened
    · rwa [hactive] at nonzero
    · rw [hactive]
      exact inv.owned.quiet other quieting
  · rcases mem_moveCallback known with old | rfl
    · exact inv.dispatched other old
    · exact inv.dispatched callback mem
  · rcases mem_moveCallback known with old | rfl
    · exact hstable other (inv.callbacks other old)
    · exact hstable _ ok
  · rcases mem_moveCallback known with old | rfl
    · exact inv.drained record freeing other old
    · exact drained record
  · by_cases same : record = slot
    · subst same
      refine ⟨?_, bound⟩
      rw [hrecord, if_pos rfl]
      exact (congrArg (· + amount) (inv.inFlight record).1).trans count
    · have claims : (s.moveCallback k callback phase).claims record = s.claims record := by
        have := claims_moveCallback found phase record
        rw [others record same] at this
        exact Nat.add_right_cancel this
      rw [hrecord, if_neg same]
      exact claims ▸ inv.inFlight record

/-- A declared queue has a record and a generation. -/
theorem Owned.context_of_declared (owned : s.Owned) {queue : Nat} (below : queue < s.declared) :
    ∃ slot generation, s.IsContext queue slot generation := by
  refine owned.contexts queue ?_
  cases reserving : s.lifecycle.reserving with
  | none => rwa [owned.idle reserving]
  | some pair =>
      obtain ⟨-, length, -⟩ := owned.reserving pair.1 pair.2 reserving
      omega

theorem toNat_slot (slot : Slot) : (BitVec.ofNat 32 slot.1.val).toNat = slot.1.val ∧
    (BitVec.ofNat 32 slot.2.val).toNat = slot.2.val := by
  rw [BitVec.toNat_ofNat, BitVec.toNat_ofNat]
  omega

theorem Inv.advance (inv : s.Inv) (found : s.callbacks[k]? = some callback)
    (orderly : s.Orderly (.callback k)) (taken : s.advance k callback = some t) : t.Inv := by
  have mem : callback ∈ s.callbacks := List.mem_of_getElem? found
  have ok := inv.callbacks callback mem
  have dispatched := inv.dispatched callback mem
  simp only [Orderly, found, Option.map_some] at orderly
  unfold Callback.Ok at ok
  unfold CallbackSystem.advance at taken
  -- Leaving a claim takes one from the count, which this callback is part of.
  have leave : ∀ record, (∀ slot, callback.phase.counted slot = (record == slot)) →
      ((s.moveCallback k callback .done).addInFlight record (-1)).Inv := by
    intro record hcounted
    have change := claims_moveCallback found .done record
    rw [hcounted record, beq_self_eq_true] at change
    simp only [CallbackPhase.counted, if_true, Bool.false_eq_true, if_false, Nat.add_zero] at change
    refine inv.addInFlight found trivial (fun _ => by simp) (fun other ne => ?_) ?_ ?_
    · rw [hcounted other, beq_eq_false_iff_ne.mpr ne.symm]
      rfl
    · rw [← change, ofNat_succ, BitVec.add_assoc]
      exact BitVec.add_zero _
    · have := (inv.inFlight record).2
      omega
  cases phase : callback.phase with
  | readSessionIndex =>
      simp only [phase] at ok taken
      obtain ⟨slot, generation, known⟩ := inv.owned.context_of_declared dispatched
      obtain ⟨hsession, -⟩ := toNat_slot slot
      have heap : s.registry.heap[callback.context]? = some _ := known
      simp only [heap, Option.map_some, hsession, slot.1.isLt, dif_pos, Option.some.injEq] at taken
      subst taken
      exact inv.move found (fun _ => by rw [phase]; rfl) ⟨ok, slot.2, generation, known⟩
        fun _ _ => by simp
  | readSubscriberIndex session =>
      simp only [phase] at ok taken
      obtain ⟨unfreed, index, generation, known⟩ := ok
      obtain ⟨-, hindex⟩ := toNat_slot (session, index)
      have heap : s.registry.heap[callback.context]? = some _ := known
      simp only [heap, Option.bind_some, hindex, index.isLt, dif_pos, Option.some.injEq] at taken
      subst taken
      exact inv.move found (fun _ => by rw [phase]; rfl) ⟨unfreed, generation, known⟩
        fun _ _ => by simp
  | readGeneration record =>
      simp only [phase] at ok taken
      obtain ⟨unfreed, generation, known⟩ := ok
      have heap : s.registry.heap[callback.context]? = some _ := known
      simp only [heap, Option.map_some, Option.some.injEq] at taken
      subst taken
      exact inv.move found (fun _ => by rw [phase]; rfl)
        (fun _ => inv.owned.owner _ dispatched record generation known unfreed) fun _ _ => by simp
  | checkQueue record generation =>
      simp only [phase] at ok taken
      split at taken <;> cases taken
      · exact inv.move found (fun _ => by rw [phase]; rfl) ok fun _ _ => by simp
      · exact inv.move found (fun _ => by rw [phase]; rfl) trivial fun _ _ => by simp
  | checkGeneration record generation =>
      simp only [phase] at ok taken
      split at taken <;> cases taken
      · exact inv.move found (fun _ => by rw [phase]; rfl) ok fun _ _ => by simp
      · exact inv.move found (fun _ => by rw [phase]; rfl) trivial fun _ _ => by simp
  | checkActive record generation =>
      simp only [phase] at ok taken
      split at taken <;> cases taken
      · exact inv.move found (fun _ => by rw [phase]; rfl) trivial fun _ _ => by simp
      · exact inv.move found (fun _ => by rw [phase]; rfl) ok fun _ _ => by simp
  | enter record generation =>
      simp only [phase, Option.some.injEq] at ok taken orderly
      subst taken
      have change := claims_moveCallback found (.recheckGeneration record generation) record
      rw [phase] at change
      simp only [CallbackPhase.counted, beq_self_eq_true, if_true, Bool.false_eq_true,
        if_false, Nat.add_zero] at change
      refine inv.addInFlight found ok (fun _ => by simp) (fun other ne => ?_) ?_ ?_
      · rw [phase]
        exact beq_eq_false_iff_ne.mpr ne.symm
      · rw [change, ofNat_succ]
      · rw [change]
        exact orderly
  | recheckGeneration record generation =>
      simp only [phase] at ok taken
      split at taken <;> cases taken
      · rename_i same
        exact inv.move found (fun _ => by rw [phase]; rfl) (.inl (ok same)) fun _ _ => by simp
      · exact inv.move found (fun _ => by rw [phase]; rfl) trivial fun _ _ => by simp
  | recheckActive record =>
      simp only [phase] at ok taken
      split at taken <;> cases taken
      · exact inv.move found (fun _ => by rw [phase]; rfl) trivial fun _ _ => by simp
      · rename_i active
        -- An active record is not being refilled, so the claim holds the latest queue.
        have latest := ok.resolve_right fun refilled => active refilled.1
        obtain ⟨queue, latest', unfreed⟩ := inv.owned.active record active
        obtain rfl := Option.some.inj (latest.symm.trans latest')
        refine inv.move found (fun _ => by rw [phase]; rfl) ⟨unfreed, latest⟩ ?_
        intro slot freeing copying
        cases copying
        refine active (inv.owned.quiet record ?_)
        cases lifecycle : s.lifecycle <;> rw [lifecycle] at freeing <;>
          first
          | exact freeing
          | cases freeing
  | withdraw record =>
      simp only [phase, Option.some.injEq] at taken
      subst taken
      exact leave record fun _ => by rw [phase]; rfl
  | copying record =>
      simp only [phase, Option.some.injEq] at taken
      subst taken
      exact leave record fun _ => by rw [phase]; rfl
  | done => simp [phase] at taken

theorem Inv.dispatch (inv : s.Inv) {context : Nat} (declared : context < s.declared)
    (unfreed : s.registry.freed context = false) :
    Inv { s with callbacks := s.callbacks ++ [⟨context, .readSessionIndex⟩] } := by
  have hmem : ∀ {other}, other ∈ s.callbacks ++ [⟨context, .readSessionIndex⟩] →
      other ∈ s.callbacks ∨ other = ⟨context, .readSessionIndex⟩ := fun mem =>
    (List.mem_append.mp mem).imp_right List.mem_singleton.mp
  refine ⟨?_, fun other known => ?_, fun other known => ?_, fun slot freeing other known => ?_,
    fun slot => ?_⟩
  · obtain ⟨⟩ := inv.owned
    constructor <;> assumption
  · rcases hmem known with old | rfl
    · exact inv.dispatched other old
    · exact declared
  · rcases hmem known with old | rfl
    · exact inv.callbacks other old
    · exact unfreed
  · rcases hmem known with old | rfl
    · exact inv.drained slot freeing other old
    · simp
  · have same : (s.callbacks ++ [(⟨context, .readSessionIndex⟩ : Callback)]).countP
        (fun callback : Callback => callback.phase.counted slot) = s.claims slot := by
      rw [List.countP_append, claims]
      rfl
    have counted := inv.inFlight slot
    rw [← same] at counted
    exact counted

/-! ## Steps of the lifecycle thread -/

/-- A step of the lifecycle thread leaves the callbacks where they are. -/
theorem Inv.lifecycle (inv : s.Inv) (owned : t.Owned) (callbacks : t.callbacks = s.callbacks)
    (declared : s.declared ≤ t.declared) (ok : ∀ callback ∈ s.callbacks, callback.Ok t)
    (drained : ∀ slot, t.lifecycle.freeing slot = true →
      ∀ callback ∈ s.callbacks, callback.phase ≠ .copying slot)
    (inFlight : ∀ slot, (t.record slot).inFlight = (s.record slot).inFlight ∨
      ((t.record slot).inFlight = 0 ∧ s.claims slot = 0)) : t.Inv where
  owned := owned
  dispatched := by
    rw [callbacks]
    exact fun callback mem => (inv.dispatched callback mem).trans_le declared
  callbacks := by
    rw [callbacks]
    exact ok
  drained := by
    rw [callbacks]
    exact drained
  inFlight := fun slot => by
    have same : t.claims slot = s.claims slot := by rw [claims, callbacks, claims]
    rw [same]
    rcases inFlight slot with kept | ⟨zero, none⟩
    · rw [kept]
      exact inv.inFlight slot
    · rw [zero, none]
      exact ⟨rfl, Nat.two_pow_pos 32⟩

theorem Owned.indexed_setRecord (owned : s.Owned) (slot : Slot) (value : Subscription)
    (session : Fin 4)
    (opened : ((s.registry.setRecord slot value).sessions session).state = .opened) :
    ((s.registry.setRecord slot value).sessions session).sessionIndex =
      BitVec.ofNat 32 session := by
  rw [Registry.state_setRecord] at opened
  rw [Registry.sessionIndex_setRecord]
  exact owned.indexed session opened

/-- Storing into a record changes no link when the queue and the generation stay. -/
theorem sameLinks_of_setRecord {slot : Slot} {value : Subscription} (lifecycle : LifecyclePhase)
    (queue : value.queue = (s.record slot).queue)
    (generation : value.generation = (s.record slot).generation) :
    SameLinks s { s.setRecord slot value with lifecycle } where
  heap := rfl
  freed := rfl
  declared := rfl
  latest := rfl
  queue other := by
    by_cases same : other = slot
    · rw [same]
      exact (congrArg Subscription.queue (record_setRecord_self ..)).trans queue
    · exact congrArg Subscription.queue (record_setRecord_of_ne _ same)
  generation other := by
    by_cases same : other = slot
    · rw [same]
      exact (congrArg Subscription.generation (record_setRecord_self ..)).trans generation
    · exact congrArg Subscription.generation (record_setRecord_of_ne _ same)

/-- Some claim of a record is counted while a callback is between its add and its subtraction. -/
theorem claims_pos {callback : Callback} (slot : Slot) (mem : callback ∈ s.callbacks)
    (counted : callback.phase.counted slot = true) : 0 < s.claims slot :=
  List.countP_pos_iff.mpr ⟨callback, mem, counted⟩

theorem freeQueue_freed (registry : Registry) (slot : Slot) (queue : Nat) :
    (registry.freeQueue slot).freed queue = true ↔
      registry.freed queue = true ∨ (registry.record slot).queue = some queue := by
  unfold Registry.freeQueue
  cases held : (registry.record slot).queue with
  | none => simp
  | some address =>
      by_cases same : queue = address
      · simp [same]
      · simp [Function.update_of_ne same, Ne.symm same]

/-- A reservation that stores its generation takes the record over. -/
theorem Inv.storeGeneration (inv : s.Inv) {slot : Slot} {queue : Nat} {generation : BitVec 32}
    (phase : s.lifecycle = .storeGeneration slot queue generation)
    (fresh : ∀ callback ∈ s.callbacks, callback.phase.carried ≠ some (slot, generation)) :
    Inv { s.setRecord slot { s.record slot with generation } with
      lifecycle := .storeIndexes slot queue
      latest := Function.update s.latest slot (some queue) } := by
  have owned := inv.owned
  obtain ⟨-, -, free⟩ := owned.reserving slot queue (by rw [phase]; rfl)
  have quiet := owned.quiet slot (by rw [phase]; exact beq_self_eq_true slot)
  have self := record_setRecord_self (s := s) slot { s.record slot with generation }
  have others : ∀ other, other ≠ slot →
      (s.setRecord slot { s.record slot with generation }).record other = s.record other :=
    fun other ne => record_setRecord_of_ne _ ne
  refine inv.lifecycle (owned.storeGeneration phase rfl rfl (owned.indexed_setRecord _ _) self others
    rfl rfl rfl) rfl (Nat.le_refl _) (fun callback mem => ?_) (fun other freeing => by cases freeing)
    fun other => .inl ?_
  · have below := inv.dispatched callback mem
    have ok := inv.callbacks callback mem
    refine ok.stable (List.prefix_refl _) (fun _ => rfl) (fun record generation' carried equal => ?_)
      (fun record rechecked => ?_) fun record copying => ?_
    · by_cases same : record = slot
      · subst same
        have equal' : generation = generation' := (congrArg Subscription.generation self).symm.trans equal
        exact absurd (equal' ▸ carried) (fresh callback mem)
      · exact ⟨(congrArg Subscription.generation (others record same)).symm.trans equal,
          Function.update_of_ne same ..⟩
    · by_cases same : record = slot
      · subst same
        exact .inr ⟨(congrArg Subscription.active self).trans quiet, beq_self_eq_true record⟩
      · refine .inl ⟨Function.update_of_ne same .., fun refilled => ?_⟩
        rw [phase] at refilled
        cases refilled.2
    · refine Function.update_of_ne ?_ ..
      rintro rfl
      unfold Callback.Ok at ok
      rw [copying] at ok
      rw [owned.linked record _ below ok.2 ok.1] at free
      cases free
  · by_cases same : other = slot
    · rw [same]
      exact (congrArg Subscription.inFlight self).trans rfl
    · exact congrArg Subscription.inFlight (others other same)

/-- A step that stores into a record, other than its queue and its generation, and
moves the lifecycle thread on. -/
theorem Inv.settle (inv : s.Inv) (slot : Slot) {value : Subscription} {lifecycle : LifecyclePhase}
    (queue : value.queue = (s.record slot).queue)
    (generation : value.generation = (s.record slot).generation)
    (reserving : lifecycle.reserving = s.lifecycle.reserving)
    (notGeneration : ∀ slot queue generation, lifecycle ≠ .storeGeneration slot queue generation)
    (stored : ∀ slot queue, lifecycle.stored = some (slot, queue) →
      s.lifecycle.stored = some (slot, queue))
    (clear : ∀ slot, lifecycle ≠ .clear slot) (clear' : ∀ slot, s.lifecycle ≠ .clear slot)
    (active : value.active ≠ 0 → (s.record slot).active ≠ 0 ∨
      ∃ queue, s.latest slot = some queue ∧ s.registry.freed queue = false)
    (quiet : ∀ other, lifecycle.quieting other = true →
      (other = slot ∧ value.active = 0) ∨ (other ≠ slot ∧ (s.record other).active = 0))
    (rechecked : ∀ callback ∈ s.callbacks, ∀ record, callback.phase = .recheckActive record →
      (s.record record).active = 0 → s.lifecycle.refilling record = true →
        lifecycle.refilling record = true ∧ (record = slot → value.active = 0))
    (drained : ∀ record, lifecycle.freeing record = true →
      ∀ callback ∈ s.callbacks, callback.phase ≠ .copying record)
    (inFlight : value.inFlight = (s.record slot).inFlight ∨
      (value.inFlight = 0 ∧ s.claims slot = 0)) :
    Inv { s.setRecord slot value with lifecycle } := by
  have owned := inv.owned
  have self : (s.setRecord slot value).record slot = value := record_setRecord_self ..
  have others : ∀ other, other ≠ slot →
      (s.setRecord slot value).record other = s.record other :=
    fun other ne => record_setRecord_of_ne _ ne
  have same := sameLinks_of_setRecord lifecycle queue generation
  refine inv.lifecycle (owned.settle same (owned.indexed_setRecord _ _) reserving
    (fun slot queue generation equal => absurd equal (notGeneration slot queue generation)) stored
    (fun slot => ⟨fun equal => absurd equal (clear slot), fun equal => absurd equal (clear' slot)⟩)
    (fun other nonzero => ?_) fun other quieting => ?_) rfl (Nat.le_refl _)
    (fun callback mem => (inv.callbacks callback mem).same_links same
      fun record phase zero refilling => ?_) drained fun other => ?_
  · by_cases equal : other = slot
    · subst equal
      exact active ((congrArg Subscription.active self) ▸ nonzero)
    · exact .inl ((congrArg Subscription.active (others other equal)) ▸ nonzero)
  · rcases quiet other quieting with ⟨rfl, zero⟩ | ⟨ne, zero⟩
    · exact (congrArg Subscription.active self).trans zero
    · exact (congrArg Subscription.active (others other ne)).trans zero
  · obtain ⟨refilling', zero'⟩ := rechecked callback mem record phase zero refilling
    refine ⟨?_, refilling'⟩
    by_cases equal : record = slot
    · subst equal
      exact (congrArg Subscription.active self).trans (zero' rfl)
    · exact (congrArg Subscription.active (others record equal)).trans zero
  · by_cases equal : other = slot
    · subst equal
      rcases inFlight with kept | ⟨zero, none⟩
      · exact .inl ((congrArg Subscription.inFlight self).trans kept)
      · exact .inr ⟨(congrArg Subscription.inFlight self).trans zero, none⟩
    · exact .inl (congrArg Subscription.inFlight (others other equal))

/-- The reservation is complete and its queue declared. -/
theorem Inv.storeQueue (inv : s.Inv) {slot : Slot} {queue : Nat}
    (phase : s.lifecycle = .storeQueue slot queue) :
    Inv { s.setRecord slot { s.record slot with queue := some queue } with
      lifecycle := .idle
      declared := queue + 1 } := by
  have owned := inv.owned
  obtain ⟨rfl, -, -⟩ := owned.reserving slot queue (by rw [phase]; rfl)
  have self := record_setRecord_self (s := s) slot
    { s.record slot with queue := some s.declared }
  have others : ∀ other, other ≠ slot →
      (s.setRecord slot { s.record slot with queue := some s.declared }).record other =
        s.record other := fun other ne => record_setRecord_of_ne _ ne
  have hgeneration : ∀ other, ((s.setRecord slot
      { s.record slot with queue := some s.declared }).record other).generation =
        (s.record other).generation := by
    intro other
    by_cases same : other = slot
    · rw [same]
      exact (congrArg Subscription.generation self).trans rfl
    · exact congrArg Subscription.generation (others other same)
  refine inv.lifecycle (owned.storeQueue phase rfl rfl (owned.indexed_setRecord _ _) self others
    rfl rfl rfl) rfl (Nat.le_succ _) (fun callback mem => ?_) (fun _ freeing => by cases freeing)
    fun other => .inl ?_
  · refine (inv.callbacks callback mem).stable (List.prefix_refl _) (fun _ => rfl)
      (fun record generation _ equal => ⟨(hgeneration record).symm.trans equal, rfl⟩)
      (fun record _ => .inl ⟨rfl, fun refilled => ?_⟩) fun _ _ => rfl
    rw [phase] at refilled
    cases refilled.2
  · by_cases same : other = slot
    · rw [same]
      exact (congrArg Subscription.inFlight self).trans rfl
    · exact congrArg Subscription.inFlight (others other same)

/-- The queue of a drained record is freed while no callback reads it. -/
theorem Inv.free (inv : s.Inv) {slot : Slot} (phase : s.lifecycle = .free slot)
    (settled : ∀ callback ∈ s.callbacks, callback.phase.reading = true →
      (s.record slot).queue ≠ some callback.context) :
    Inv { s with registry := s.registry.freeQueue slot, lifecycle := .clear slot } := by
  have owned := inv.owned
  have drained := inv.drained slot (by rw [phase]; exact beq_self_eq_true slot)
  have sessions := s.registry.freeQueue_sessions slot
  have heap : (s.registry.freeQueue slot).heap = s.registry.heap := by
    unfold Registry.freeQueue
    split <;> rfl
  have hrecord : ∀ other, (s.registry.freeQueue slot).record other = s.record other :=
    fun other => s.registry.record_freeQueue slot other
  have kept : ∀ queue, (s.record slot).queue ≠ some queue →
      (s.registry.freeQueue slot).freed queue = s.registry.freed queue := by
    intro queue ne
    have gone := freeQueue_freed s.registry slot queue
    cases before : s.registry.freed queue with
    | true => exact gone.mpr (.inl before)
    | false =>
        by_contra now
        rcases gone.mp (by simpa using now) with earlier | held
        · rw [before] at earlier
          cases earlier
        · exact ne held
  refine inv.lifecycle (owned.free phase heap sessions (freeQueue_freed s.registry slot) rfl rfl
    rfl) rfl (Nat.le_refl _) (fun callback mem => ?_) (fun other freeing => ?_) fun other => .inl ?_
  · have ok := inv.callbacks callback mem
    refine ok.stable (heap ▸ List.prefix_refl _) (fun touches => kept _ fun held => ?_)
      (fun record generation _ equal => ⟨?_, rfl⟩) (fun record _ => .inl ⟨rfl, fun refilled => ?_⟩)
      fun _ _ => rfl
    · -- A copying callback would hold the latest queue of another record.
      cases copying : callback.phase with
      | copying record =>
          unfold Callback.Ok at ok
          rw [copying] at ok
          have context := owned.latest slot _ (owned.held slot _ held).1
          have same := ((owned.latest record _ ok.2).unique context).1
          exact drained callback mem (same ▸ copying)
      | _ =>
          rw [copying] at touches
          first
          | exact settled callback mem (by rw [copying]; rfl) held
          | cases touches
    · exact (congrArg Subscription.generation (hrecord record)).symm.trans equal
    · rw [phase] at refilled
      cases refilled.2
  · rw [← eq_of_beq freeing]
    exact drained
  · exact congrArg Subscription.inFlight (hrecord other)

/-- The record is unlinked from its freed queue. -/
theorem Inv.clear (inv : s.Inv) {slot : Slot} (phase : s.lifecycle = .clear slot) :
    Inv ((s.setRecord slot { s.record slot with queue := none }).setLifecycle .idle) := by
  have owned := inv.owned
  have self := record_setRecord_self (s := s) slot { s.record slot with queue := none }
  have others : ∀ other, other ≠ slot →
      (s.setRecord slot { s.record slot with queue := none }).record other = s.record other :=
    fun other ne => record_setRecord_of_ne _ ne
  have hgeneration : ∀ other, ((s.setRecord slot
      { s.record slot with queue := none }).record other).generation =
        (s.record other).generation := by
    intro other
    by_cases same : other = slot
    · rw [same]
      exact (congrArg Subscription.generation self).trans rfl
    · exact congrArg Subscription.generation (others other same)
  refine inv.lifecycle (owned.clear phase rfl rfl (owned.indexed_setRecord _ _) self others
    rfl rfl rfl) rfl (Nat.le_refl _) (fun callback mem => ?_) (fun _ freeing => by cases freeing)
    fun other => .inl ?_
  · refine (inv.callbacks callback mem).stable (List.prefix_refl _) (fun _ => rfl)
      (fun record generation _ equal => ⟨(hgeneration record).symm.trans equal, rfl⟩)
      (fun record _ => .inl ⟨rfl, fun refilled => ?_⟩) fun _ _ => rfl
    rw [phase] at refilled
    cases refilled.2
  · by_cases same : other = slot
    · rw [same]
      exact (congrArg Subscription.inFlight self).trans rfl
    · exact congrArg Subscription.inFlight (others other same)

/-- No claim is counted once the drain has read zero. -/
theorem Inv.claims_eq_zero (inv : s.Inv) {slot : Slot} (zero : (s.record slot).inFlight = 0) :
    s.claims slot = 0 := by
  obtain ⟨count, bound⟩ := inv.inFlight slot
  rw [zero] at count
  have value := congrArg BitVec.toNat count
  rw [BitVec.toNat_ofNat, Nat.mod_eq_of_lt bound] at value
  exact value.symm

/-- The drain moves on, and ends only on a record without counted claims. -/
theorem Inv.drain (inv : s.Inv) {slot : Slot} {spin : Nat} (phase : s.lifecycle = .drain slot spin)
    {lifecycle : LifecyclePhase}
    (ends : (∃ spin', lifecycle = .drain slot spin') ∨
      (lifecycle = .free slot ∧ (s.record slot).inFlight = 0)) :
    (s.setLifecycle lifecycle).Inv := by
  have owned := inv.owned
  have quiet := owned.quiet slot (by rw [phase]; exact beq_self_eq_true slot)
  have same : SameLinks s (s.setLifecycle lifecycle) :=
    ⟨rfl, rfl, rfl, rfl, fun _ => rfl, fun _ => rfl⟩
  refine inv.lifecycle (owned.settle same owned.indexed ?_ ?_ ?_ ?_ (fun _ nonzero => .inl nonzero)
    ?_) rfl (Nat.le_refl _) (fun callback mem => (inv.callbacks callback mem).same_links same
      fun record _ _ refilling => ?_) ?_ fun _ => .inl rfl
  · rcases ends with ⟨spin', rfl⟩ | ⟨rfl, -⟩ <;> rw [phase] <;> rfl
  · rintro _ _ _ equal
    rcases ends with ⟨spin', rfl⟩ | ⟨rfl, -⟩ <;> cases equal
  · rintro _ _ stored
    rcases ends with ⟨spin', rfl⟩ | ⟨rfl, -⟩ <;> cases stored
  · intro other
    rw [phase]
    rcases ends with ⟨spin', rfl⟩ | ⟨rfl, -⟩ <;> exact ⟨fun equal => (by cases equal),
      fun equal => (by cases equal)⟩
  · intro other quieting
    have names : slot = other := by
      rcases ends with ⟨spin', rfl⟩ | ⟨rfl, -⟩ <;> exact eq_of_beq quieting
    exact names ▸ quiet
  · rw [phase] at refilling
    cases refilling
  · intro other freeing callback mem copying
    rcases ends with ⟨spin', rfl⟩ | ⟨rfl, zero⟩
    · cases freeing
    · have names : slot = other := eq_of_beq freeing
      have none := inv.claims_eq_zero zero
      have counted := claims_pos slot mem (by rw [copying, names]; exact beq_self_eq_true other)
      omega

theorem Inv.stepLifecycle (inv : s.Inv) (orderly : s.Orderly .lifecycle)
    (taken : s.stepLifecycle = some t) : t.Inv := by
  have owned := inv.owned
  unfold CallbackSystem.stepLifecycle at taken
  unfold Orderly at orderly
  cases phase : s.lifecycle with
  | idle => simp [phase] at taken
  | storeGeneration slot queue generation =>
      simp only [phase, Option.some.injEq] at taken orderly
      subst taken
      exact inv.storeGeneration phase orderly
  | storeIndexes slot queue =>
      simp only [phase, Option.some.injEq] at taken
      subst taken
      have quiet := owned.quiet slot (by rw [phase]; exact beq_self_eq_true slot)
      refine inv.settle slot rfl rfl (by rw [phase]; rfl) (fun _ _ _ equal => by cases equal)
        (fun _ _ stored => by rw [phase]; exact stored) (fun _ equal => by cases equal)
        (fun _ equal => by rw [phase] at equal; cases equal) .inl
        (fun other quieting => .inl ⟨(eq_of_beq quieting).symm, quiet⟩)
        (fun _ _ record _ zero refilling => ?_) (fun _ freeing => by cases freeing) (.inl rfl)
      rw [phase] at refilling
      exact ⟨refilling, fun _ => quiet⟩
  | resetInFlight slot queue =>
      simp only [phase, Option.some.injEq] at taken orderly
      subst taken
      refine inv.settle slot rfl rfl (by rw [phase]; rfl) (fun _ _ _ equal => by cases equal)
        (fun _ _ stored => by rw [phase]; exact stored) (fun _ equal => by cases equal)
        (fun _ equal => by rw [phase] at equal; cases equal) .inl
        (fun _ quieting => by cases quieting) (fun callback mem record rechecked _ refilling => ?_)
        (fun _ freeing => by cases freeing) (.inr ⟨rfl, orderly⟩)
      rw [phase] at refilling
      have names : slot = record := eq_of_beq refilling
      have counted := claims_pos slot mem
        (by rw [rechecked, names]; exact beq_self_eq_true record)
      omega
  | storeActive slot queue =>
      simp only [phase, Option.some.injEq] at taken
      subst taken
      obtain ⟨rfl, -, -⟩ := owned.reserving slot queue (by rw [phase]; rfl)
      have latest := owned.stored slot _ (by rw [phase]; rfl)
      have unfreed : s.registry.freed s.declared = false := by
        by_contra gone
        exact absurd (owned.freed _ (by simpa using gone)) (Nat.lt_irrefl _)
      refine inv.settle slot rfl rfl (by rw [phase]; rfl) (fun _ _ _ equal => by cases equal)
        (fun _ _ stored => by rw [phase]; exact stored) (fun _ equal => by cases equal)
        (fun _ equal => by rw [phase] at equal; cases equal) (fun _ => .inr ⟨_, latest, unfreed⟩)
        (fun _ quieting => by cases quieting) (fun _ _ record _ _ refilling => ?_)
        (fun _ freeing => by cases freeing) (.inl rfl)
      rw [phase] at refilling
      cases refilling
  | storeQueue slot queue =>
      simp only [phase, Option.some.injEq] at taken
      subst taken
      exact inv.storeQueue phase
  | drain slot spin =>
      simp only [phase] at taken orderly
      split at taken
      · rename_i zero
        cases taken
        exact inv.drain phase (.inr ⟨rfl, zero⟩)
      · rename_i nonzero
        split at taken <;> cases taken
        · exact inv.drain phase (.inl ⟨_, rfl⟩)
        · rename_i exhausted
          exact absurd (orderly.resolve_left exhausted) nonzero
  | free slot =>
      simp only [phase, Option.some.injEq] at taken orderly
      subst taken
      exact inv.free phase orderly
  | clear slot =>
      simp only [phase, Option.some.injEq] at taken
      subst taken
      exact inv.clear phase

/-! ## Calls of the lifecycle thread -/

/-- Opening or closing a session leaves every record alone. -/
theorem Inv.sessions (inv : s.Inv) (registry : Registry)
    (record : ∀ slot, registry.record slot = s.record slot)
    (heap : registry.heap = s.registry.heap) (freed : registry.freed = s.registry.freed)
    (indexed : ∀ session, (registry.sessions session).state = .opened →
      (registry.sessions session).sessionIndex = BitVec.ofNat 32 session) :
    Inv { s with registry } := by
  have same : SameLinks s { s with registry } :=
    ⟨heap, freed, rfl, rfl, fun slot => congrArg Subscription.queue (record slot),
      fun slot => congrArg Subscription.generation (record slot)⟩
  have active : ∀ slot, (registry.record slot).active = (s.record slot).active :=
    fun slot => congrArg Subscription.active (record slot)
  refine inv.lifecycle (inv.owned.settle same indexed rfl (fun _ _ _ _ => rfl)
    (fun _ _ stored => stored) (fun _ => Iff.rfl) (fun slot nonzero => .inl ?_)
    fun slot quieting => (active slot).trans (inv.owned.quiet slot quieting)) rfl (Nat.le_refl _)
    (fun callback mem => (inv.callbacks callback mem).same_links same
      fun slot _ zero refilling => ⟨(active slot).trans zero, refilling⟩) inv.drained
    fun slot => .inl (congrArg Subscription.inFlight (record slot))
  exact active slot ▸ nonzero

/-- Deactivating a record, as a call of its own or as the start of its release. -/
theorem Inv.deactivate (inv : s.Inv) (idle : s.lifecycle = .idle) (slot : Slot)
    {lifecycle : LifecyclePhase} (goes : lifecycle = .idle ∨ lifecycle = .drain slot 0) :
    Inv { s with registry := s.registry.subscriptionDeactivate slot, lifecycle } := by
  refine inv.settle slot rfl rfl ?_ ?_ ?_ ?_ (fun _ equal => by rw [idle] at equal; cases equal)
    (fun nonzero => absurd rfl nonzero) ?_ (fun _ _ _ _ _ refilling => ?_) ?_ (.inl rfl)
  · rw [idle]
    rcases goes with rfl | rfl <;> rfl
  · rintro _ _ _ equal
    rcases goes with rfl | rfl <;> cases equal
  · rintro _ _ stored
    rcases goes with rfl | rfl <;> cases stored
  · rintro _ equal
    rcases goes with rfl | rfl <;> cases equal
  · intro other quieting
    rcases goes with rfl | rfl
    · cases quieting
    · exact .inl ⟨(eq_of_beq quieting).symm, rfl⟩
  · rw [idle] at refilling
    cases refilling
  · rintro _ freeing
    rcases goes with rfl | rfl <;> cases freeing

/-- A reserve allocates its queue. -/
theorem Inv.reserve (inv : s.Inv) (idle : s.lifecycle = .idle) {session : Fin 4} {index : Fin 8}
    (opened : (s.registry.sessions session).state = .opened)
    (found : s.registry.freeSlot session = some index) (generation : BitVec 32) :
    Inv { s with
      registry := { s.registry with heap := s.registry.heap ++
        [⟨(s.registry.sessions session).sessionIndex, BitVec.ofNat 32 index, generation⟩] }
      lifecycle := .storeGeneration (session, index) s.registry.heap.length generation } := by
  have free := s.registry.queue_of_freeSlot found
  refine inv.lifecycle (inv.owned.reserve idle free ?_ rfl rfl rfl rfl) rfl (Nat.le_refl _)
    (fun callback mem => ?_) (fun _ freeing => by cases freeing) fun _ => .inl rfl
  · rw [inv.owned.indexed session opened]
  · refine (inv.callbacks callback mem).stable (List.prefix_append ..) (fun _ => rfl)
      (fun record generation' _ equal => ⟨equal, rfl⟩)
      (fun record _ => .inl ⟨rfl, fun refilled => ?_⟩) fun _ _ => rfl
    rw [idle] at refilled
    cases refilled.2

/-- An orderly step keeps the invariant. -/
theorem Inv.next (inv : s.Inv) {label : CallbackLabel} (orderly : s.Orderly label)
    (taken : s.next label = some t) : t.Inv := by
  cases label with
  | openSession =>
      simp only [CallbackSystem.next, startLifecycle] at taken
      split at taken <;> cases taken
      exact inv.sessions _ s.registry.record_sessionReserve
        (by unfold Registry.sessionReserve; split <;> rfl)
        (by unfold Registry.sessionReserve; split <;> rfl)
        fun session opened => s.registry.sessionIndex_sessionReserve inv.owned.indexed opened
  | closeSession session =>
      simp only [CallbackSystem.next, startLifecycle] at taken
      split at taken
      · split at taken <;> cases taken
        refine inv.sessions _ (fun slot => Registry.record_setState ..) rfl rfl fun other opened => ?_
        by_cases same : other = session
        · subst same
          simp [Registry.setState, Registry.setSession] at opened
        · simp only [Registry.setState, Registry.setSession, Function.update_of_ne same] at opened ⊢
          exact inv.owned.indexed other opened
      · cases taken
  | reserve session allocated =>
      simp only [CallbackSystem.next, startLifecycle] at taken
      split at taken
      · rename_i idle
        split at taken
        · rename_i given
          split at taken <;> cases taken
          · exact inv
          · rename_i index found
            exact inv.reserve idle given.1 found _
        · cases taken
          exact inv
      · cases taken
  | deactivate slot =>
      simp only [CallbackSystem.next, startLifecycle] at taken
      split at taken <;> cases taken
      rename_i idle
      have kept := inv.deactivate idle slot (.inl rfl)
      rwa [← idle] at kept
  | release slot =>
      simp only [CallbackSystem.next, startLifecycle] at taken
      split at taken <;> cases taken
      rename_i idle
      exact inv.deactivate idle slot (.inr rfl)
  | lifecycle => exact inv.stepLifecycle orderly taken
  | dispatch context =>
      simp only [CallbackSystem.next] at taken
      split at taken <;> cases taken
      rename_i declared
      exact inv.dispatch declared orderly
  | callback k =>
      simp only [CallbackSystem.next, Option.bind_eq_some_iff] at taken
      obtain ⟨callback, found, taken⟩ := taken
      exact inv.advance found orderly taken
  | access k =>
      simp only [CallbackSystem.next] at taken
      split at taken <;> cases taken
      exact inv

/-! ## Safety -/

/-- No callback is about to use a freed queue, and no claim is held on a queue
that is about to be freed. -/
structure Safe (s : CallbackSystem) : Prop where
  unfreed : ∀ callback ∈ s.callbacks, callback.phase.touches = true →
    s.registry.freed callback.context = false
  unclaimed : ∀ slot, s.lifecycle = .free slot → ∀ callback ∈ s.callbacks, ∀ record,
    callback.phase = .copying record → (s.record slot).queue ≠ some callback.context

theorem Inv.safe (inv : s.Inv) : s.Safe where
  unfreed := by
    intro callback mem touches
    have ok := inv.callbacks callback mem
    unfold Callback.Ok at ok
    cases phase : callback.phase <;> rw [phase] at ok touches <;>
      first
      | exact ok
      | exact ok.1
      | cases touches
  unclaimed := by
    intro slot phase callback mem record copying held
    have ok := inv.callbacks callback mem
    unfold Callback.Ok at ok
    rw [copying] at ok
    have context := inv.owned.latest slot _ (inv.owned.held slot _ held).1
    have same := ((inv.owned.latest record _ ok.2).unique context).1
    exact inv.drained slot (by rw [phase]; exact beq_self_eq_true slot) callback mem (same ▸ copying)

/-- In every run of orderly steps no callback reads or writes a queue that was
freed, and a release frees a queue only when no callback holds a claim on it. -/
theorem safe_of_orderly {labels : List CallbackLabel}
    (run : Run next Orderly initial labels s) : s.Safe :=
  (run.invariant Inv.initial fun inv orderly taken => inv.next orderly taken : s.Inv).safe

/-! ## Schedules -/

/-- Opens a session and reserves its first slot. -/
def reserveFirst : List CallbackLabel :=
  .reserve 0 true :: List.replicate 5 .lifecycle

/-- Callback `k` passes its claim and copies. -/
def claimAndAccess (k : Nat) : List CallbackLabel := List.replicate 9 (.callback k) ++ [.access k]

/-- Deactivates and releases the first slot, whose drain reads zero at once. -/
def releaseFirst : List CallbackLabel :=
  [.deactivate (0, 0), .release (0, 0)] ++ List.replicate 3 .lifecycle

/-- Two reservations of a slot, each with one callback; a late one is dispatched
before the release and finds its declaration removed. -/
def orderlySchedule : List CallbackLabel :=
  .openSession :: reserveFirst ++ [.dispatch 0] ++ claimAndAccess 0 ++ [.callback 0, .dispatch 0] ++
    List.replicate 3 (.callback 1) ++ releaseFirst ++ List.replicate 1 (.callback 1) ++
    reserveFirst ++ [.dispatch 1] ++ claimAndAccess 2

theorem safe_of_orderly_twice :
    ∃ s : CallbackSystem, s.callbacks.map Callback.phase = [.done, .done, .copying (0, 0)] ∧
      s.Safe := by
  obtain ⟨s, run, seen⟩ := exists_run_of_exec
    (show (exec next Orderly initial orderlySchedule).map (fun s =>
      decide (s.callbacks.map Callback.phase = [.done, .done, .copying (0, 0)])) = some true by
        decide)
  exact ⟨s, of_decide_eq_true seen, safe_of_orderly run⟩

/-- A callback is dispatched, and its queue freed before its first read. -/
def lateReadSchedule : List CallbackLabel :=
  .openSession :: reserveFirst ++ [.dispatch 0, .deactivate (0, 0), .release (0, 0), .lifecycle,
    .lifecycle]

/-- Callback 0 adds its claim after the release and before the next reservation
resets the count, so that its withdrawal takes the count below zero. The claim of
callback 1 brings it back to zero, and the next drain sees no claim. -/
def lostClaimSchedule : List CallbackLabel :=
  .openSession :: reserveFirst ++ [.dispatch 0] ++ List.replicate 6 (.callback 0) ++ releaseFirst ++
    [.callback 0] ++ reserveFirst ++ List.replicate 2 (.callback 0) ++ [.dispatch 1] ++
    claimAndAccess 1 ++ [.deactivate (0, 0), .release (0, 0), .lifecycle]

/-- A callback reads a queue after the release has freed it, and a release frees a
queue on which a callback holds a claim. -/
theorem not_safe :
    (¬ ∀ labels s, Run next unguarded initial labels s →
      ∀ callback ∈ s.callbacks, callback.phase.touches = true →
        s.registry.freed callback.context = false) ∧
    ¬ ∀ labels s, Run next unguarded initial labels s →
      ∀ slot, s.lifecycle = .free slot → ∀ callback ∈ s.callbacks, ∀ record,
        callback.phase = .copying record → (s.record slot).queue ≠ some callback.context := by
  constructor
  · intro holds
    obtain ⟨s, run, seen⟩ := exists_run_of_exec
      (show (exec next unguarded initial lateReadSchedule).map (fun s => s.callbacks.any
        fun callback => callback.phase.touches && s.registry.freed callback.context) = some true by
          decide)
    obtain ⟨callback, mem, used⟩ := List.any_eq_true.mp seen
    obtain ⟨touches, freed⟩ := Bool.and_eq_true_iff.mp used
    have unfreed := holds _ s run callback mem touches
    rw [freed] at unfreed
    cases unfreed
  · intro holds
    obtain ⟨s, run, seen⟩ := exists_run_of_exec
      (show (exec next unguarded initial lostClaimSchedule).map (fun s =>
        decide (s.lifecycle = .free (0, 0) ∧ (s.record (0, 0)).queue = some 1 ∧
          ⟨1, .copying (0, 0)⟩ ∈ s.callbacks)) = some true by decide)
    obtain ⟨lifecycle, queue, mem⟩ := of_decide_eq_true seen
    exact holds _ s run (0, 0) lifecycle _ mem (0, 0) rfl queue

end CallbackSystem

end AxolotyEmbedded.Zenoh
