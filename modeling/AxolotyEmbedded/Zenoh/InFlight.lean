import AxolotyEmbedded.Zenoh.CallbackSafety

/-!
The in-flight count of a record against the callbacks that are between their add and
their subtract. The count outlives the queue, and `zenoh_pico_subscription_reserve`
stores zero in it: a callback suspended in between makes it run below zero later.
-/
namespace AxolotyEmbedded.Zenoh
open Transition

variable {s t : CallbackSystem} {callback : Callback} {k : Nat}

namespace CallbackSystem

/-- Each count is the number of callbacks between their add and their subtract. -/
def Accounted (s : CallbackSystem) : Prop :=
  ∀ slot, (s.record slot).inFlight.toNat = s.claims slot

/-- The count is stored to only while no callback is in between, and no callback enters
when that many already are. -/
def Undisturbed (s : CallbackSystem) : CallbackLabel → Prop
  | .lifecycle =>
      match s.lifecycle with
      | .resetInFlight slot _ => s.claims slot = 0
      | _ => True
  | .callback k =>
      match (s.callbacks[k]?).map Callback.phase with
      | some (.enter record _) => s.claims record + 1 < 2 ^ 32
      | _ => True
  | _ => True

/-- The record whose count the lifecycle thread is about to clear. -/
def resetting (s : CallbackSystem) : Option Slot :=
  match s.lifecycle with
  | .resetInFlight slot _ => some slot
  | _ => none

/-- The record whose count callback `k` is about to raise. -/
def entering (s : CallbackSystem) (k : Nat) : Option Slot :=
  match (s.callbacks[k]?).map Callback.phase with
  | some (.enter record _) => some record
  | _ => none

theorem undisturbed_lifecycle (s : CallbackSystem) :
    s.Undisturbed .lifecycle ↔ (s.resetting.all fun slot => s.claims slot = 0) = true := by
  simp only [Undisturbed, resetting]
  split <;> simp

theorem undisturbed_callback (s : CallbackSystem) (k : Nat) :
    s.Undisturbed (.callback k) ↔
      ((s.entering k).all fun record => s.claims record + 1 < 2 ^ 32) = true := by
  simp only [Undisturbed, entering]
  split <;> simp

instance (s : CallbackSystem) : (label : CallbackLabel) → Decidable (s.Undisturbed label)
  | .lifecycle => decidable_of_iff' _ s.undisturbed_lifecycle
  | .callback k => decidable_of_iff' _ (s.undisturbed_callback k)
  | .openSession | .closeSession _ | .reserve .. | .deactivate _ | .release _ | .dispatch _
  | .access _ => inferInstanceAs (Decidable True)

/-! ## What one step does to the counts -/

/-- The counts and the callbacks behind them before and after a step. -/
inductive CountStep (s t : CallbackSystem) (label : CallbackLabel) : Prop
  | kept : (∀ slot, t.claims slot = s.claims slot) →
      (∀ slot, (t.record slot).inFlight = (s.record slot).inFlight) → CountStep s t label
  | reset (slot : Slot) (queue : Nat) : label = .lifecycle → s.lifecycle = .resetInFlight slot queue →
      (∀ other, t.claims other = s.claims other) → (t.record slot).inFlight = 0 →
        (∀ other, other ≠ slot → (t.record other).inFlight = (s.record other).inFlight) →
          CountStep s t label
  | entered (slot : Slot) (generation : BitVec 32) (k : Nat) : label = .callback k →
      (s.callbacks[k]?).map Callback.phase = some (.enter slot generation) →
        t.claims slot = s.claims slot + 1 →
          (t.record slot).inFlight = (s.record slot).inFlight + 1 →
            (∀ other, other ≠ slot → t.claims other = s.claims other ∧
              (t.record other).inFlight = (s.record other).inFlight) → CountStep s t label
  | left (slot : Slot) : t.claims slot + 1 = s.claims slot →
      (t.record slot).inFlight = (s.record slot).inFlight - 1 →
        (∀ other, other ≠ slot → t.claims other = s.claims other ∧
          (t.record other).inFlight = (s.record other).inFlight) → CountStep s t label

variable {label : CallbackLabel}

@[simp] theorem claims_addInFlight (slot other : Slot) (amount : BitVec 32) :
    (s.addInFlight slot amount).claims other = s.claims other := rfl

/-- A store to a record that spares its count. -/
theorem CountStep.of_setRecord {slot : Slot} {value : Subscription}
    (registry : t.registry = s.registry.setRecord slot value)
    (callbacks : t.callbacks = s.callbacks)
    (inFlight : value.inFlight = (s.record slot).inFlight) : CountStep s t label := by
  refine .kept (fun other => by rw [claims, claims, callbacks]) fun other => ?_
  rw [record, registry]
  by_cases same : other = slot
  · rw [same, Registry.record_setRecord_self, inFlight]
  · rw [Registry.record_setRecord_of_ne _ _ same]
    rfl

theorem CountStep.of_records (callbacks : t.callbacks = s.callbacks)
    (records : ∀ slot, t.record slot = s.record slot) : CountStep s t label :=
  .kept (fun slot => by rw [claims, claims, callbacks]) fun slot => by rw [records]

/-- A callback moves within one side of its claim. -/
theorem CountStep.of_move (found : s.callbacks[k]? = some callback) {phase : CallbackPhase}
    (counted : ∀ slot, phase.counted slot = callback.phase.counted slot) :
    CountStep s (s.moveCallback k callback phase) label := by
  refine .kept (fun slot => ?_) fun _ => rfl
  have moved := claims_moveCallback found phase slot
  rw [counted slot] at moved
  exact Nat.add_right_cancel moved

theorem CountStep.of_enter {context : Nat} {slot : Slot} {generation : BitVec 32}
    (found : s.callbacks[k]? = some ⟨context, .enter slot generation⟩) :
    CountStep s ((s.moveCallback k ⟨context, .enter slot generation⟩
      (.recheckGeneration slot generation)).addInFlight slot 1) (.callback k) := by
  refine .entered slot generation k rfl (by rw [found]; rfl) ?_ ?_ fun other ne => ⟨?_, ?_⟩
  · have moved := claims_moveCallback found (.recheckGeneration slot generation) slot
    simpa [CallbackPhase.counted] using moved
  · rw [record_addInFlight, if_pos rfl]
    rfl
  · have moved := claims_moveCallback found (.recheckGeneration slot generation) other
    simpa [CallbackPhase.counted, ne.symm] using moved
  · rw [record_addInFlight, if_neg ne]
    rfl

/-- The subtract of a callback that is between its add and its subtract. -/
theorem CountStep.of_leave (found : s.callbacks[k]? = some callback) {slot : Slot}
    (counted : ∀ other, callback.phase.counted other = (slot == other)) :
    CountStep s ((s.moveCallback k callback .done).addInFlight slot (-1)) label := by
  refine .left slot ?_ ?_ fun other ne => ⟨?_, ?_⟩
  · have moved := claims_moveCallback found .done slot
    rw [counted] at moved
    simpa [CallbackPhase.counted] using moved
  · rw [record_addInFlight, if_pos rfl, BitVec.sub_eq_add_neg]
    rfl
  · have moved := claims_moveCallback found .done other
    rw [counted] at moved
    simpa [CallbackPhase.counted, ne.symm] using moved
  · rw [record_addInFlight, if_neg ne]
    rfl

theorem CountStep.of_advance (found : s.callbacks[k]? = some callback)
    (taken : s.advance k callback = some t) : CountStep s t (.callback k) := by
  obtain ⟨context, phase⟩ := callback
  cases phase with
  | readSessionIndex =>
      simp only [advance, Option.map_eq_some_iff] at taken
      obtain ⟨queue, -, moved⟩ := taken
      split at moved <;> subst moved <;> exact .of_move found fun _ => rfl
  | readSubscriberIndex session =>
      simp only [advance, Option.bind_eq_some_iff] at taken
      obtain ⟨queue, -, moved⟩ := taken
      split at moved <;> cases moved
      exact .of_move found fun _ => rfl
  | readGeneration slot =>
      simp only [advance, Option.map_eq_some_iff] at taken
      obtain ⟨queue, -, moved⟩ := taken
      subst moved
      exact .of_move found fun _ => rfl
  | checkQueue slot generation | checkGeneration slot generation | checkActive slot generation =>
      simp only [advance] at taken
      split at taken <;> cases taken <;> exact .of_move found fun _ => rfl
  | enter slot generation =>
      cases taken
      exact .of_enter found
  | recheckGeneration slot generation | recheckActive slot =>
      simp only [advance] at taken
      split at taken <;> cases taken <;> exact .of_move found fun _ => rfl
  | withdraw slot | copying slot =>
      cases taken
      exact .of_leave found fun _ => rfl
  | done => cases taken

theorem CountStep.of_stepLifecycle (taken : s.stepLifecycle = some t) :
    CountStep s t .lifecycle := by
  cases phase : s.lifecycle with
  | idle => simp only [stepLifecycle, phase, reduceCtorEq] at taken
  | storeGeneration slot queue generation =>
      simp only [stepLifecycle, phase, Option.some.injEq] at taken
      subst taken
      exact .of_setRecord rfl rfl rfl
  | storeIndexes slot queue | storeActive slot queue | storeQueue slot queue | clear slot =>
      simp only [stepLifecycle, phase, Option.some.injEq] at taken
      subst taken
      exact .of_setRecord rfl rfl rfl
  | resetInFlight slot queue =>
      simp only [stepLifecycle, phase, Option.some.injEq] at taken
      subst taken
      refine .reset slot queue rfl phase (fun _ => rfl) ?_ fun other ne => ?_
      · exact congrArg Subscription.inFlight (record_setRecord_self slot _)
      · exact congrArg Subscription.inFlight (record_setRecord_of_ne _ ne)
  | drain slot spin =>
      simp only [stepLifecycle, phase] at taken
      split at taken
      · cases taken
        exact .of_records rfl fun _ => rfl
      · split at taken <;> cases taken <;> exact .of_records rfl fun _ => rfl
  | free slot =>
      simp only [stepLifecycle, phase, Option.some.injEq] at taken
      subst taken
      exact .of_records rfl fun other => s.registry.record_freeQueue slot other

theorem CountStep.of_startLifecycle (taken : s.startLifecycle label = some t) :
    CountStep s t label := by
  cases label with
  | openSession =>
      cases taken
      exact .of_records rfl fun slot => s.registry.record_sessionReserve slot
  | closeSession session =>
      simp only [startLifecycle] at taken
      split at taken <;> cases taken
      exact .of_records rfl fun slot => s.registry.record_setState session .closed slot
  | reserve session allocated =>
      simp only [startLifecycle] at taken
      split at taken
      · split at taken <;> cases taken <;> exact .of_records rfl fun _ => rfl
      · cases taken
        exact .of_records rfl fun _ => rfl
  | deactivate slot | release slot =>
      cases taken
      exact .of_setRecord rfl rfl rfl
  | lifecycle | dispatch _ | callback _ | access _ => cases taken

theorem countStep_of_next (taken : s.next label = some t) : CountStep s t label := by
  cases label with
  | lifecycle => exact .of_stepLifecycle taken
  | dispatch context =>
      simp only [next] at taken
      split at taken <;> cases taken
      refine .kept (fun slot => ?_) fun _ => rfl
      simp [claims, CallbackPhase.counted]
  | callback k =>
      simp only [next, Option.bind_eq_some_iff] at taken
      obtain ⟨callback, found, taken⟩ := taken
      exact .of_advance found taken
  | access k =>
      simp only [next] at taken
      split at taken <;> cases taken
      exact .of_records rfl fun _ => rfl
  | openSession | closeSession _ | reserve _ _ | deactivate _ | release _ =>
      simp only [next] at taken
      split at taken
      · exact .of_startLifecycle taken
      · cases taken

/-! ## Runs -/

theorem Accounted.initial : initial.Accounted := fun _ => rfl

/-- Below the wrap a count stays exact. -/
theorem Accounted.next (accounted : s.Accounted) (undisturbed : s.Undisturbed label)
    (taken : s.next label = some t) : t.Accounted := by
  intro other
  cases countStep_of_next taken with
  | kept claims inFlight => rw [claims, inFlight, accounted]
  | reset slot queue step phase claims zero inFlight =>
      by_cases same : other = slot
      · subst same step
        simp only [Undisturbed, phase] at undisturbed
        rw [zero, claims, undisturbed]
        rfl
      · rw [claims, inFlight other same, accounted]
  | entered slot generation k step phase claims inFlight others =>
      by_cases same : other = slot
      · subst same step
        simp only [Undisturbed, phase] at undisturbed
        have count := accounted other
        have room : (s.record other).inFlight ≠ BitVec.allOnes 32 := by
          intro full
          rw [full, BitVec.toNat_allOnes] at count
          omega
        rw [inFlight, Wrapping.toNat_succ room, claims, count]
      · rw [(others other same).1, (others other same).2, accounted]
  | left slot claims inFlight others =>
      by_cases same : other = slot
      · subst same
        have count := accounted other
        rw [inFlight, BitVec.toNat_sub_of_le]
        · rw [count]
          exact Nat.sub_eq_of_eq_add claims.symm
        · rw [BitVec.le_def, count]
          exact claims ▸ Nat.succ_pos _
      · rw [(others other same).1, (others other same).2, accounted]

/-- A store over a callback in between, and an add that wraps, make a count wrong. -/
theorem Accounted.disturbed (disturbed : ¬ s.Undisturbed label) (taken : s.next label = some t) :
    ¬ t.Accounted := by
  intro accounted
  cases label with
  | lifecycle =>
      cases phase : s.lifecycle with
      | resetInFlight slot queue =>
          simp only [Undisturbed, phase] at disturbed
          simp only [CallbackSystem.next, stepLifecycle, phase, Option.some.injEq] at taken
          subst taken
          have zero := congrArg Subscription.inFlight
            (record_setRecord_self (s := s) slot { s.record slot with inFlight := 0 })
          have count := accounted slot
          exact disturbed (count.symm.trans (congrArg BitVec.toNat zero))
      | _ => exact disturbed (by simp only [Undisturbed, phase])
  | callback k =>
      simp only [CallbackSystem.next, Option.bind_eq_some_iff] at taken
      obtain ⟨⟨context, phase⟩, found, taken⟩ := taken
      cases phase with
      | enter slot generation =>
          simp only [Undisturbed, found, Option.map_some] at disturbed
          cases taken
          have moved := claims_moveCallback found (.recheckGeneration slot generation) slot
          simp only [CallbackPhase.counted, beq_self_eq_true, if_true, Bool.false_eq_true, if_false,
            Nat.add_zero] at moved
          have count := accounted slot
          rw [claims_addInFlight, moved] at count
          exact disturbed (count ▸ BitVec.isLt _)
      | _ => exact disturbed (by simp only [Undisturbed, found, Option.map_some])
  | openSession | closeSession _ | reserve _ _ | deactivate _ | release _ | dispatch _ | access _ =>
      exact disturbed trivial

/-- In every state of a run each count is the number of callbacks between their add and
their subtract exactly when in every step of the run `reserve` stores zero only while
there is none, and no add finds the count full. -/
theorem accounted_iff_undisturbed {labels : List CallbackLabel}
    (run : Run next unguarded initial labels s) :
    (∀ before t, before <+: labels → Run next unguarded initial before t → t.Accounted) ↔
      ∀ before label t, before ++ [label] <+: labels → Run next unguarded initial before t →
        t.Undisturbed label :=
  run.forall_good_iff Accounted.initial (fun accounted undisturbed taken =>
    accounted.next undisturbed taken) fun _ disturbed taken => Accounted.disturbed disturbed taken

theorem accounted_iff_undisturbed_orderly : ∃ s : CallbackSystem,
    s.callbacks.map Callback.phase = [.done, .done, .copying (0, 0)] ∧
      ((∀ before t, before <+: orderlySchedule → Run next unguarded initial before t →
        t.Accounted) ↔
          ∀ before label t, before ++ [label] <+: orderlySchedule →
            Run next unguarded initial before t → t.Undisturbed label) := by
  obtain ⟨s, run, seen⟩ := exists_run_of_exec
    (show (exec next unguarded initial orderlySchedule).map (fun s =>
      decide (s.callbacks.map Callback.phase = [.done, .done, .copying (0, 0)])) = some true by
        decide)
  exact ⟨s, of_decide_eq_true seen, accounted_iff_undisturbed run⟩

/-! ## A callback suspended over a reservation -/

/-- A callback adds after its slot was released and before it is reserved again, and
subtracts after that: the count wraps below zero with no callback in between, and once
the next callback has added, a drain reads zero while that one is copying. -/
theorem in_flight_not_accounted :
    (∃ labels s, Run next unguarded initial labels s ∧ s.claims (0, 0) = 0 ∧
      (s.record (0, 0)).inFlight = BitVec.allOnes 32) ∧
    ∃ labels s, Run next unguarded initial labels s ∧ s.claims (0, 0) = 1 ∧
      s.lifecycle = .drain (0, 0) 0 ∧ (s.record (0, 0)).inFlight = 0 := by
  constructor
  · obtain ⟨s, run, seen⟩ := exists_run_of_exec
      (show (exec next unguarded initial (lostClaimSchedule.take 29)).map (fun s =>
        decide (s.claims (0, 0) = 0 ∧ (s.record (0, 0)).inFlight = BitVec.allOnes 32)) = some true
          by decide)
    exact ⟨_, s, run, of_decide_eq_true seen⟩
  · obtain ⟨s, run, seen⟩ := exists_run_of_exec
      (show (exec next unguarded initial (lostClaimSchedule.take 41)).map (fun s =>
        decide (s.claims (0, 0) = 1 ∧ s.lifecycle = .drain (0, 0) 0 ∧
          (s.record (0, 0)).inFlight = 0)) = some true by decide)
    exact ⟨_, s, run, of_decide_eq_true seen⟩

end CallbackSystem
end AxolotyEmbedded.Zenoh
