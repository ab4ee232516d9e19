import AxolotyEmbedded.Zenoh.CarrierInterest

/-!
The round-robin poll. The cursor moves one slot in each turn and never jumps, so a
call that asks the session without asking a given active slot has come closer to it.
-/
namespace AxolotyEmbedded.Zenoh
open Transition

variable {Token : Type} {bounds : CarrierBounds}

/-- The turns a round takes before it looks at `slot`. -/
def turnsTo (cursor slot : Fin maximumSubscriptions) : Nat := (slot - cursor - 1).val

theorem turnsTo_lt (cursor slot : Fin maximumSubscriptions) :
    turnsTo cursor slot < maximumSubscriptions :=
  (slot - cursor - 1).isLt

theorem turnsTo_self : ∀ slot : Fin maximumSubscriptions, turnsTo slot slot = 7 := by decide

theorem turnsTo_next : ∀ cursor slot : Fin maximumSubscriptions, cursor + 1 ≠ slot →
    turnsTo (cursor + 1) slot + 1 = turnsTo cursor slot := by decide

theorem turnsTo_eq_zero : ∀ cursor : Fin maximumSubscriptions, turnsTo cursor (cursor + 1) = 0 := by
  decide

section Round
variable (slots : Fin maximumSubscriptions → ZenohCarrierSlot Token)
  (answers : Fin maximumSubscriptions → Except ZenohResult Message)

/-- The slots that some turns of a round poll, in order: inactive slots are passed
over, and the round goes on after an empty queue or an oversize report only. -/
def roundSlots : Nat → Fin maximumSubscriptions → List (Fin maximumSubscriptions)
  | 0, _ => []
  | turns + 1, cursor =>
      match (slots (cursor + 1)).active, (slots (cursor + 1)).subscription with
      | true, some _ =>
          match answers (cursor + 1) with
          | .error .queueEmpty | .error .frameTooLarge =>
              (cursor + 1) :: roundSlots turns (cursor + 1)
          | _ => [cursor + 1]
      | _, _ => roundSlots turns (cursor + 1)

variable {slots answers} {slot cursor : Fin maximumSubscriptions} {turns : Nat}

theorem mem_roundSlots (polled : slot ∈ roundSlots slots answers turns cursor) :
    (slots slot).active = true ∧ turnsTo cursor slot < turns := by
  induction turns generalizing cursor with
  | zero => cases polled
  | succ turns ih =>
      have near : turnsTo cursor (cursor + 1) < turns + 1 := by
        rw [turnsTo_eq_zero]
        omega
      have later : slot ∈ roundSlots slots answers turns (cursor + 1) →
          (slots slot).active = true ∧ turnsTo cursor slot < turns + 1 := by
        intro polled
        obtain ⟨active, within⟩ := ih polled
        refine ⟨active, ?_⟩
        by_cases here : cursor + 1 = slot
        · rw [← here]
          exact near
        · have step := turnsTo_next cursor slot here
          omega
      rw [roundSlots] at polled
      split at polled
      · next active _ =>
        split at polled
        · obtain rfl | polled := List.mem_cons.mp polled
          · exact ⟨active, near⟩
          · exact later polled
        · obtain rfl | polled := List.mem_cons.mp polled
          · exact ⟨active, near⟩
          · exact later polled
        · obtain rfl := List.mem_singleton.mp polled
          exact ⟨active, near⟩
      · exact later polled

/-- A round of at most as many turns as there are slots polls no slot twice. -/
theorem nodup_roundSlots (turns : Nat) (within : turns ≤ maximumSubscriptions)
    (cursor : Fin maximumSubscriptions) : (roundSlots slots answers turns cursor).Nodup := by
  induction turns generalizing cursor with
  | zero => exact .nil
  | succ turns ih =>
      have rest := ih (by omega) (cursor + 1)
      have once : cursor + 1 ∉ roundSlots slots answers turns (cursor + 1) := by
        intro polled
        have again := (mem_roundSlots polled).2
        rw [turnsTo_self] at again
        simp only [maximumSubscriptions] at within
        omega
      rw [roundSlots]
      split
      · split
        · exact List.nodup_cons.mpr ⟨once, rest⟩
        · exact List.nodup_cons.mpr ⟨once, rest⟩
        · exact List.nodup_singleton _
      · exact rest

end Round

namespace CarrierSystem
variable {s t u : CarrierSystem Token} {turns : Nat} {capacities : PollCapacities}
  {storage : CallerStorage} {reading : BitVec 64}
  {answers : Fin maximumSubscriptions → Except ZenohResult Message}
  {result : ZenohCarrierPollOutcome × CarrierSystem Token × CallerStorage}

/-- The handles some slots are polled with. -/
def handles (s : CarrierSystem Token) (polled : List (Fin maximumSubscriptions)) : List Token :=
  polled.filterMap fun slot => (s.carrier.slots slot).subscription

/-- What some turns of a round do to the session's log, and that an active slot within
their reach is polled or comes closer. -/
structure Rounds (s : CarrierSystem Token)
    (answers : Fin maximumSubscriptions → Except ZenohResult Message) (turns : Nat)
    (result : ZenohCarrierPollOutcome × CarrierSystem Token × CallerStorage) : Prop where
  polled : result.2.1.session.polled = s.session.polled ++
    s.handles (roundSlots s.carrier.slots answers turns s.carrier.pollCursor)
  closer : ∀ slot, (s.carrier.slots slot).active = true →
    (s.carrier.slots slot).subscription.isSome = true →
      turnsTo s.carrier.pollCursor slot < turns →
        slot ∈ roundSlots s.carrier.slots answers turns s.carrier.pollCursor ∨
          result.1 ≠ .noEvent ∧
            turnsTo result.2.1.carrier.pollCursor slot < turnsTo s.carrier.pollCursor slot

/-- A turn that goes on, with the slots it polled. -/
theorem Rounds.after (rest : u.Rounds answers turns result)
    (polled : List (Fin maximumSubscriptions))
    (slots : u.carrier.slots = s.carrier.slots)
    (cursor : u.carrier.pollCursor = s.carrier.pollCursor + 1)
    (log : u.session.polled = s.session.polled ++ s.handles polled)
    (round : roundSlots s.carrier.slots answers (turns + 1) s.carrier.pollCursor =
      polled ++ roundSlots s.carrier.slots answers turns (s.carrier.pollCursor + 1))
    (here : (s.carrier.slots (s.carrier.pollCursor + 1)).active = true →
      (s.carrier.slots (s.carrier.pollCursor + 1)).subscription.isSome = true →
        s.carrier.pollCursor + 1 ∈ polled) : s.Rounds answers (turns + 1) result where
  polled := by
    rw [rest.polled, log, round, slots, cursor, handles, handles, handles, slots,
      List.filterMap_append, List.append_assoc]
  closer slot active held within := by
    rw [round, List.mem_append]
    by_cases same : s.carrier.pollCursor + 1 = slot
    · subst same
      exact .inl (.inl (here active held))
    · have step := turnsTo_next _ _ same
      obtain later | ⟨outcome, nearer⟩ := rest.closer slot (slots ▸ active) (slots ▸ held)
        (by rw [cursor]; omega)
      · rw [slots, cursor] at later
        exact .inl (.inr later)
      · rw [cursor] at nearer
        exact .inr ⟨outcome, by omega⟩

/-- A turn that ends the round. -/
theorem Rounds.stop
    (round : roundSlots s.carrier.slots answers (turns + 1) s.carrier.pollCursor =
      [s.carrier.pollCursor + 1])
    (log : result.2.1.session.polled = s.session.polled ++ s.handles [s.carrier.pollCursor + 1])
    (cursor : result.2.1.carrier.pollCursor = s.carrier.pollCursor + 1)
    (outcome : result.1 ≠ .noEvent) : s.Rounds answers (turns + 1) result where
  polled := by rw [round, log]
  closer slot active held within := by
    rw [round, List.mem_singleton, cursor]
    by_cases same : s.carrier.pollCursor + 1 = slot
    · exact .inl same.symm
    · have step := turnsTo_next _ _ same
      exact .inr ⟨outcome, by omega⟩

theorem copyPendingFrame_asks (s : CarrierSystem Token) (capacities : PollCapacities)
    (storage : CallerStorage) :
    (s.copyPendingFrame capacities storage).1 ≠ .noEvent ∧
      (s.copyPendingFrame capacities storage).2.1.session = s.session ∧
        (s.copyPendingFrame capacities storage).2.1.carrier.pollCursor = s.carrier.pollCursor := by
  by_cases holds : capacities.Holds s.carrier.frames
  · obtain ⟨storage', eq, -⟩ := copyPendingFrame_of_holds holds storage
    rw [eq]
    exact ⟨by simp, rfl, rfl⟩
  · obtain ⟨storage', eq⟩ := copyPendingFrame_of_not_holds holds storage
    rw [eq]
    exact ⟨by simp, rfl, rfl⟩

theorem notePollOutcome_asks (s : CarrierSystem Token) (failure : ZenohResult) :
    (s.notePollOutcome failure).session = s.session ∧
      (s.notePollOutcome failure).carrier = s.carrier := by
  cases failure <;> exact ⟨rfl, rfl⟩

theorem rounds_pollSlots (turns : Nat) (s : CarrierSystem Token) :
    s.Rounds answers turns (pollSlots capacities answers storage turns s) := by
  induction turns generalizing s with
  | zero => exact ⟨by simp [roundSlots, handles, pollSlots], fun _ _ _ within => by omega⟩
  | succ turns ih =>
      rw [pollSlots]
      dsimp only
      split
      · next handle active holds =>
        change (s.carrier.slots (s.carrier.pollCursor + 1)).active = true at active
        change (s.carrier.slots (s.carrier.pollCursor + 1)).subscription = some handle at holds
        have named : s.handles [s.carrier.pollCursor + 1] = [handle] := by
          simp [handles, holds]
        cases answer : answers s.advanceCursor.carrier.pollCursor with
        | ok message =>
            change answers (s.carrier.pollCursor + 1) = _ at answer
            obtain ⟨outcome, session, cursor⟩ := copyPendingFrame_asks
              (s.advanceCursor.store handle message) capacities storage
            refine .stop (by simp [roundSlots, active, holds, answer]) ?_ cursor outcome
            rw [named]
            exact congrArg SessionView.polled session
        | error failure =>
            change answers (s.carrier.pollCursor + 1) = _ at answer
            have noted := notePollOutcome_asks { s.advanceCursor with
              session := s.advanceCursor.session.poll handle (.error failure) } failure
            have log := congrArg SessionView.polled noted.1
            have cursor := congrArg ZenohCarrier.pollCursor noted.2
            have slots := congrArg ZenohCarrier.slots noted.2
            cases failure with
            | queueEmpty | frameTooLarge =>
                refine (ih _).after [s.carrier.pollCursor + 1] slots cursor ?_ ?_ ?_
                · rw [named]
                  exact log
                · simp [roundSlots, active, holds, answer]
                · exact fun _ _ => List.mem_singleton_self _
            | _ =>
                refine .stop (by simp [roundSlots, active, holds, answer]) ?_ cursor (by simp)
                rw [named]
                exact log
      · next passed =>
        refine (ih _).after [] rfl rfl (by simp [handles]; rfl) ?_ ?_
        · rw [roundSlots]
          split
          · next handle active holds => exact absurd holds (passed handle active)
          · rfl
        · intro active held
          obtain ⟨handle, holds⟩ := Option.isSome_iff_exists.mp held
          exact absurd holds (passed handle active)

/-! ## Calls -/

/-- A poll with admitted capacities that starts with no pending frame. -/
def Asks (bounds : CarrierBounds) (s : CarrierSystem Token) : CarrierCall Token → Bool
  | .pollOneEvent capacities _ _ _ =>
      decide (capacities.Admitted bounds) && !s.carrier.hasPendingFrame
  | _ => false

/-- The slots that a call polls at the session, in order. -/
def polledSlots (bounds : CarrierBounds) (s : CarrierSystem Token) :
    CarrierCall Token → List (Fin maximumSubscriptions)
  | .pollOneEvent capacities storage reading answers =>
      if s.Asks bounds (.pollOneEvent capacities storage reading answers) = true ∧
          s.carrier.phase = .subscribed ∧ 0 < s.carrier.activeSlotCount then
        roundSlots s.carrier.slots answers maximumSubscriptions s.carrier.pollCursor
      else []
  | _ => []

theorem keepSessionAlive_asks (s : CarrierSystem Token) (reading : BitVec 64) :
    (s.keepSessionAlive reading).session = s.session ∧
      (s.keepSessionAlive reading).carrier.slots = s.carrier.slots ∧
        (s.keepSessionAlive reading).carrier.pollCursor = s.carrier.pollCursor := by
  unfold keepSessionAlive
  dsimp only
  split <;> exact ⟨rfl, rfl, rfl⟩

/-- A poll that asks the session runs one whole round from the cursor. -/
theorem rounds_of_asks (asks : s.Asks bounds (.pollOneEvent capacities storage reading answers) = true)
    (subscribed : s.carrier.phase = .subscribed) (declared : 0 < s.carrier.activeSlotCount) :
    s.Rounds answers maximumSubscriptions
      (s.pollOneEventOutcome bounds capacities storage reading answers) := by
  simp only [Asks, Bool.and_eq_true, decide_eq_true_eq, Bool.not_eq_true'] at asks
  obtain ⟨admitted, settled⟩ := asks
  have other : s.carrier.phase ≠ .disconnected := by simp [subscribed]
  rw [pollOneEventOutcome, if_pos admitted, if_neg other, if_pos subscribed, settled,
    if_neg Bool.false_ne_true, if_pos declared]
  obtain ⟨session, slots, cursor⟩ := s.keepSessionAlive_asks reading
  have round : (s.keepSessionAlive reading).Rounds answers maximumSubscriptions
      (pollSlots capacities answers storage maximumSubscriptions (s.keepSessionAlive reading)) :=
    rounds_pollSlots ..
  refine ⟨?_, ?_⟩
  · rw [round.polled, session, slots, cursor, handles, handles, slots]
  · intro slot active held within
    have owed := round.closer slot (slots ▸ active) (slots ▸ held) (by rwa [cursor])
    rwa [slots, cursor] at owed

/-- Any other poll leaves the session alone, and finds nothing with no active slot only. -/
theorem idle_poll
    (idle : ¬ (s.Asks bounds (.pollOneEvent capacities storage reading answers) = true ∧
      s.carrier.phase = .subscribed ∧ 0 < s.carrier.activeSlotCount)) :
    (s.pollOneEventOutcome bounds capacities storage reading answers).2.1.session = s.session ∧
      ((s.pollOneEventOutcome bounds capacities storage reading answers).1 = .noEvent →
        s.carrier.activeSlotCount = 0) := by
  obtain ⟨outcome, session, -⟩ := s.copyPendingFrame_asks capacities storage
  simp only [Asks, Bool.and_eq_true, decide_eq_true_eq, Bool.not_eq_true'] at idle
  rw [pollOneEventOutcome]
  split
  · next admitted =>
    split
    · exact ⟨rfl, fun nothing => by cases nothing⟩
    · split
      · next subscribed =>
        split
        · exact ⟨session, fun nothing => absurd nothing outcome⟩
        · next settled =>
          split
          · next declared =>
            exact absurd ⟨⟨admitted, by simpa using settled⟩, subscribed, declared⟩ idle
          · next none => exact ⟨rfl, fun _ => by omega⟩
      · exact ⟨rfl, fun nothing => by cases nothing⟩
  · exact ⟨rfl, fun nothing => by cases nothing⟩

theorem cursor_observeRouters (s : CarrierSystem Token) (answer : Except ZenohResult Nat) :
    (s.observeRouters answer).2.carrier.pollCursor = s.carrier.pollCursor := by
  unfold observeRouters
  dsimp only
  repeat' split
  all_goals rfl

theorem cursor_waitRounds {endMS : BitVec 64} {rounds : List RouterRound} {value : Bool}
    (returned : waitRounds endMS rounds s = some (value, t)) :
    t.carrier.pollCursor = s.carrier.pollCursor := by
  induction rounds generalizing s with
  | nil => cases returned
  | cons round rounds ih =>
      have observed := s.cursor_observeRouters round.answer
      simp only [waitRounds] at returned
      split at returned
      · split at returned
        · next eq =>
          rw [eq] at observed
          cases returned
          exact observed
        · next eq =>
          rw [eq] at observed
          exact (ih returned).trans observed
      · cases returned
        rfl

theorem cursor_waitForReconnect {deadlineMS : BitVec 32} {start : BitVec 64}
    {first : Except ZenohResult Nat} {rounds : List RouterRound} {value : Bool}
    (returned : s.waitForReconnect deadlineMS start first rounds = some (value, t)) :
    t.carrier.pollCursor = s.carrier.pollCursor := by
  have observed := s.cursor_observeRouters first
  unfold waitForReconnect at returned
  split at returned
  · dsimp only at returned
    split at returned
    · next eq =>
      rw [eq] at observed
      cases returned
      exact observed
    · next eq =>
      rw [eq] at observed
      exact (cursor_waitRounds returned).trans observed
  · cases returned
    rfl

/-- A call that asks the session for no frame leaves the cursor, or closes every slot. -/
theorem cursor_of_not_asks [DecidableEq Token] {call : CarrierCall Token}
    (idle : s.Asks bounds call = false) (called : s.next bounds call = some t) :
    t.carrier.pollCursor = s.carrier.pollCursor ∨
      ∀ slot, (t.carrier.slots slot).active = false := by
  cases call with
  | connect endpointLength opened routers =>
      cases called
      left
      simp only [returning, connect]
      repeat' split
      all_goals rfl
  | subscribe topic answer =>
      cases called
      left
      simp only [returning, subscribe]
      repeat' split
      all_goals rfl
  | unsubscribe topic result =>
      cases called
      left
      simp only [returning, unsubscribe]
      repeat' split
      all_goals rfl
  | publish message result =>
      cases called
      left
      simp only [returning, publish, notePublishOutcome]
      repeat' split
      all_goals rfl
  | pollOneEvent capacities storage reading answers =>
      cases called
      left
      have served := (s.copyPendingFrame_asks capacities storage).2.2
      simp only [Asks, Bool.and_eq_false_iff, decide_eq_false_iff_not, Bool.not_eq_false'] at idle
      change (s.pollOneEventOutcome bounds capacities storage reading answers).2.1.carrier.pollCursor
        = s.carrier.pollCursor
      rw [pollOneEventOutcome]
      split
      · next admitted =>
        have pending := idle.resolve_left (not_not.mpr admitted)
        repeat' split
        all_goals first | rfl | exact served
      · rfl
  | waitForReconnect deadlineMS start first rounds =>
      obtain ⟨⟨value, t⟩, returned, rfl⟩ := Option.map_eq_some_iff.mp called
      have cursor := cursor_waitForReconnect returned
      exact .inl cursor
  | disconnect unsubscribed closed =>
      cases called
      rcases s.disconnect_cases unsubscribed closed with ⟨eq, _⟩ | ⟨t, eq, closes⟩ <;> rw [eq]
      · exact .inl rfl
      · right
        intro slot
        change (t.carrier.slots slot).active = false
        rw [closes.slots]
        rfl

variable [DecidableEq Token] {slot : Fin maximumSubscriptions}

/-- While a slot stays active and is not polled, fewer polls ask than turns are left. -/
theorem Standing.asks_le {calls : List (CarrierCall Token)} (standing : s.Standing bounds)
    (run : Run (CarrierSystem.next bounds) unguarded s calls t)
    (active : ∀ step ∈ trace (CarrierSystem.next bounds) s calls,
      (step.1.carrier.slots slot).active = true)
    (missed : ∀ step ∈ trace (CarrierSystem.next bounds) s calls,
      slot ∉ step.1.polledSlots bounds step.2) :
    (trace (CarrierSystem.next bounds) s calls).countP (fun step => step.1.Asks bounds step.2) ≤
      turnsTo s.carrier.pollCursor slot := by
  induction calls generalizing s with
  | nil => exact Nat.zero_le _
  | cons call calls ih =>
      obtain ⟨u, -, called, rest⟩ := Run.cons_iff.mp run
      rw [trace_cons called] at active missed ⊢
      have here := active (s, call) (List.mem_cons_self ..)
      have notPolled := missed (s, call) (List.mem_cons_self ..)
      have later := ih (standing.next called) rest
        (fun step member => active step (List.mem_cons_of_mem _ member))
        (fun step member => missed step (List.mem_cons_of_mem _ member))
      rw [List.countP_cons]
      cases asks : s.Asks bounds call with
      | false =>
          simp only [Bool.false_eq_true, if_false, Nat.add_zero]
          obtain cursor | closed := cursor_of_not_asks asks called
          · rwa [cursor] at later
          · cases calls with
            | nil => exact Nat.zero_le _
            | cons call' calls =>
                have still := active (u, call') (by simp [trace])
                rw [closed slot] at still
                cases still
      | true =>
          cases call with
          | pollOneEvent capacities storage reading answers =>
              have subscribed : s.carrier.phase = .subscribed := by
                by_contra other
                have inactive := standing.closed other slot
                rw [here] at inactive
                cases inactive
              have declared := ZenohCarrier.activeSlotCount_pos.mpr ⟨slot, here⟩
              have round := rounds_of_asks asks subscribed declared
              have owed := round.closer slot here (standing.sound slot here).1 (turnsTo_lt ..)
              rw [polledSlots, if_pos ⟨asks, subscribed, declared⟩] at notPolled
              have nearer := (owed.resolve_left notPolled).2
              cases called
              change turnsTo (receiving _).carrier.pollCursor slot < _ at nearer
              simp only [if_true]
              omega
          | _ => cases asks

/-- From every reachable state and whatever the session answers: of any calls during
which a slot stays active and eight polls ask the session, one polls that slot. A single
poll logs the slots it polls, each active and no two alike, and it finds nothing only
after polling every active slot. -/
theorem round_robin {before : List (CarrierCall Token)}
    (reached : Run (CarrierSystem.next bounds) unguarded .initial before s) :
    (∀ calls t, Run (CarrierSystem.next bounds) unguarded s calls t →
      ∀ slot : Fin maximumSubscriptions,
        (∀ step ∈ trace (CarrierSystem.next bounds) s calls,
          (step.1.carrier.slots slot).active = true) →
        maximumSubscriptions ≤ (trace (CarrierSystem.next bounds) s calls).countP
          (fun step => step.1.Asks bounds step.2) →
        ∃ step ∈ trace (CarrierSystem.next bounds) s calls,
          slot ∈ step.1.polledSlots bounds step.2) ∧
      ∀ capacities storage reading answers t,
        s.next bounds (.pollOneEvent capacities storage reading answers) = some t →
          let polled := s.polledSlots bounds (.pollOneEvent capacities storage reading answers)
          t.session.polled = s.session.polled ++ s.handles polled ∧ polled.Nodup ∧
            (∀ slot ∈ polled, (s.carrier.slots slot).active = true) ∧
            (t.reply = some (.polled .noEvent) →
              ∀ slot, (s.carrier.slots slot).active = true → slot ∈ polled) := by
  have standing := Standing.of_run reached
  constructor
  · intro calls t run slot active eight
    by_contra never
    have few := standing.asks_le run active fun step member polled =>
      never ⟨step, member, polled⟩
    have bound := turnsTo_lt s.carrier.pollCursor slot
    omega
  · intro capacities storage reading answers t called
    cases called
    by_cases asking : s.Asks bounds (.pollOneEvent capacities storage reading answers) = true ∧
        s.carrier.phase = .subscribed ∧ 0 < s.carrier.activeSlotCount
    · obtain ⟨asks, subscribed, declared⟩ := asking
      have round := rounds_of_asks asks subscribed declared
      simp only [polledSlots, asks, subscribed, declared, and_self, if_true]
      refine ⟨round.polled, nodup_roundSlots _ (Nat.le_refl _) _,
        fun slot polled => (mem_roundSlots polled).1, ?_⟩
      intro nothing slot active
      refine (round.closer slot active (standing.sound slot active).1 (turnsTo_lt ..)).resolve_right ?_
      rintro ⟨outcome, -⟩
      exact outcome (by simpa [receiving] using nothing)
    · simp only [polledSlots, if_neg asking, handles, List.filterMap_nil, List.append_nil,
        List.nodup_nil, List.not_mem_nil, false_implies, implies_true, true_and]
      obtain ⟨session, nothing⟩ := idle_poll asking
      refine ⟨congrArg SessionView.polled session, fun replied slot active => ?_⟩
      have none := nothing (by simpa [receiving] using replied)
      have declared := ZenohCarrier.activeSlotCount_pos.mpr ⟨slot, active⟩
      omega

/-- Two slots, of which the first always answers with an error. -/
def contendedCalls : List (CarrierCall Nat) :=
  [.connect 5 .ok (.ok 1), .subscribe [0x61] (.ok 3), .subscribe [0x62] (.ok 4)]

def contendedPoll : CarrierCall Nat :=
  .pollOneEvent ⟨1, 1⟩ blankStorage 0
    fun slot => if slot = 0 then .error .transportError else .error .queueEmpty

def contendedPolls : List (CarrierCall Nat) := List.replicate 8 contendedPoll

theorem round_robin_contended : ∃ s t : CarrierSystem Nat,
    Run (CarrierSystem.next smokeBounds) unguarded s contendedPolls t ∧
      t.session.polled = [4, 3, 4, 3, 4, 3, 4, 3, 4, 3, 4, 3, 4, 3, 4, 3] ∧
      ∃ step ∈ trace (CarrierSystem.next smokeBounds) s contendedPolls,
        1 ∈ step.1.polledSlots smokeBounds step.2 := by
  obtain ⟨s, reached, seen⟩ := exists_run_of_exec
    (show (exec (CarrierSystem.next smokeBounds) unguarded .initial contendedCalls).map
      (fun s =>
        (exec (CarrierSystem.next smokeBounds) unguarded s contendedPolls).map
          (fun t => decide (t.session.polled =
            [4, 3, 4, 3, 4, 3, 4, 3, 4, 3, 4, 3, 4, 3, 4, 3])) == some true &&
        (trace (CarrierSystem.next smokeBounds) s contendedPolls).all
          (fun step => (step.1.carrier.slots 1).active) &&
        decide (maximumSubscriptions ≤ (trace (CarrierSystem.next smokeBounds) s
          contendedPolls).countP fun step => step.1.Asks smokeBounds step.2)) = some true by
      decide +kernel)
  simp only [Bool.and_eq_true, beq_iff_eq, List.all_eq_true, decide_eq_true_eq] at seen
  obtain ⟨⟨replayed, active⟩, eight⟩ := seen
  obtain ⟨t, run, polled⟩ := exists_run_of_exec replayed
  exact ⟨s, t, run, of_decide_eq_true polled,
    (round_robin reached).1 contendedPolls t run 1 active eight⟩

end CarrierSystem
end AxolotyEmbedded.Zenoh
