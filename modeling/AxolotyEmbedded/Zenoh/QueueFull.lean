import AxolotyEmbedded.Zenoh.QueueOrder

/-!
When an admit drops its frame. The full test subtracts the current `read_index`
from a `write` that was loaded before. While the releases have not overtaken
that `write`, a drop means a full queue. Once they have, the difference wraps
and the frame is dropped whatever the queue holds.
-/
namespace AxolotyEmbedded.Zenoh
open Wrapping Transition

variable {config : QueueConfig} {s t : QueueState} {i : Nat}

/-- The way from the full test to the `return 0` of a dropped frame. -/
def AdmitPhase.dropping : AdmitPhase → Bool
  | .countDropped | .reportDropped => true
  | _ => false

/-- Producer `i` enters a call. -/
def QueueLabel.begins (i : Nat) : QueueLabel → Bool
  | .queueAdmit j _ | .noteOversized j => j == i
  | _ => false

/-- History: whether the queue was full at some moment of the current call of
each producer. -/
def recordFull (config : QueueConfig) (sawFull : Nat → Bool) (label : QueueLabel)
    (t : QueueState) (i : Nat) : Bool :=
  (!label.begins i && sawFull i) || decide (t.depth = config.capacity)

/-- No frame past the `write` of a full test has been released. -/
def QueueState.NotOvertaken (s : QueueState) : QueueLabel → Prop
  | .produce i =>
      match (s.producers i).phase with
      | .loadRead _ => s.returned.length ≤ (s.producers i).observed
      | _ => True
  | _ => True

/-- The full test of a `write` that was not overtaken passes only at a full queue. -/
theorem QueueState.Inv.depth_of_full_test (inv : s.Inv config) {write : BitVec 32}
    (phase : (s.producers i).phase = .loadRead write) (fresh : s.NotOvertaken (.produce i))
    (full : config.capacity ≤ (write - s.queue.readIndex).toNat) : s.depth = config.capacity := by
  have ok := inv.producer i
  unfold Producer.Ok at ok
  unfold QueueState.NotOvertaken at fresh
  simp only [phase] at ok fresh
  have hroom := inv.bounded
  have hcap := config.capacity_lt
  rw [ok.1, inv.readIndex, toNat_ofNat_sub fresh (by omega)] at full
  rw [inv.depth_eq]
  omega

/-! ## How a producer comes to drop -/

theorem QueueState.produce_others {j : Nat} (taken : s.produce config j = some t) (ne : i ≠ j) :
    t.producers i = s.producers i := by
  have hset : ∀ (s' : QueueState) producer, (s'.setProducer j producer).producers i =
      s'.producers i := fun _ _ => Function.update_of_ne ne ..
  unfold QueueState.produce at taken
  cases phase : (s.producers j).phase <;> simp only [phase] at taken <;>
    first
    | (cases taken; done)
    | (cases taken; exact hset ..)
    | (split at taken <;> cases taken <;> exact hset ..)

theorem QueueState.consume_producers (taken : s.consume config = some t) :
    t.producers = s.producers := by
  unfold QueueState.consume at taken
  cases phase : s.consumer.phase <;> simp only [phase] at taken <;>
    first
    | (cases taken; done)
    | (cases taken; rfl)
    | (split at taken <;> cases taken <;> rfl)

theorem QueueState.dropping_of_produce (taken : s.produce config i = some t)
    (dropping : (t.producers i).phase.dropping = true) :
    (s.producers i).phase.dropping = true ∨
      (t.depth = s.depth ∧ ∃ write, (s.producers i).phase = .loadRead write ∧
        config.capacity ≤ (write - s.queue.readIndex).toNat) := by
  have hset : ∀ (s' : QueueState) producer, ((s'.setProducer i producer).producers i).phase =
      producer.phase := fun _ _ => by rw [setProducer_self]
  unfold QueueState.produce at taken
  cases phase : (s.producers i).phase <;> simp only [phase] at taken
  case loadRead write =>
    split at taken <;> cases taken
    · rename_i full
      exact .inr ⟨rfl, write, rfl, full⟩
    · rw [QueueState.setPhase, hset] at dropping
      cases dropping
  case countDropped => exact .inl rfl
  case reportDropped => exact .inl rfl
  all_goals
    first
    | (cases taken; done)
    | (cases taken
       rw [hset] at dropping
       cases dropping)
    | (cases taken
       rw [QueueState.setPhase, hset] at dropping
       cases dropping)
    | (split at taken <;> cases taken <;> simp only [QueueState.setPhase, hset] at dropping <;>
        cases dropping)

/-- A producer is on its way to return 0 because it was before the step, or
because its full test has just passed. -/
theorem QueueState.dropping_of_next {label : QueueLabel} (taken : s.next config label = some t)
    (dropping : (t.producers i).phase.dropping = true) :
    (label.begins i = false ∧ (s.producers i).phase.dropping = true) ∨
      (label = .produce i ∧ t.depth = s.depth ∧ ∃ write, (s.producers i).phase = .loadRead write ∧
        config.capacity ≤ (write - s.queue.readIndex).toNat) := by
  cases label with
  | queueAdmit j arguments =>
      simp only [QueueState.next] at taken
      split at taken <;> cases taken
      by_cases same : i = j
      · subst same
        rw [setProducer_self] at dropping
        dsimp only at dropping
        split at dropping <;> cases dropping
      · refine .inl ⟨by simpa [QueueLabel.begins] using Ne.symm same, ?_⟩
        rwa [show (s.setProducer j _).producers i = s.producers i from
          Function.update_of_ne same ..] at dropping
  | noteOversized j =>
      simp only [QueueState.next] at taken
      split at taken <;> cases taken
      by_cases same : i = j
      · subst same
        rw [setProducer_self] at dropping
        cases dropping
      · refine .inl ⟨by simpa [QueueLabel.begins] using Ne.symm same, ?_⟩
        rwa [show (s.setProducer j _).producers i = s.producers i from
          Function.update_of_ne same ..] at dropping
  | produce j =>
      by_cases same : i = j
      · subst same
        rcases QueueState.dropping_of_produce taken dropping with before | ⟨depth, full⟩
        · exact .inl ⟨rfl, before⟩
        · exact .inr ⟨rfl, depth, full⟩
      · rw [QueueState.produce_others taken same] at dropping
        exact .inl ⟨rfl, dropping⟩
  | poll arguments =>
      simp only [QueueState.next] at taken
      split at taken
      · split at taken <;> cases taken <;> exact .inl ⟨rfl, dropping⟩
      · cases taken
  | consume =>
      rw [QueueState.consume_producers taken] at dropping
      exact .inl ⟨rfl, dropping⟩

/-- Only a producer past a passed full test counts a drop. -/
theorem QueueState.dropped_of_next {label : QueueLabel} (taken : s.next config label = some t)
    (counted : t.queue.dropped ≠ s.queue.dropped) :
    ∃ i, label = .produce i ∧ (s.producers i).phase = .countDropped := by
  cases label with
  | queueAdmit j arguments =>
      simp only [QueueState.next] at taken
      split at taken <;> cases taken
      exact absurd rfl counted
  | noteOversized j =>
      simp only [QueueState.next] at taken
      split at taken <;> cases taken
      exact absurd rfl counted
  | produce j =>
      refine ⟨j, rfl, ?_⟩
      simp only [QueueState.next, QueueState.produce] at taken
      cases phase : (s.producers j).phase <;> simp only [phase] at taken <;>
        first
        | rfl
        | (cases taken; done)
        | (cases taken; exact absurd rfl counted)
        | (split at taken <;> cases taken <;> exact absurd rfl counted)
  | poll arguments =>
      simp only [QueueState.next] at taken
      split at taken
      · split at taken <;> cases taken <;> exact absurd rfl counted
      · cases taken
  | consume =>
      simp only [QueueState.next, QueueState.consume] at taken
      cases phase : s.consumer.phase <;> simp only [phase] at taken <;>
        first
        | (cases taken; done)
        | (cases taken; exact absurd rfl counted)
        | (split at taken <;> cases taken <;> exact absurd rfl counted)

/-! ## Drops while no release overtakes -/

/-- The queue with the history of full moments. -/
abbrev QueueState.nextRecorded (config : QueueConfig) :=
  recorded (QueueState.next config) (recordFull config)

/-- Within the exchange bound, no full test runs on an overtaken `write`. -/
def QueueState.Fresh (s : QueueState) (label : QueueLabel) : Prop :=
  s.ClaimsFit label ∧ s.NotOvertaken label

/-- The full test comes next. -/
def AdmitPhase.testing : AdmitPhase → Bool
  | .loadRead _ => true
  | _ => false

theorem QueueState.notOvertaken_produce (s : QueueState) (i : Nat) :
    s.NotOvertaken (.produce i) ↔
      ((s.producers i).phase.testing = true → s.returned.length ≤ (s.producers i).observed) := by
  simp only [NotOvertaken, AdmitPhase.testing]
  split <;> simp

instance (s : QueueState) : (label : QueueLabel) → Decidable (s.NotOvertaken label)
  | .produce i => decidable_of_iff' _ (s.notOvertaken_produce i)
  | .queueAdmit .. | .noteOversized _ | .poll _ | .consume => inferInstanceAs (Decidable True)

instance (s : QueueState) (label : QueueLabel) : Decidable (s.Fresh label) :=
  inferInstanceAs (Decidable (_ ∧ _))

/-- Every producer on its way to return 0 has seen the queue full. -/
def SawFull (config : QueueConfig) (p : QueueState × (Nat → Bool)) : Prop :=
  p.1.Inv config ∧ ∀ i, (p.1.producers i).phase.dropping = true → p.2 i = true

/-- In a run whose full tests are not overtaken, an admit that drops its frame
and counts the drop has seen the queue full during its call. -/
theorem QueueState.full_of_dropping {labels : List QueueLabel}
    {p : QueueState × (Nat → Bool)}
    (run : Run (QueueState.nextRecorded config) (fun p label => p.1.Fresh label)
      (.initial, fun _ => false) labels p) :
    (∀ i, (p.1.producers i).phase.dropping = true → p.2 i = true) ∧
      ∀ label t, p.1.next config label = some t → t.queue.dropped ≠ p.1.queue.dropped →
        ∃ i, label = .produce i ∧ p.2 i = true := by
  have keeps : SawFull config p := by
    refine run.invariant ⟨Inv.initial, fun i dropping => by cases dropping⟩ ?_
    rintro a b label ⟨inv, saw⟩ ⟨fits, fresh⟩ taken
    obtain ⟨step, history⟩ := recorded_eq_some taken
    refine ⟨inv.next fits step, fun i dropping => ?_⟩
    rw [history, recordFull]
    rcases QueueState.dropping_of_next step dropping with
      ⟨inside, before⟩ | ⟨rfl, depth, write, phase, full⟩
    · rw [inside, saw i before]
      rfl
    · rw [depth, inv.depth_of_full_test phase fresh full, decide_eq_true rfl, Bool.or_true]
  refine ⟨keeps.2, fun label t taken counted => ?_⟩
  obtain ⟨i, rfl, phase⟩ := QueueState.dropped_of_next taken counted
  exact ⟨i, rfl, keeps.2 i (by rw [phase]; rfl)⟩

/-- Producer 0 fills the queue and drops a fifth frame. -/
def fillingSchedule : List QueueLabel :=
  (List.replicate 4 (.queueAdmit 0 (emptyFrame 7) :: List.replicate 9 (.produce 0))).flatten ++
    [.queueAdmit 0 (emptyFrame 9), .produce 0, .produce 0]

theorem QueueState.full_of_dropping_filling :
    ∃ p : QueueState × (Nat → Bool), (p.1.producers 0).phase = .countDropped ∧
      (∀ i, (p.1.producers i).phase.dropping = true → p.2 i = true) ∧
      ∀ label t, p.1.next smokeConfig label = some t → t.queue.dropped ≠ p.1.queue.dropped →
        ∃ i, label = .produce i ∧ p.2 i = true := by
  obtain ⟨p, run, seen⟩ := exists_run_of_exec
    (show (exec (QueueState.nextRecorded smokeConfig) (fun p label => p.1.Fresh label)
      (.initial, fun _ => false) fillingSchedule).map (fun p =>
        decide ((p.1.producers 0).phase = .countDropped)) = some true by decide)
  exact ⟨p, of_decide_eq_true seen, QueueState.full_of_dropping run⟩

/-! ## A drop with room -/

/-- Producer 0 has loaded `write` when producer 1 admits a frame that the consumer
then returns; the full test of producer 0 reads the index past it. -/
def staleSchedule : List QueueLabel :=
  [.queueAdmit 0 (emptyFrame 7), .produce 0, .queueAdmit 1 (emptyFrame 9)] ++
    List.replicate 9 (.produce 1) ++ [.poll roomyPoll] ++ List.replicate 11 .consume ++
      [.produce 0, .produce 0]

/-- An admit counts a full-queue drop though the queue of capacity 4 never held
more than one frame during its call. -/
theorem QueueState.dropped_with_room :
    ¬ ∀ (labels : List QueueLabel) (p : QueueState × (Nat → Bool)),
      Run (QueueState.nextRecorded smokeConfig) (fun p label => p.1.ClaimsFit label)
        (.initial, fun _ => false) labels p →
      ∀ i, (p.1.producers i).phase.dropping = true → p.2 i = true := by
  intro holds
  obtain ⟨p, run, seen⟩ := exists_run_of_exec
    (show (exec (QueueState.nextRecorded smokeConfig) (fun p label => p.1.ClaimsFit label)
      (.initial, fun _ => false) staleSchedule).map (fun p =>
        (p.1.producers 0).phase.dropping && decide (p.1.queue.dropped = 1) && !p.2 0) = some true
      by decide)
  simp only [Bool.and_eq_true, Bool.not_eq_true'] at seen
  have full := holds _ p run 0 seen.1.1
  rw [seen.2] at full
  cases full

end AxolotyEmbedded.Zenoh
