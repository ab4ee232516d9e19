import AxolotyEmbedded.Zenoh.QueueSteps
import AxolotyEmbedded.Library.Fifo

/-!
The receive queue is a bounded first-in first-out channel: a won exchange puts
the frame of its admit, and a poll that returns `ok` takes the oldest one. In
between no other thread touches the slot of a claimed position.
-/
namespace AxolotyEmbedded.Zenoh
open Wrapping Transition

variable {config : QueueConfig} {s t : QueueState} {i : Nat}

/-- The index whose slot the next store of a producer goes to. -/
def AdmitPhase.target : AdmitPhase → Option (BitVec 32)
  | .copyKey write _ | .copyPayload write _ | .storeKeyLength write | .storePayloadLength write
  | .publish write => some write
  | _ => none

theorem AdmitPhase.filling_of_target {phase : AdmitPhase} {write : BitVec 32}
    (target : phase.target = some write) : phase.filling = true := by
  cases phase <;> first | rfl | cases target

/-! ## The two linearization points -/

theorem QueueState.produce_histories (taken : s.produce config i = some t) :
    t.returned = s.returned ∧
      (t.claimed = s.claimed ∨ ∃ message, t.claimed = s.claimed ++ [message]) := by
  unfold QueueState.produce at taken
  cases phase : (s.producers i).phase <;> simp only [phase] at taken <;>
    first
    | (cases taken; done)
    | (cases taken; exact ⟨rfl, .inl rfl⟩)
    | (split at taken <;> cases taken <;>
        first
        | exact ⟨rfl, .inl rfl⟩
        | exact ⟨rfl, .inr ⟨_, rfl⟩⟩)

theorem QueueState.consume_histories (taken : s.consume config = some t) :
    t.claimed = s.claimed ∧
      (t.returned = s.returned ∨ ∃ message, t.returned = s.returned ++ [message]) := by
  unfold QueueState.consume at taken
  cases phase : s.consumer.phase <;> simp only [phase] at taken <;>
    first
    | (cases taken; done)
    | (cases taken; exact ⟨rfl, .inl rfl⟩)
    | (cases taken; exact ⟨rfl, .inr ⟨_, rfl⟩⟩)
    | (split at taken <;> cases taken <;> exact ⟨rfl, .inl rfl⟩)

/-- A step claims one frame, returns one frame, or does neither. -/
theorem QueueState.next_histories {label : QueueLabel} (taken : s.next config label = some t) :
    (t.claimed = s.claimed ∧ t.returned = s.returned) ∨
      (t.returned = s.returned ∧ ∃ message, t.claimed = s.claimed ++ [message]) ∨
        (t.claimed = s.claimed ∧ ∃ message, t.returned = s.returned ++ [message]) := by
  cases label with
  | queueAdmit i arguments =>
      simp only [QueueState.next] at taken
      split at taken <;> cases taken
      exact .inl ⟨rfl, rfl⟩
  | noteOversized i =>
      simp only [QueueState.next] at taken
      split at taken <;> cases taken
      exact .inl ⟨rfl, rfl⟩
  | produce i =>
      obtain ⟨returned, claimed | claimed⟩ := QueueState.produce_histories taken
      · exact .inl ⟨claimed, returned⟩
      · exact .inr (.inl ⟨returned, claimed⟩)
  | poll arguments =>
      simp only [QueueState.next] at taken
      split at taken
      · split at taken <;> cases taken <;> exact .inl ⟨rfl, rfl⟩
      · cases taken
  | consume =>
      obtain ⟨claimed, returned | returned⟩ := QueueState.consume_histories taken
      · exact .inl ⟨claimed, returned⟩
      · exact .inr (.inr ⟨claimed, returned⟩)

/-! ## Refinement -/

/-- The channel a state of the queue stands for. -/
def QueueState.Inv.fifo (inv : s.Inv config) : Fifo Message config.capacity :=
  ⟨s.claimed, s.returned, inv.inOrder, inv.bounded⟩

/-- Every run of the queue is a run of the bounded channel, with a won exchange
as the put and a returned frame as the take. -/
theorem QueueState.refines_fifo {labels : List QueueLabel}
    (run : Run (QueueState.next config) QueueState.ClaimsFit .initial labels s) :
    ∃ actions, ∃ fifo : Fifo Message config.capacity,
      Run Fifo.next unguarded .empty actions fifo ∧ fifo.put = s.claimed ∧
        fifo.taken = s.returned := by
  have simulated : ∃ actions fifo, Run Fifo.next unguarded .empty actions fifo ∧
      ∃ inv : s.Inv config, fifo = inv.fifo := by
    have start : (Inv.initial : QueueState.initial.Inv config).fifo = .empty := rfl
    refine run.simulated (fun s fifo => ∃ inv : s.Inv config, fifo = inv.fifo)
      ⟨Inv.initial, start.symm⟩ ?_
    rintro a b _ label ⟨inv, rfl⟩ fits taken
    have inv' := inv.next fits taken
    rcases QueueState.next_histories taken with
      ⟨claimed, returned⟩ | ⟨returned, message, claimed⟩ | ⟨claimed, message, returned⟩
    · refine ⟨[], inv'.fifo, ?_, inv', rfl⟩
      have same : inv'.fifo = inv.fifo := by simp only [Inv.fifo, claimed, returned]
      rw [same]
      exact .nil
    · exact ⟨_, inv'.fifo, Fifo.run_put claimed returned, inv', rfl⟩
    · exact ⟨_, inv'.fifo, Fifo.run_take claimed returned, inv', rfl⟩
  obtain ⟨actions, fifo, abstract, inv, rfl⟩ := simulated
  exact ⟨actions, _, abstract, rfl, rfl⟩

/-! ## What every run keeps -/

/-- The slot producer `i` writes is its own: every other frame ever claimed for
that slot has been returned, and no other producer is writing it. -/
structure QueueState.WritesOwnSlot (config : QueueConfig) (s : QueueState) (i : Nat)
    (write : BitVec 32) : Prop where
  claimed : s.claimed[(s.producers i).ticket]? = some (s.producers i).arguments.message
  unreleased : s.returned.length ≤ (s.producers i).ticket
  slot : config.slot write = (s.producers i).ticket % config.capacity
  released : ∀ q < s.claimed.length, q % config.capacity = config.slot write →
    q ≠ (s.producers i).ticket → q < s.returned.length
  alone : ∀ j other, (s.producers j).phase.target = some other →
    config.slot other = config.slot write → j = i

theorem QueueState.Inv.writesOwnSlot (inv : s.Inv config) {write : BitVec 32}
    (target : (s.producers i).phase.target = some write) : s.WritesOwnSlot config i write := by
  have hroom := inv.bounded
  -- The index a producer writes through stands for its ticket.
  have hown : ∀ {j word}, (s.producers j).phase.target = some word →
      (s.producers j).Owns (s.frameAt config (s.producers j).ticket) s.claimed s.returned.length
        word := by
    intro j word target
    have ok := inv.producer j
    unfold Producer.Ok at ok
    cases phase : (s.producers j).phase <;> rw [phase] at ok target <;> cases target <;> exact ok
  have hslot : ∀ {j word}, (s.producers j).phase.target = some word →
      config.slot word = (s.producers j).ticket % config.capacity := by
    intro j word target
    rw [(hown target).write_eq, config.slot_ofNat]
  have hbounds := inv.ticket_bounds (AdmitPhase.filling_of_target target)
  constructor
  case claimed => exact (hown target).claimed
  case unreleased => exact hbounds.1
  case slot => exact hslot target
  case released =>
    intro q below same ne
    by_contra unreleased
    rw [hslot target] at same
    exact slot_ne ⟨by omega, by omega⟩ ⟨hbounds.1, by omega⟩ ne same
  case alone =>
    intro j other target' same
    have filling' := AdmitPhase.filling_of_target target'
    have hbounds' := inv.ticket_bounds filling'
    rw [hslot target, hslot target'] at same
    refine inv.distinct j i filling' (AdmitPhase.filling_of_target target) ?_
    by_contra ne
    exact slot_ne ⟨hbounds'.1, by omega⟩ ⟨hbounds.1, by omega⟩ ne same

theorem QueueState.Inv.depth_eq (inv : s.Inv config) :
    s.depth = s.claimed.length - s.returned.length := by
  have := inv.bounded
  have := config.capacity_lt
  rw [QueueState.depth, inv.writeIndex, inv.readIndex]
  exact toNat_ofNat_sub inv.released_le (by omega)

/-- In every reachable state the returned frames are a prefix of the claimed
ones, each claimed frame not yet returned is in its slot or being written there
by the producer that claimed it, and the two indexes are at most the capacity
apart. -/
theorem QueueState.returned_prefix_claimed {labels : List QueueLabel}
    (run : Run (QueueState.next config) QueueState.ClaimsFit .initial labels s) :
    s.returned <+: s.claimed ∧ s.depth = s.claimed.length - s.returned.length ∧
      s.depth ≤ config.capacity ∧
      (∀ q, s.returned.length ≤ q → q < s.claimed.length → s.Occupied config q) ∧
      ∀ i write, (s.producers i).phase.target = some write → s.WritesOwnSlot config i write := by
  have inv := Inv.of_run run
  refine ⟨inv.inOrder, inv.depth_eq, ?_, inv.occupied, fun i write => inv.writesOwnSlot⟩
  have := inv.bounded
  rw [inv.depth_eq]
  omega

/-! ## A run of two producers -/

/-- A frame of one key byte and no payload. -/
def emptyFrame (key : UInt8) : AdmitArguments := ⟨some fun _ => key, 1, none, 0⟩

/-- A poll with room for every admitted frame. -/
def roomyPoll : PollArguments := ⟨some fun _ => 0, 256, some 0, some fun _ => 0, 2048, some 0⟩

/-- Producer 0 has passed its full test when producer 1 claims the first slot; the
consumer returns that frame, and producer 0 claims the next slot. -/
def overtakenSchedule : List QueueLabel :=
  [.queueAdmit 0 (emptyFrame 7), .produce 0, .produce 0, .queueAdmit 1 (emptyFrame 9)] ++
    List.replicate 9 (.produce 1) ++ [.produce 0, .poll roomyPoll] ++
    List.replicate 11 .consume ++ [.produce 0, .produce 0, .produce 0]

theorem QueueState.returned_prefix_claimed_overtaken :
    ∃ s : QueueState, s.returned = [⟨[9], []⟩] ∧ s.claimed = [⟨[9], []⟩, ⟨[7], []⟩] ∧
      s.returned <+: s.claimed ∧ s.depth = s.claimed.length - s.returned.length ∧
      s.depth ≤ smokeConfig.capacity ∧
      (∀ q, s.returned.length ≤ q → q < s.claimed.length → s.Occupied smokeConfig q) ∧
      ∀ i write, (s.producers i).phase.target = some write →
        s.WritesOwnSlot smokeConfig i write := by
  obtain ⟨s, run, seen⟩ := exists_run_of_exec
    (show (exec (QueueState.next smokeConfig) QueueState.ClaimsFit .initial
      overtakenSchedule).map (fun s => decide (s.returned = [⟨[9], []⟩] ∧
        s.claimed = [⟨[9], []⟩, ⟨[7], []⟩])) = some true by decide)
  obtain ⟨returned, claimed⟩ := of_decide_eq_true seen
  exact ⟨s, returned, claimed, QueueState.returned_prefix_claimed run⟩

end AxolotyEmbedded.Zenoh
