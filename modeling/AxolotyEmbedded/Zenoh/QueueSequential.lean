import AxolotyEmbedded.Zenoh.QueueInvariant

/-!
The receive queue under one thread: whole calls of `zenoh_pico_queue_admit`,
`zenoh_pico_queue_note_oversized` and `zenoh_pico_queue_poll` against a bounded FIFO
that drops the newest frame when it is full and reports each group of drops once.
-/
namespace AxolotyEmbedded

/-- Copying the bytes of a value is copying the value. -/
theorem Memory.copy_eq_copy_ofList {source : Memory} {length : Nat} {value : List UInt8}
    (same : source.bytes length = value) (target : Memory) :
    target.copy source length = target.copy (ofList value) value.length := by
  subst same
  funext offset
  simp only [copy, length_bytes]
  split
  · rename_i inside
    simp [ofList, bytes, inside]
  · rfl

namespace Zenoh
open Wrapping

/-! ## The calls -/

namespace ZenohPicoQueue
variable (config : QueueConfig) (queue : ZenohPicoQueue)

def noteOversized : ZenohPicoQueue :=
  { queue with
    oversized := queue.oversized + 1
    reportOversized := 1 }

/-- The frame at `write`, published with what the call was passed. -/
def store (arguments : AdmitArguments) : ZenohPicoQueue :=
  let slot := config.slot queue.writeIndex
  let frame := queue.frames slot
  { queue with
    writeIndex := queue.writeIndex + 1
    frames := Function.update queue.frames slot
      { key := frame.key.copy arguments.keyBytes arguments.keyLength
        payload := frame.payload.copy arguments.payloadBytes arguments.payloadLength
        keyLength := arguments.keyLength
        payloadLength := arguments.payloadLength
        published := 1 } }

/-- With no other thread the exchange succeeds at its first turn. -/
def queueAdmit (arguments : AdmitArguments) : Bool × ZenohPicoQueue :=
  if arguments.fits config.toCarrierBounds then
    if config.capacity ≤ (queue.writeIndex - queue.readIndex).toNat then
      (false, { queue with
        dropped := queue.dropped + 1
        reportFull := 1 })
    else (true, queue.store config arguments)
  else (false, queue.noteOversized)

/-- The slot at `read` is free again. -/
def release : ZenohPicoQueue :=
  let slot := config.slot queue.readIndex
  { queue with
    readIndex := queue.readIndex + 1
    frames := Function.update queue.frames slot { queue.frames slot with published := 0 } }

/-- The result, what the passed pointers address afterwards, and the queue. -/
def queuePoll (arguments : PollArguments) : ZenohResult × PollArguments × ZenohPicoQueue :=
  match arguments.key, arguments.keyLength, arguments.payload, arguments.payloadLength with
  | some key, some _, some payload, some _ =>
      if queue.readIndex = queue.writeIndex then
        if queue.reportFull ≠ 0 then (.queueFull, arguments, { queue with reportFull := 0 })
        else if queue.reportOversized ≠ 0 then
          (.frameTooLarge, arguments, { queue with reportOversized := 0 })
        else (.queueEmpty, arguments, queue)
      else
        let frame := queue.frames (config.slot queue.readIndex)
        if frame.published = 0 then (.queueEmpty, arguments, queue)
        else if arguments.keyCapacity < frame.keyLength ∨
            arguments.payloadCapacity < frame.payloadLength then
          (.invalidArgument, arguments, queue)
        else (.ok, { arguments with
          key := some (key.copy frame.key frame.keyLength)
          keyLength := some frame.keyLength
          payload := some (payload.copy frame.payload frame.payloadLength)
          payloadLength := some frame.payloadLength }, queue.release config)
  | _, _, _, _ => (.invalidArgument, arguments, queue)

def queueDepth : BitVec 32 :=
  let depth := queue.writeIndex - queue.readIndex
  if config.capacity < depth.toNat then BitVec.ofNat 32 config.capacity else depth

/-- The frames from `read` on, oldest first. -/
def contents : List Message :=
  (List.range (queue.queueDepth config).toNat).map fun i =>
    let frame := queue.frames (config.slot (queue.readIndex + BitVec.ofNat 32 i))
    ⟨frame.key.bytes frame.keyLength, frame.payload.bytes frame.payloadLength⟩

end ZenohPicoQueue

/-! ## The reference -/

/-- A bounded FIFO, the frames it refused so far, and how many of them it has not
reported. -/
structure DroppingQueue where
  frames : List Message
  dropped : Nat
  oversized : Nat
  unreportedDrops : Nat
  unreportedOversized : Nat

namespace DroppingQueue
variable (config : QueueConfig) (queue : DroppingQueue)

def empty : DroppingQueue := ⟨[], 0, 0, 0, 0⟩

def refuseOversized : DroppingQueue :=
  { queue with
    oversized := queue.oversized + 1
    unreportedOversized := queue.unreportedOversized + 1 }

def offer (arguments : AdmitArguments) : Bool × DroppingQueue :=
  if arguments.fits config.toCarrierBounds then
    if queue.frames.length < config.capacity then
      (true, { queue with frames := queue.frames ++ [arguments.message] })
    else (false, { queue with
      dropped := queue.dropped + 1
      unreportedDrops := queue.unreportedDrops + 1 })
  else (false, queue.refuseOversized)

/-- The oldest frame, written to the storage of the call; or, with no frame, a report
of the drops first and of the oversized ones next. -/
def take (arguments : PollArguments) : ZenohResult × PollArguments × DroppingQueue :=
  match arguments.key, arguments.keyLength, arguments.payload, arguments.payloadLength with
  | some key, some _, some payload, some _ =>
      match queue.frames with
      | message :: rest =>
          if message.key.length ≤ arguments.keyCapacity ∧
              message.payload.length ≤ arguments.payloadCapacity then
            (.ok, { arguments with
              key := some (key.copy (Memory.ofList message.key) message.key.length)
              keyLength := some message.key.length
              payload := some (payload.copy (Memory.ofList message.payload) message.payload.length)
              payloadLength := some message.payload.length }, { queue with frames := rest })
          else (.invalidArgument, arguments, queue)
      | [] =>
          if 0 < queue.unreportedDrops then
            (.queueFull, arguments, { queue with unreportedDrops := 0 })
          else if 0 < queue.unreportedOversized then
            (.frameTooLarge, arguments, { queue with unreportedOversized := 0 })
          else (.queueEmpty, arguments, queue)
  | _, _, _, _ => (.invalidArgument, arguments, queue)

end DroppingQueue

/-! ## Sequences of calls -/

inductive QueueCall where
  | queueAdmit (arguments : AdmitArguments)
  | noteOversized
  | queuePoll (arguments : PollArguments)

inductive QueueReply where
  | admitted (value : Bool)
  | noted
  | polled (result : ZenohResult) (outputs : PollArguments)

def ZenohPicoQueue.call (config : QueueConfig) (queue : ZenohPicoQueue) :
    QueueCall → QueueReply × ZenohPicoQueue
  | .queueAdmit arguments =>
      let (value, queue) := queue.queueAdmit config arguments
      (.admitted value, queue)
  | .noteOversized => (.noted, queue.noteOversized)
  | .queuePoll arguments =>
      let (result, outputs, queue) := queue.queuePoll config arguments
      (.polled result outputs, queue)

def DroppingQueue.call (config : QueueConfig) (queue : DroppingQueue) :
    QueueCall → QueueReply × DroppingQueue
  | .queueAdmit arguments =>
      let (value, queue) := queue.offer config arguments
      (.admitted value, queue)
  | .noteOversized => (.noted, queue.refuseOversized)
  | .queuePoll arguments =>
      let (result, outputs, queue) := queue.take arguments
      (.polled result outputs, queue)

/-- The replies of a sequence of calls, and the state after it. -/
def runCalls {Q : Type} (call : Q → QueueCall → QueueReply × Q) :
    Q → List QueueCall → List QueueReply × Q
  | queue, [] => ([], queue)
  | queue, c :: calls =>
      let (reply, queue) := call queue c
      let (replies, queue) := runCalls call queue calls
      (reply :: replies, queue)

/-! ## The simulation -/

/-- The position counted `released` is the next to poll, and each position from it on
holds a frame of the reference. -/
structure ZenohPicoQueue.Represents (config : QueueConfig) (queue : ZenohPicoQueue)
    (reference : DroppingQueue) (released : Nat) : Prop where
  read : queue.readIndex = BitVec.ofNat 32 released
  write : queue.writeIndex = BitVec.ofNat 32 (released + reference.frames.length)
  bounded : reference.frames.length ≤ config.capacity
  frames : ∀ i message, reference.frames[i]? = some message →
    (queue.frames ((released + i) % config.capacity)).Holds message
  dropped : queue.dropped = BitVec.ofNat 32 reference.dropped
  oversized : queue.oversized = BitVec.ofNat 32 reference.oversized
  reportFull : queue.reportFull ≠ 0 ↔ 0 < reference.unreportedDrops
  reportOversized : queue.reportOversized ≠ 0 ↔ 0 < reference.unreportedOversized

namespace ZenohPicoQueue.Represents
variable {config : QueueConfig} {queue : ZenohPicoQueue} {reference : DroppingQueue} {released : Nat}

theorem zeroed : zeroed.Represents config .empty 0 where
  read := rfl
  write := rfl
  bounded := Nat.zero_le _
  frames i message found := by simp [DroppingQueue.empty] at found
  dropped := rfl
  oversized := rfl
  reportFull := by simp [ZenohPicoQueue.zeroed, DroppingQueue.empty]
  reportOversized := by simp [ZenohPicoQueue.zeroed, DroppingQueue.empty]

/-- The wrapping difference of the indexes is the length. -/
theorem toNat_sub (represents : queue.Represents config reference released) :
    (queue.writeIndex - queue.readIndex).toNat = reference.frames.length := by
  have bounded := represents.bounded
  have fits := config.capacity_lt
  rw [represents.write, represents.read, toNat_ofNat_sub (Nat.le_add_right ..) (by omega)]
  omega

theorem queueDepth (represents : queue.Represents config reference released) :
    (queue.queueDepth config).toNat = reference.frames.length := by
  have bounded := represents.bounded
  simp only [ZenohPicoQueue.queueDepth]
  rw [if_neg]
  · exact represents.toNat_sub
  · rw [represents.toNat_sub]
    omega

theorem noteOversized (represents : queue.Represents config reference released) :
    queue.noteOversized.Represents config reference.refuseOversized released where
  read := represents.read
  write := represents.write
  bounded := represents.bounded
  frames := represents.frames
  dropped := represents.dropped
  oversized := by
    rw [ZenohPicoQueue.noteOversized, DroppingQueue.refuseOversized, ofNat_succ,
      represents.oversized]
  reportFull := represents.reportFull
  reportOversized := by simp [ZenohPicoQueue.noteOversized, DroppingQueue.refuseOversized]

theorem store (represents : queue.Represents config reference released)
    (room : reference.frames.length < config.capacity) (arguments : AdmitArguments) :
    (queue.store config arguments).Represents config
      { reference with frames := reference.frames ++ [arguments.message] } released where
  read := represents.read
  write := by
    simp only [ZenohPicoQueue.store, List.length_append, List.length_singleton]
    rw [represents.write, ← ofNat_succ, Nat.add_assoc]
  bounded := by
    rw [List.length_append]
    exact room
  frames i message found := by
    simp only [ZenohPicoQueue.store]
    rw [represents.write, config.slot_ofNat]
    by_cases last : i = reference.frames.length
    · subst last
      rw [List.getElem?_append_right (Nat.le_refl _), Nat.sub_self] at found
      obtain rfl : arguments.message = message := by simpa using found
      rw [Function.update_self]
      exact ⟨by simp, Memory.bytes_copy .., Memory.bytes_copy ..⟩
    · have inside : i < reference.frames.length := by
        have all := (List.getElem?_eq_some_iff.mp found).1
        rw [List.length_append, List.length_singleton] at all
        omega
      rw [List.getElem?_append_left inside] at found
      have other : (released + i) % config.capacity ≠
          (released + reference.frames.length) % config.capacity :=
        slot_ne ⟨Nat.le_add_right released i, by omega⟩ ⟨Nat.le_add_right .., by omega⟩ (by omega)
      rw [Function.update_of_ne other]
      exact represents.frames i message found
  dropped := represents.dropped
  oversized := represents.oversized
  reportFull := represents.reportFull
  reportOversized := represents.reportOversized

theorem queueAdmit (represents : queue.Represents config reference released)
    (arguments : AdmitArguments) :
    (queue.queueAdmit config arguments).1 = (reference.offer config arguments).1 ∧
      (queue.queueAdmit config arguments).2.Represents config (reference.offer config arguments).2
        released := by
  rw [ZenohPicoQueue.queueAdmit, DroppingQueue.offer, represents.toNat_sub]
  split
  · by_cases room : reference.frames.length < config.capacity
    · rw [if_neg (by omega), if_pos room]
      exact ⟨rfl, represents.store room arguments⟩
    · rw [if_pos (by omega), if_neg room]
      refine ⟨rfl, { represents with dropped := ?_, reportFull := ?_ }⟩
      · rw [ofNat_succ, represents.dropped]
      · simp
  · exact ⟨rfl, represents.noteOversized⟩

theorem drained_iff (represents : queue.Represents config reference released) :
    queue.readIndex = queue.writeIndex ↔ reference.frames = [] := by
  have bounded := represents.bounded
  have fits := config.capacity_lt
  rw [represents.read, represents.write, eq_comm,
    ofNat_eq_iff (Nat.le_add_right ..) (by omega), ← List.length_eq_zero_iff]
  omega

theorem release {message : Message} {rest : List Message}
    (represents : queue.Represents config reference released)
    (oldest : reference.frames = message :: rest) :
    (queue.release config).Represents config { reference with frames := rest } (released + 1) := by
  have bounded := represents.bounded
  have write := represents.write
  rw [oldest, List.length_cons] at bounded write
  refine { represents with read := ?_, write := ?_, bounded := ?_, frames := ?_ }
  · rw [ofNat_succ, ZenohPicoQueue.release, represents.read]
  · rw [ZenohPicoQueue.release, write, Nat.add_right_comm, Nat.add_assoc released]
  · exact Nat.le_of_succ_le bounded
  · intro i later found
    simp only [ZenohPicoQueue.release]
    rw [represents.read, config.slot_ofNat]
    have inside : i < rest.length := (List.getElem?_eq_some_iff.mp found).1
    have other : (released + 1 + i) % config.capacity ≠ released % config.capacity :=
      slot_ne ⟨by omega, by omega⟩ ⟨Nat.le_refl released, by omega⟩ (by omega)
    rw [Function.update_of_ne other, show released + 1 + i = released + (i + 1) by omega]
    refine represents.frames (i + 1) later ?_
    rwa [oldest, List.getElem?_cons_succ]

/-- The oldest frame is in the slot that a poll reads. -/
theorem head {message : Message} {rest : List Message}
    (represents : queue.Represents config reference released)
    (oldest : reference.frames = message :: rest) :
    (queue.frames (config.slot queue.readIndex)).Holds message := by
  rw [represents.read, config.slot_ofNat]
  refine represents.frames 0 message ?_
  rw [oldest, List.getElem?_cons_zero]

theorem queuePoll (represents : queue.Represents config reference released)
    (arguments : PollArguments) :
    (queue.queuePoll config arguments).1 = (reference.take arguments).1 ∧
      (queue.queuePoll config arguments).2.1 = (reference.take arguments).2.1 ∧
      ∃ released', (queue.queuePoll config arguments).2.2.Represents config
        (reference.take arguments).2.2 released' := by
  obtain ⟨key, keyCapacity, keyLength, payload, payloadCapacity, payloadLength⟩ := arguments
  cases key with
  | none => exact ⟨rfl, rfl, released, represents⟩
  | some key =>
  cases keyLength with
  | none => exact ⟨rfl, rfl, released, represents⟩
  | some keyLength =>
  cases payload with
  | none => exact ⟨rfl, rfl, released, represents⟩
  | some payload =>
  cases payloadLength with
  | none => exact ⟨rfl, rfl, released, represents⟩
  | some payloadLength =>
  obtain ⟨frames, dropped, oversized, unreportedDrops, unreportedOversized⟩ := reference
  simp only [ZenohPicoQueue.queuePoll, DroppingQueue.take]
  cases frames with
  | nil =>
      rw [if_pos (represents.drained_iff.mpr rfl)]
      by_cases full : queue.reportFull ≠ 0
      · have pending : 0 < unreportedDrops := represents.reportFull.mp full
        rw [if_pos full, if_pos pending]
        exact ⟨rfl, rfl, released, { represents with reportFull := by simp }⟩
      · have settled : ¬ 0 < unreportedDrops := represents.reportFull.not.mp full
        rw [if_neg full, if_neg settled]
        by_cases large : queue.reportOversized ≠ 0
        · have pending : 0 < unreportedOversized := represents.reportOversized.mp large
          rw [if_pos large, if_pos pending]
          exact ⟨rfl, rfl, released, { represents with reportOversized := by simp }⟩
        · have settled : ¬ 0 < unreportedOversized := represents.reportOversized.not.mp large
          rw [if_neg large, if_neg settled]
          exact ⟨rfl, rfl, released, represents⟩
  | cons message rest =>
      obtain ⟨published, keyBytes, payloadBytes⟩ := represents.head rfl
      have keySize := congrArg List.length keyBytes
      have payloadSize := congrArg List.length payloadBytes
      rw [Memory.length_bytes] at keySize payloadSize
      rw [if_neg (represents.drained_iff.not.mpr (List.cons_ne_nil message rest)), if_neg published]
      dsimp only
      by_cases fits : message.key.length ≤ keyCapacity ∧ message.payload.length ≤ payloadCapacity
      · rw [if_pos fits, if_neg (by omega)]
        refine ⟨rfl, ?_, released + 1, represents.release rfl⟩
        rw [Memory.copy_eq_copy_ofList keyBytes, Memory.copy_eq_copy_ofList payloadBytes, keySize,
          payloadSize]
      · rw [if_neg fits, if_pos (by omega)]
        exact ⟨rfl, rfl, released, represents⟩

theorem call (represents : queue.Represents config reference released) (c : QueueCall) :
    (queue.call config c).1 = (reference.call config c).1 ∧
      ∃ released', (queue.call config c).2.Represents config (reference.call config c).2 released' := by
  cases c with
  | queueAdmit arguments =>
      obtain ⟨same, after⟩ := represents.queueAdmit arguments
      exact ⟨congrArg QueueReply.admitted same, released, after⟩
  | noteOversized => exact ⟨rfl, released, represents.noteOversized⟩
  | queuePoll arguments =>
      obtain ⟨result, outputs, after⟩ := represents.queuePoll arguments
      exact ⟨congrArg₂ QueueReply.polled result outputs, after⟩

theorem runCalls (represents : queue.Represents config reference released)
    (calls : List QueueCall) :
    (runCalls (ZenohPicoQueue.call config) queue calls).1 =
        (Zenoh.runCalls (DroppingQueue.call config) reference calls).1 ∧
      ∃ released', (Zenoh.runCalls (ZenohPicoQueue.call config) queue calls).2.Represents config
        (Zenoh.runCalls (DroppingQueue.call config) reference calls).2 released' := by
  induction calls generalizing queue reference released with
  | nil => exact ⟨rfl, released, represents⟩
  | cons c calls ih =>
      obtain ⟨reply, released', after⟩ := represents.call c
      obtain ⟨replies, last⟩ := ih after
      exact ⟨congrArg₂ List.cons reply replies, last⟩

theorem contents (represents : queue.Represents config reference released) :
    queue.contents config = reference.frames := by
  rw [ZenohPicoQueue.contents, represents.queueDepth]
  refine List.ext_getElem (by simp) fun i _ inside => ?_
  obtain ⟨-, key, payload⟩ := represents.frames i _ (List.getElem?_eq_getElem inside)
  simp only [List.getElem_map, List.getElem_range]
  rw [represents.read, BitVec.ofNat_add_ofNat, config.slot_ofNat, key, payload]

/-- A poll with too little room for the oldest frame changes nothing. -/
theorem queuePoll_short (represents : queue.Represents config reference released)
    {message : Message} {rest : List Message} (oldest : reference.frames = message :: rest)
    {arguments : PollArguments} (short : ¬ (message.key.length ≤ arguments.keyCapacity ∧
      message.payload.length ≤ arguments.payloadCapacity)) :
    queue.queuePoll config arguments = (.invalidArgument, arguments, queue) := by
  obtain ⟨published, keyBytes, payloadBytes⟩ := represents.head oldest
  have keySize := congrArg List.length keyBytes
  have payloadSize := congrArg List.length payloadBytes
  rw [Memory.length_bytes] at keySize payloadSize
  have more : queue.readIndex ≠ queue.writeIndex := represents.drained_iff.not.mpr (by simp [oldest])
  rw [ZenohPicoQueue.queuePoll]
  split
  · rw [if_neg more, if_neg published, if_pos (by omega)]
  · rfl

end ZenohPicoQueue.Represents

/-- From an empty queue, any calls of one thread reply as the reference does, with the
same outputs, and leave the frames, the depth, the counters and the pending reports of
the reference. A poll with too little room for the oldest frame changes nothing. -/
theorem ZenohPicoQueue.sequential_law (config : QueueConfig) (calls : List QueueCall) :
    let (replies, queue) := runCalls (ZenohPicoQueue.call config) .zeroed calls
    let (expected, reference) := runCalls (DroppingQueue.call config) .empty calls
    replies = expected ∧ queue.contents config = reference.frames ∧
      (queue.queueDepth config).toNat = reference.frames.length ∧
      reference.frames.length ≤ config.capacity ∧
      queue.dropped = BitVec.ofNat 32 reference.dropped ∧
      queue.oversized = BitVec.ofNat 32 reference.oversized ∧
      (queue.reportFull ≠ 0 ↔ 0 < reference.unreportedDrops) ∧
      (queue.reportOversized ≠ 0 ↔ 0 < reference.unreportedOversized) ∧
      ∀ message rest arguments, reference.frames = message :: rest →
        ¬ (message.key.length ≤ arguments.keyCapacity ∧
          message.payload.length ≤ arguments.payloadCapacity) →
        queue.queuePoll config arguments = (.invalidArgument, arguments, queue) := by
  obtain ⟨replies, released, represents⟩ := (Represents.zeroed : zeroed.Represents config _ _).runCalls calls
  exact ⟨replies, represents.contents, represents.queueDepth, represents.bounded, represents.dropped,
    represents.oversized, represents.reportFull, represents.reportOversized,
    fun _ _ _ oldest short => represents.queuePoll_short oldest short⟩

end Zenoh
end AxolotyEmbedded
