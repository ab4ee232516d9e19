import Mathlib.Tactic.Common
import AxolotyEmbedded.Zenoh.Queue

/-!
The inductive invariant of the receive queue. A position counts won exchanges;
the two wrapping indexes are the counts of claimed and of returned frames. A
position between them is being filled by the one producer that holds its
ticket, or is published with exactly the claimed frame, or is the oldest one
and the consumer is about to step past it.
-/
namespace AxolotyEmbedded.Zenoh
open Wrapping

variable {config : QueueConfig} {s : QueueState}

/-- Between its exchange and its publication a producer owns the slot of its ticket. -/
def AdmitPhase.filling : AdmitPhase → Bool
  | .copyKey .. | .copyPayload .. | .storeKeyLength _ | .storePayloadLength _ | .publish _ => true
  | _ => false

/-- The consumer has un-published the oldest slot and not yet moved past it. -/
def PollPhase.releasing : PollPhase → Bool
  | .advance _ => true
  | _ => false

/-- From its length check on, the consumer uses the oldest slot. -/
def PollPhase.reading : PollPhase → Bool
  | .checkLengths _ | .copyKey .. | .copyPayload .. | .storeKeyLength _ | .storePayloadLength _
  | .unpublish _ | .advance _ => true
  | _ => false

/-- The slot of the position counted `q`. -/
def QueueState.frameAt (config : QueueConfig) (s : QueueState) (q : Nat) : ZenohPicoFrame :=
  s.queue.frames (q % config.capacity)

/-- A published slot with exactly this frame. -/
structure ZenohPicoFrame.Holds (frame : ZenohPicoFrame) (message : Message) : Prop where
  published : frame.published ≠ 0
  key : frame.key.bytes frame.keyLength = message.key
  payload : frame.payload.bytes frame.payloadLength = message.payload

/-- The key bytes, payload bytes and lengths a filling producer has stored so far. -/
def Producer.Written (producer : Producer) (frame : ZenohPicoFrame) : Prop :=
  let a := producer.arguments
  let keyUpTo n := ∀ offset < n, frame.key offset = a.keyBytes offset
  let payloadUpTo n := ∀ offset < n, frame.payload offset = a.payloadBytes offset
  match producer.phase with
  | .copyKey _ offset => keyUpTo offset
  | .copyPayload _ offset => keyUpTo a.keyLength ∧ payloadUpTo offset
  | .storeKeyLength _ => keyUpTo a.keyLength ∧ payloadUpTo a.payloadLength
  | .storePayloadLength _ =>
      keyUpTo a.keyLength ∧ payloadUpTo a.payloadLength ∧ frame.keyLength = a.keyLength
  | .publish _ =>
      keyUpTo a.keyLength ∧ payloadUpTo a.payloadLength ∧ frame.keyLength = a.keyLength ∧
        frame.payloadLength = a.payloadLength
  | _ => True

/-- What a filling producer relies on: its `write` is its ticket, the ticket is
claimed for its frame and not yet released, and its slot is not published. -/
structure Producer.Owns (producer : Producer) (frame : ZenohPicoFrame) (claimed : List Message)
    (released : Nat) (write : BitVec 32) : Prop where
  write_eq : write = BitVec.ofNat 32 producer.ticket
  unreleased : released ≤ producer.ticket
  claimed : claimed[producer.ticket]? = some producer.arguments.message
  unpublished : frame.published = 0
  written : producer.Written frame

/-- The assertion of a producer at each phase. `frame` is the slot of its ticket. -/
def Producer.Ok (capacity : Nat) (producer : Producer) (frame : ZenohPicoFrame)
    (claimed : List Message) (released : Nat) : Prop :=
  match producer.phase with
  | .loadWrite => producer.claimsAtEntry ≤ claimed.length
  | .loadRead write =>
      write = BitVec.ofNat 32 producer.observed ∧ producer.claimsAtEntry ≤ producer.observed ∧
        producer.observed ≤ claimed.length
  | .exchange write =>
      write = BitVec.ofNat 32 producer.observed ∧ producer.claimsAtEntry ≤ producer.observed ∧
        producer.observed ≤ claimed.length ∧
        (producer.observed = claimed.length → claimed.length < released + capacity)
  | .copyKey write _ | .copyPayload write _ | .storeKeyLength write | .storePayloadLength write
  | .publish write => producer.Owns frame claimed released write
  | _ => True

/-- The oldest slot is published with the oldest claimed frame. -/
def Ready (frame : ZenohPicoFrame) (claimed : List Message) (released : Nat) : Prop :=
  ∃ message, claimed[released]? = some message ∧ frame.Holds message

/-- The caller's storage agrees with the slot on what was copied so far. -/
def Consumer.KeyCopied (consumer : Consumer) (frame : ZenohPicoFrame) (length : Nat) : Prop :=
  ∀ offset < length, consumer.key offset = frame.key offset

def Consumer.PayloadCopied (consumer : Consumer) (frame : ZenohPicoFrame) (length : Nat) : Prop :=
  ∀ offset < length, consumer.payload offset = frame.payload offset

/-- The assertion of the consumer at each phase. `frame` is the oldest slot. -/
def Consumer.Ok (consumer : Consumer) (frame : ZenohPicoFrame) (claimed : List Message)
    (released : Nat) : Prop :=
  match consumer.phase with
  | .loadWrite read => read = BitVec.ofNat 32 released
  | .loadPublished read => read = BitVec.ofNat 32 released ∧ released < claimed.length
  | .checkLengths read => read = BitVec.ofNat 32 released ∧ Ready frame claimed released
  | .copyKey read length offset =>
      read = BitVec.ofNat 32 released ∧ Ready frame claimed released ∧
        length = frame.keyLength ∧ consumer.KeyCopied frame offset
  | .copyPayload read length offset =>
      read = BitVec.ofNat 32 released ∧ Ready frame claimed released ∧
        consumer.KeyCopied frame frame.keyLength ∧
        length = frame.payloadLength ∧ consumer.PayloadCopied frame offset
  | .storeKeyLength read =>
      read = BitVec.ofNat 32 released ∧ Ready frame claimed released ∧
        consumer.KeyCopied frame frame.keyLength ∧ consumer.PayloadCopied frame frame.payloadLength
  | .storePayloadLength read =>
      read = BitVec.ofNat 32 released ∧ Ready frame claimed released ∧
        consumer.KeyCopied frame frame.keyLength ∧
        consumer.PayloadCopied frame frame.payloadLength ∧ consumer.keyLength = frame.keyLength
  | .unpublish read =>
      read = BitVec.ofNat 32 released ∧ Ready frame claimed released ∧
        consumer.KeyCopied frame frame.keyLength ∧
        consumer.PayloadCopied frame frame.payloadLength ∧ consumer.keyLength = frame.keyLength ∧
        consumer.payloadLength = frame.payloadLength
  | .advance read =>
      read = BitVec.ofNat 32 released ∧ frame.published = 0 ∧
        claimed[released]? = some ⟨consumer.key.bytes consumer.keyLength,
          consumer.payload.bytes consumer.payloadLength⟩
  | _ => True

/-- How a position that is claimed and not yet released is accounted for. -/
inductive QueueState.Occupied (config : QueueConfig) (s : QueueState) (q : Nat) : Prop
  | filling (i : Nat) (owns : (s.producers i).phase.filling = true)
      (ticket : (s.producers i).ticket = q)
  | published (message : Message) (claimed : s.claimed[q]? = some message)
      (holds : (s.frameAt config q).Holds message)
  | releasing (phase : s.consumer.phase.releasing = true) (oldest : q = s.returned.length)

structure QueueState.Inv (config : QueueConfig) (s : QueueState) : Prop where
  writeIndex : s.queue.writeIndex = BitVec.ofNat 32 s.claimed.length
  readIndex : s.queue.readIndex = BitVec.ofNat 32 s.returned.length
  released_le : s.returned.length ≤ s.claimed.length
  bounded : s.claimed.length ≤ s.returned.length + config.capacity
  inOrder : s.returned <+: s.claimed
  producer : ∀ i, (s.producers i).Ok config.capacity (s.frameAt config (s.producers i).ticket)
    s.claimed s.returned.length
  distinct : ∀ i j, (s.producers i).phase.filling = true → (s.producers j).phase.filling = true →
    (s.producers i).ticket = (s.producers j).ticket → i = j
  occupied : ∀ q, s.returned.length ≤ q → q < s.claimed.length → s.Occupied config q
  free : ∀ q, s.claimed.length ≤ q → q < s.returned.length + config.capacity →
    (s.frameAt config q).published = 0
  consumer : s.consumer.Ok (s.frameAt config s.returned.length) s.claimed s.returned.length
  releasing : s.consumer.phase.releasing = true →
    ∀ i, (s.producers i).phase.filling = true → (s.producers i).ticket ≠ s.returned.length

/-! ## Ring arithmetic -/

theorem QueueConfig.slot_ofNat (config : QueueConfig) (q : Nat) :
    config.slot (BitVec.ofNat 32 q) = q % config.capacity :=
  toNat_ofNat_mod (Nat.le_of_lt config.capacityFits) q

theorem QueueConfig.capacity_pos (config : QueueConfig) : 0 < config.capacity :=
  Nat.two_pow_pos _

theorem QueueConfig.capacity_lt (config : QueueConfig) : config.capacity < 2 ^ 32 :=
  Nat.pow_lt_pow_right (by decide) config.capacityFits

/-! ## The assertions are stable -/

theorem getElem?_of_inOrder {α : Type} {before after : List α} {q : Nat} {a : α}
    (grown : before <+: after) (found : before[q]? = some a) : after[q]? = some a := by
  obtain ⟨more, rfl⟩ := grown
  rw [List.getElem?_append_left (List.getElem?_eq_some_iff.mp found).1, found]

/-- Other threads only claim more frames, release older ones, and write slots
that this producer does not own. -/
theorem Producer.Ok.stable {capacity : Nat} {producer : Producer} {frame frame' : ZenohPicoFrame}
    {claimed claimed' : List Message} {released released' : Nat}
    (ok : producer.Ok capacity frame claimed released) (grown : claimed <+: claimed')
    (later : released ≤ released')
    (kept : producer.phase.filling = true → released' ≤ producer.ticket ∧ frame' = frame) :
    producer.Ok capacity frame' claimed' released' := by
  have hlen := grown.length_le
  unfold Producer.Ok at ok ⊢
  cases phase : producer.phase <;> simp only [phase] at ok kept ⊢ <;>
    first
    | omega
    | (obtain ⟨unreleased, rfl⟩ := kept rfl
       exact ⟨ok.1, unreleased, getElem?_of_inOrder grown ok.claimed, ok.unpublished, ok.written⟩)
    | (refine ⟨ok.1, ok.2.1, by omega, by omega⟩)
    | (refine ⟨ok.1, ok.2.1, by omega⟩)

theorem Ready.stable {frame : ZenohPicoFrame} {claimed claimed' : List Message} {released : Nat}
    (ready : Ready frame claimed released) (grown : claimed <+: claimed') :
    Ready frame claimed' released := by
  obtain ⟨message, found, holds⟩ := ready
  exact ⟨message, getElem?_of_inOrder grown found, holds⟩

theorem Consumer.Ok.stable {consumer : Consumer} {frame frame' : ZenohPicoFrame}
    {claimed claimed' : List Message} {released : Nat}
    (ok : consumer.Ok frame claimed released) (grown : claimed <+: claimed')
    (kept : consumer.phase.reading = true → frame' = frame) :
    consumer.Ok frame' claimed' released := by
  have hlen := grown.length_le
  unfold Consumer.Ok at ok ⊢
  cases phase : consumer.phase <;> simp only [phase] at ok kept ⊢ <;>
    first
    | exact ok
    | exact ⟨ok.1, by omega⟩
    | (rw [kept rfl]; exact ⟨ok.1, ok.2.stable grown⟩)
    | (rw [kept rfl]; exact ⟨ok.1, ok.2.1.stable grown, ok.2.2⟩)
    | (rw [kept rfl]; exact ⟨ok.1, ok.2.1, getElem?_of_inOrder grown ok.2.2⟩)

namespace QueueState.Inv

theorem initial : QueueState.initial.Inv config where
  writeIndex := rfl
  readIndex := rfl
  released_le := Nat.le_refl 0
  bounded := Nat.zero_le _
  inOrder := List.nil_prefix
  producer := fun _ => trivial
  distinct := fun _ _ filling => by cases filling
  occupied := fun q _ below => absurd below (Nat.not_lt_zero q)
  free := fun _ _ _ => rfl
  consumer := trivial
  releasing := fun releasing => by cases releasing

/-! ## What a filling producer owns -/

/-- The assertion of a filling producer, whichever of its phases it is in. -/
theorem owns (inv : s.Inv config) {i : Nat} (filling : (s.producers i).phase.filling = true) :
    ∃ write, (s.producers i).Owns (s.frameAt config (s.producers i).ticket) s.claimed
      s.returned.length write := by
  have ok := inv.producer i
  unfold Producer.Ok at ok
  cases phase : (s.producers i).phase <;> rw [phase] at ok filling <;>
    first
    | (cases filling; done)
    | exact ⟨_, ok⟩

/-- A ticket names a position between the two indexes. -/
theorem ticket_bounds (inv : s.Inv config) {i : Nat}
    (filling : (s.producers i).phase.filling = true) :
    s.returned.length ≤ (s.producers i).ticket ∧ (s.producers i).ticket < s.claimed.length := by
  obtain ⟨write, owns⟩ := inv.owns filling
  exact ⟨owns.unreleased, (List.getElem?_eq_some_iff.mp owns.claimed).1⟩

/-- A slot that holds a frame belongs to no filling producer. -/
theorem ticket_ne_of_published (inv : s.Inv config) {i q : Nat}
    (filling : (s.producers i).phase.filling = true)
    (published : (s.frameAt config q).published ≠ 0) : (s.producers i).ticket ≠ q := by
  rintro rfl
  obtain ⟨write, owns⟩ := inv.owns filling
  exact published owns.unpublished

/-! ## Producer steps -/

/-- The slot the consumer uses belongs to no filling producer. -/
theorem ticket_ne_of_reading (inv : s.Inv config) (reading : s.consumer.phase.reading = true)
    {i : Nat} (filling : (s.producers i).phase.filling = true) :
    (s.producers i).ticket ≠ s.returned.length := by
  have ok := inv.consumer
  unfold Consumer.Ok at ok
  cases phase : s.consumer.phase <;> rw [phase] at ok reading <;>
    first
    | (cases reading; done)
    | exact inv.releasing (by rw [phase]; rfl) i filling
    | exact inv.ticket_ne_of_published filling ok.2.choose_spec.2.published
    | exact inv.ticket_ne_of_published filling ok.2.1.choose_spec.2.published

end QueueState.Inv

/-- Nothing a step of producer `i` leaves alone has changed: both indexes, both
histories, the consumer and the other producers. -/
structure QueueState.KeptBy (i : Nat) (s t : QueueState) : Prop where
  readIndex : t.queue.readIndex = s.queue.readIndex
  writeIndex : t.queue.writeIndex = s.queue.writeIndex
  claimed : t.claimed = s.claimed
  returned : t.returned = s.returned
  consumer : t.consumer = s.consumer
  others : ∀ j, j ≠ i → t.producers j = s.producers j

namespace QueueState.Inv
variable {t : QueueState} {i : Nat}

/-- A step of a producer that neither claims nor publishes, and writes no slot
but its own. -/
theorem local_producer (inv : s.Inv config) (kept : s.KeptBy i t)
    (stage : (t.producers i).phase.filling = (s.producers i).phase.filling)
    (ticket : (t.producers i).ticket = (s.producers i).ticket)
    (frames : ∀ q, s.returned.length ≤ q → q < s.returned.length + config.capacity →
      ((s.producers i).phase.filling = true → q ≠ (s.producers i).ticket) →
        t.frameAt config q = s.frameAt config q)
    (ok : (t.producers i).Ok config.capacity (t.frameAt config (t.producers i).ticket) s.claimed
      s.returned.length) : t.Inv config := by
  have hle := inv.released_le
  have hroom := inv.bounded
  have hphase : ∀ j, (t.producers j).phase.filling = (s.producers j).phase.filling := by
    intro j
    by_cases same : j = i
    · rw [same, stage]
    · rw [kept.others j same]
  have hticket : ∀ j, (t.producers j).ticket = (s.producers j).ticket := by
    intro j
    by_cases same : j = i
    · rw [same, ticket]
    · rw [kept.others j same]
  constructor
  case writeIndex => rw [kept.writeIndex, kept.claimed, inv.writeIndex]
  case readIndex => rw [kept.readIndex, kept.returned, inv.readIndex]
  case released_le => rw [kept.returned, kept.claimed]; exact inv.released_le
  case bounded => rw [kept.returned, kept.claimed]; exact inv.bounded
  case inOrder => rw [kept.returned, kept.claimed]; exact inv.inOrder
  case producer =>
    intro j
    rw [kept.claimed, kept.returned]
    by_cases same : j = i
    · rw [same]; exact ok
    · rw [kept.others j same]
      refine (inv.producer j).stable (List.prefix_refl _) (Nat.le_refl _) fun filling => ?_
      have bounds := inv.ticket_bounds filling
      refine ⟨bounds.1, frames _ bounds.1 (by omega) fun filling' equal => ?_⟩
      exact same (inv.distinct j i filling filling' equal)
  case distinct =>
    intro j k hj hk equal
    rw [hphase] at hj hk
    rw [hticket, hticket] at equal
    exact inv.distinct j k hj hk equal
  case occupied =>
    intro q above below
    rw [kept.returned] at above
    rw [kept.claimed] at below
    cases inv.occupied q above below with
    | filling j owns ticket =>
        exact .filling j (by rwa [hphase]) (by rwa [hticket])
    | published message claimed holds =>
        refine .published message (by rwa [kept.claimed]) ?_
        rw [frames q above (by omega)
          fun filling => (inv.ticket_ne_of_published filling holds.published).symm]
        exact holds
    | releasing phase oldest =>
        exact .releasing (by rwa [kept.consumer]) (by rwa [kept.returned])
  case free =>
    intro q above below
    rw [kept.claimed] at above
    rw [kept.returned] at below
    rw [frames q (by omega) below fun filling => ?_]
    · exact inv.free q above below
    · have := inv.ticket_bounds filling
      omega
  case consumer =>
    rw [kept.consumer, kept.returned, kept.claimed]
    refine inv.consumer.stable (List.prefix_refl _) fun reading => ?_
    exact frames _ (Nat.le_refl _) (by have := config.capacity_pos; omega)
      fun filling => (inv.ticket_ne_of_reading reading filling).symm
  case releasing =>
    intro releasing j filling
    rw [kept.consumer] at releasing
    rw [hphase] at filling
    rw [hticket, kept.returned]
    exact inv.releasing releasing j filling

end QueueState.Inv

end AxolotyEmbedded.Zenoh
