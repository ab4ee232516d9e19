import AxolotyEmbedded.Zenoh.QueueInvariant
import AxolotyEmbedded.Library.Transition

/-!
Every step keeps the queue invariant. The four steps that move a position on
(claim, publish, un-publish, advance) have a lemma each; every other step is
local to one thread. A producer that holds a stale `write` can win its exchange
only after `2 ^ 32` others did, which the run excludes.
-/
namespace AxolotyEmbedded.Zenoh
open Wrapping Transition

variable {config : QueueConfig} {s t : QueueState} {i : Nat}

namespace QueueState.Inv

theorem released_lt_of_releasing (inv : s.Inv config)
    (releasing : s.consumer.phase.releasing = true) : s.returned.length < s.claimed.length := by
  have ok := inv.consumer
  unfold Consumer.Ok at ok
  cases phase : s.consumer.phase <;> rw [phase] at ok releasing <;>
    first
    | (cases releasing; done)
    | exact (List.getElem?_eq_some_iff.mp ok.2.2).1

/-- The exchange gives producer `i` the next position. -/
theorem claim (inv : s.Inv config) (message : Message)
    (readIndex : t.queue.readIndex = s.queue.readIndex)
    (writeIndex : t.queue.writeIndex = s.queue.writeIndex + 1)
    (frames : t.queue.frames = s.queue.frames) (claimed : t.claimed = s.claimed ++ [message])
    (returned : t.returned = s.returned) (consumer : t.consumer = s.consumer)
    (others : ∀ j, j ≠ i → t.producers j = s.producers j)
    (room : s.claimed.length < s.returned.length + config.capacity)
    (before : (s.producers i).phase.filling = false)
    (after : (t.producers i).phase.filling = true)
    (ticket : (t.producers i).ticket = s.claimed.length)
    (ok : (t.producers i).Ok config.capacity (s.frameAt config s.claimed.length)
      (s.claimed ++ [message]) s.returned.length) : t.Inv config := by
  have hle := inv.released_le
  have hgrown : s.claimed <+: t.claimed := by rw [claimed]; exact List.prefix_append ..
  have hlen : t.claimed.length = s.claimed.length + 1 := by simp [claimed]
  have hframe : ∀ q, t.frameAt config q = s.frameAt config q := fun q => congrFun frames _
  have hold : ∀ j, (s.producers j).phase.filling = true → j ≠ i := by
    rintro j filling rfl
    rw [before] at filling
    cases filling
  constructor
  case writeIndex => rw [writeIndex, inv.writeIndex, hlen, ofNat_succ]
  case readIndex => rw [readIndex, returned, inv.readIndex]
  case released_le => rw [returned, hlen]; omega
  case bounded => rw [returned, hlen]; omega
  case inOrder => rw [returned]; exact inv.inOrder.trans hgrown
  case producer =>
    intro j
    rw [hframe, returned]
    by_cases same : j = i
    · rw [same, ticket, claimed]
      exact ok
    · rw [others j same]
      exact (inv.producer j).stable hgrown (Nat.le_refl _)
        fun filling => ⟨(inv.ticket_bounds filling).1, rfl⟩
  case distinct =>
    -- The new ticket is past every older one.
    have hnew : ∀ j, j ≠ i → (t.producers j).phase.filling = true →
        (t.producers j).ticket < s.claimed.length := by
      intro j ne filling
      rw [others j ne] at filling ⊢
      exact (inv.ticket_bounds filling).2
    intro j k hj hk equal
    by_cases ej : j = i <;> by_cases ek : k = i
    · rw [ej, ek]
    · have := hnew k ek hk
      rw [ej, ticket] at equal
      omega
    · have := hnew j ej hj
      rw [ek, ticket] at equal
      omega
    · rw [others j ej] at hj equal
      rw [others k ek] at hk equal
      exact inv.distinct j k hj hk equal
  case occupied =>
    intro q above below
    rw [returned] at above
    by_cases last : q = s.claimed.length
    · exact .filling i after (last ▸ ticket)
    · cases inv.occupied q above (by omega) with
      | filling j owns ticket =>
          have same := others j (hold j owns)
          exact .filling j (same ▸ owns) (same ▸ ticket)
      | published message found holds =>
          exact .published message (getElem?_of_inOrder hgrown found) (by rwa [hframe])
      | releasing phase oldest => exact .releasing (by rwa [consumer]) (by rwa [returned])
  case free =>
    intro q above below
    rw [hframe]
    exact inv.free q (by omega) (by rwa [returned] at below)
  case consumer =>
    rw [consumer, returned, hframe]
    exact inv.consumer.stable hgrown fun _ => rfl
  case releasing =>
    intro releasing j filling
    rw [consumer] at releasing
    rw [returned]
    by_cases same : j = i
    · rw [same, ticket]
      have := inv.released_lt_of_releasing releasing
      omega
    · rw [others j same] at filling ⊢
      exact inv.releasing releasing j filling

/-- The publication hands the slot of producer `i` to the consumer. -/
theorem publish (inv : s.Inv config) (kept : s.KeptBy i t)
    (before : (s.producers i).phase.filling = true)
    (after : (t.producers i).phase.filling = false)
    (frames : ∀ q, s.returned.length ≤ q → q < s.returned.length + config.capacity →
      q ≠ (s.producers i).ticket → t.frameAt config q = s.frameAt config q)
    (holds : (t.frameAt config (s.producers i).ticket).Holds (s.producers i).arguments.message)
    (ok : (t.producers i).Ok config.capacity (t.frameAt config (t.producers i).ticket) s.claimed
      s.returned.length) : t.Inv config := by
  have hle := inv.released_le
  have hroom := inv.bounded
  have hcap := config.capacity_pos
  have hticket := inv.ticket_bounds before
  have hfilling : ∀ j, (t.producers j).phase.filling = true → j ≠ i := by
    rintro j filling rfl
    rw [after] at filling
    cases filling
  constructor
  case writeIndex => rw [kept.writeIndex, kept.claimed, inv.writeIndex]
  case readIndex => rw [kept.readIndex, kept.returned, inv.readIndex]
  case released_le => rw [kept.returned, kept.claimed]; exact inv.released_le
  case bounded => rw [kept.returned, kept.claimed]; exact inv.bounded
  case inOrder => rw [kept.returned, kept.claimed]; exact inv.inOrder
  case producer =>
    intro j
    rw [kept.claimed, kept.returned]
    by_cases same : j = i
    · rw [same]; exact ok
    · rw [kept.others j same]
      refine (inv.producer j).stable (List.prefix_refl _) (Nat.le_refl _) fun filling => ?_
      have bounds := inv.ticket_bounds filling
      refine ⟨bounds.1, frames _ bounds.1 (by omega) fun equal => ?_⟩
      exact same (inv.distinct j i filling before equal)
  case distinct =>
    intro j k hj hk equal
    have ej := kept.others j (hfilling j hj)
    have ek := kept.others k (hfilling k hk)
    rw [ej] at hj equal
    rw [ek] at hk equal
    exact inv.distinct j k hj hk equal
  case occupied =>
    intro q above below
    rw [kept.returned] at above
    rw [kept.claimed] at below
    by_cases own : q = (s.producers i).ticket
    · obtain ⟨write, owns⟩ := inv.owns before
      rw [own]
      exact .published _ (by rw [kept.claimed]; exact owns.claimed) holds
    · cases inv.occupied q above below with
      | filling j owns ticket =>
          have same := kept.others j (by rintro rfl; exact own ticket.symm)
          exact .filling j (same ▸ owns) (same ▸ ticket)
      | published message claimed holds =>
          refine .published message (by rwa [kept.claimed]) ?_
          rwa [frames q above (by omega) own]
      | releasing phase oldest =>
          exact .releasing (by rwa [kept.consumer]) (by rwa [kept.returned])
  case free =>
    intro q above below
    rw [kept.claimed] at above
    rw [kept.returned] at below
    rw [frames q (by omega) below (by omega)]
    exact inv.free q above below
  case consumer =>
    rw [kept.consumer, kept.returned, kept.claimed]
    refine inv.consumer.stable (List.prefix_refl _) fun reading => ?_
    exact frames _ (Nat.le_refl _) (by omega) (inv.ticket_ne_of_reading reading before).symm
  case releasing =>
    intro releasing j filling
    rw [kept.consumer] at releasing
    have same := kept.others j (hfilling j filling)
    rw [same] at filling ⊢
    rw [kept.returned]
    exact inv.releasing releasing j filling

/-- A consumer step that moves no position and is not about to. -/
theorem quiet_consumer (inv : s.Inv config)
    (readIndex : t.queue.readIndex = s.queue.readIndex)
    (writeIndex : t.queue.writeIndex = s.queue.writeIndex)
    (frames : t.queue.frames = s.queue.frames) (claimed : t.claimed = s.claimed)
    (returned : t.returned = s.returned) (producers : t.producers = s.producers)
    (before : s.consumer.phase.releasing = false) (after : t.consumer.phase.releasing = false)
    (ok : t.consumer.Ok (s.frameAt config s.returned.length) s.claimed s.returned.length) :
    t.Inv config := by
  have hframe : ∀ q, t.frameAt config q = s.frameAt config q := fun q => congrFun frames _
  constructor
  case writeIndex => rw [writeIndex, claimed, inv.writeIndex]
  case readIndex => rw [readIndex, returned, inv.readIndex]
  case released_le => rw [returned, claimed]; exact inv.released_le
  case bounded => rw [returned, claimed]; exact inv.bounded
  case inOrder => rw [returned, claimed]; exact inv.inOrder
  case producer =>
    intro j
    rw [hframe, claimed, returned, producers]
    exact inv.producer j
  case distinct =>
    rw [producers]
    exact inv.distinct
  case occupied =>
    intro q above below
    rw [returned] at above
    rw [claimed] at below
    cases inv.occupied q above below with
    | filling j owns ticket => exact .filling j (by rwa [producers]) (by rwa [producers])
    | published message found holds =>
        exact .published message (by rwa [claimed]) (by rwa [hframe])
    | releasing phase oldest =>
        rw [before] at phase
        cases phase
  case free =>
    intro q above below
    rw [hframe]
    exact inv.free q (by rwa [claimed] at above) (by rwa [returned] at below)
  case consumer => rw [returned, claimed, hframe]; exact ok
  case releasing =>
    intro releasing
    rw [after] at releasing
    cases releasing

/-- The consumer un-publishes the oldest slot, which it has copied out. -/
theorem unpublish (inv : s.Inv config) (queue : t.queue.readIndex = s.queue.readIndex)
    (writeIndex : t.queue.writeIndex = s.queue.writeIndex)
    (frames : ∀ q, s.returned.length ≤ q → q < s.returned.length + config.capacity →
      q ≠ s.returned.length → t.frameAt config q = s.frameAt config q)
    (claimed : t.claimed = s.claimed) (returned : t.returned = s.returned)
    (producers : t.producers = s.producers) (before : s.consumer.phase.reading = true)
    (after : t.consumer.phase.releasing = true)
    (ok : t.consumer.Ok (t.frameAt config s.returned.length) s.claimed s.returned.length) :
    t.Inv config := by
  have hle := inv.released_le
  have hroom := inv.bounded
  have hlt : s.returned.length < s.claimed.length := by
    unfold Consumer.Ok at ok
    cases phase : t.consumer.phase <;> rw [phase] at ok after <;>
      first
      | (cases after; done)
      | exact (List.getElem?_eq_some_iff.mp ok.2.2).1
  constructor
  case writeIndex => rw [writeIndex, claimed, inv.writeIndex]
  case readIndex => rw [queue, returned, inv.readIndex]
  case released_le => rw [returned, claimed]; exact inv.released_le
  case bounded => rw [returned, claimed]; exact inv.bounded
  case inOrder => rw [returned, claimed]; exact inv.inOrder
  case producer =>
    intro j
    rw [claimed, returned, producers]
    refine (inv.producer j).stable (List.prefix_refl _) (Nat.le_refl _) fun filling => ?_
    have bounds := inv.ticket_bounds filling
    exact ⟨bounds.1, frames _ bounds.1 (by omega) (inv.ticket_ne_of_reading before filling)⟩
  case distinct =>
    rw [producers]
    exact inv.distinct
  case occupied =>
    intro q above below
    rw [returned] at above
    rw [claimed] at below
    by_cases oldest : q = s.returned.length
    · exact .releasing after (by rw [returned]; exact oldest)
    · cases inv.occupied q above below with
      | filling j owns ticket => exact .filling j (by rwa [producers]) (by rwa [producers])
      | published message found holds =>
          refine .published message (by rwa [claimed]) ?_
          rwa [frames q above (by omega) oldest]
      | releasing _ equal => exact absurd equal oldest
  case free =>
    intro q above below
    rw [claimed] at above
    rw [returned] at below
    rw [frames q (by omega) below (by omega)]
    exact inv.free q above below
  case consumer => rw [returned, claimed]; exact ok
  case releasing =>
    intro _ j filling
    rw [producers] at filling ⊢
    rw [returned]
    exact inv.ticket_ne_of_reading before filling

/-- The consumer steps past the oldest slot and has returned its frame. -/
theorem advance (inv : s.Inv config) {message : Message}
    (oldest : s.claimed[s.returned.length]? = some message)
    (released : (s.frameAt config s.returned.length).published = 0)
    (before : s.consumer.phase.releasing = true)
    (readIndex : t.queue.readIndex = s.queue.readIndex + 1)
    (writeIndex : t.queue.writeIndex = s.queue.writeIndex)
    (frames : t.queue.frames = s.queue.frames) (claimed : t.claimed = s.claimed)
    (returned : t.returned = s.returned ++ [message]) (producers : t.producers = s.producers)
    (after : t.consumer.phase = .idle) : t.Inv config := by
  have hroom := inv.bounded
  have hlt : s.returned.length < s.claimed.length := (List.getElem?_eq_some_iff.mp oldest).1
  have hframe : ∀ q, t.frameAt config q = s.frameAt config q := fun q => congrFun frames _
  have hlen : t.returned.length = s.returned.length + 1 := by simp [returned]
  have hpassed : ∀ j, (s.producers j).phase.filling = true →
      s.returned.length + 1 ≤ (s.producers j).ticket := by
    intro j filling
    have := (inv.ticket_bounds filling).1
    have := inv.releasing before j filling
    omega
  constructor
  case writeIndex => rw [writeIndex, claimed, inv.writeIndex]
  case readIndex => rw [readIndex, hlen, inv.readIndex, ofNat_succ]
  case released_le => rw [hlen, claimed]; omega
  case bounded => rw [hlen, claimed]; omega
  case inOrder =>
    rw [claimed, returned, List.prefix_iff_eq_take.mp inv.inOrder]
    have htake := List.take_add_one (l := s.claimed) (i := s.returned.length)
    rw [oldest] at htake
    exact htake ▸ List.take_prefix _ _
  case producer =>
    intro j
    rw [hframe, claimed, hlen, producers]
    exact (inv.producer j).stable (List.prefix_refl _) (Nat.le_succ _)
      fun filling => ⟨hpassed j filling, rfl⟩
  case distinct =>
    rw [producers]
    exact inv.distinct
  case occupied =>
    intro q above below
    rw [hlen] at above
    rw [claimed] at below
    cases inv.occupied q (by omega) below with
    | filling j owns ticket => exact .filling j (by rwa [producers]) (by rwa [producers])
    | published message found holds =>
        exact .published message (by rwa [claimed]) (by rwa [hframe])
    | releasing _ equal => omega
  case free =>
    -- The slot just stepped past is the one at the far end of the new window.
    intro q above below
    rw [hframe]
    rw [claimed] at above
    rw [hlen] at below
    by_cases far : q = s.returned.length + config.capacity
    · rw [far, QueueState.frameAt, Nat.add_mod_right]
      exact released
    · exact inv.free q above (by omega)
  case consumer =>
    unfold Consumer.Ok
    rw [after]
    trivial
  case releasing =>
    intro releasing
    rw [after] at releasing
    cases releasing

end QueueState.Inv

/-! ## One step of each thread -/

@[simp] theorem QueueState.setProducer_self (s : QueueState) (i : Nat) (producer : Producer) :
    (s.setProducer i producer).producers i = producer :=
  Function.update_self ..

@[simp] theorem QueueState.setPhase_self (s : QueueState) (i : Nat) (phase : AdmitPhase) :
    (s.setPhase i phase).producers i = (s.producers i).setPhase phase :=
  Function.update_self ..

@[simp] theorem QueueState.setPhase_frameAt (s : QueueState) (phase : AdmitPhase) (q : Nat) :
    (s.setPhase i phase).frameAt config q = s.frameAt config q :=
  rfl

@[simp] theorem QueueConfig.setFrame_frameAt (config : QueueConfig) (s : QueueState) (frame : ZenohPicoFrame) (q : Nat) :
    (s.setFrame (q % config.capacity) frame).frameAt config q = frame :=
  Function.update_self ..

/-- The slot a word selects, by the position the word stands for. -/
theorem QueueConfig.frames_slot (config : QueueConfig) (s : QueueState) {index : BitVec 32} {q : Nat}
    (stands : index = BitVec.ofNat 32 q) :
    s.queue.frames (config.slot index) = s.frameAt config q := by
  rw [QueueState.frameAt, stands, config.slot_ofNat]

theorem QueueState.setFrame_self (s : QueueState) (slot : Nat) :
    s.setFrame slot (s.queue.frames slot) = s := by
  rw [QueueState.setFrame, Function.update_eq_self]

theorem QueueState.setProducer_kept {queue : ZenohPicoQueue} {producer : Producer}
    (readIndex : queue.readIndex = s.queue.readIndex)
    (writeIndex : queue.writeIndex = s.queue.writeIndex) :
    s.KeptBy i ({ s with queue }.setProducer i producer) :=
  ⟨readIndex, writeIndex, rfl, rfl, rfl, fun _ ne => Function.update_of_ne ne ..⟩

namespace QueueState.Inv

/-- A step that changes counters and the phase of a producer outside the ring. -/
theorem outside (inv : s.Inv config) (queue : ZenohPicoQueue) {producer : Producer}
    (readIndex : queue.readIndex = s.queue.readIndex)
    (writeIndex : queue.writeIndex = s.queue.writeIndex) (frames : queue.frames = s.queue.frames)
    (before : (s.producers i).phase.filling = false) (after : producer.phase.filling = false)
    (ticket : producer.ticket = (s.producers i).ticket)
    (ok : producer.Ok config.capacity (s.frameAt config producer.ticket) s.claimed
      s.returned.length) : ({ s with queue }.setProducer i producer).Inv config := by
  have hframe : ∀ q, ({ s with queue }.setProducer i producer).frameAt config q =
      s.frameAt config q := fun q => congrFun frames _
  refine inv.local_producer (setProducer_kept readIndex writeIndex) ?_ ?_
    (fun q _ _ _ => hframe q) ?_
  · rw [setProducer_self, before, after]
  · rw [setProducer_self, ticket]
  · rw [setProducer_self, hframe]
    exact ok

/-- The slot a filling producer addresses is the slot of its ticket. -/
theorem slot_eq {producer : Producer} {frame : ZenohPicoFrame} {claimed : List Message}
    {released : Nat} {write : BitVec 32} (owns : producer.Owns frame claimed released write) :
    s.queue.frames (config.slot write) = s.frameAt config producer.ticket :=
  config.frames_slot s owns.write_eq

/-- A filling producer stores into its own slot, which stays un-published. -/
theorem fill (inv : s.Inv config) {write : BitVec 32} (frame : ZenohPicoFrame) {phase : AdmitPhase}
    (owns : (s.producers i).Owns (s.frameAt config (s.producers i).ticket) s.claimed
      s.returned.length write)
    (before : (s.producers i).phase.filling = true) (after : phase.filling = true)
    (ok : ((s.producers i).setPhase phase).Ok config.capacity frame s.claimed s.returned.length) :
    ((s.setFrame (config.slot write) frame).setPhase i phase).Inv config := by
  have hslot : config.slot write = (s.producers i).ticket % config.capacity := by
    rw [owns.write_eq, config.slot_ofNat]
  have hbounds := inv.ticket_bounds before
  have hroom := inv.bounded
  refine inv.local_producer (setProducer_kept rfl rfl) ?_ ?_ ?_ ?_
  · rw [setPhase_self, before]
    exact after
  · rw [setPhase_self]
    rfl
  · intro q above below ne
    refine Function.update_of_ne ?_ ..
    rw [hslot]
    exact slot_ne ⟨above, below⟩ ⟨hbounds.1, by omega⟩ (ne before)
  · have hown := config.setFrame_frameAt s frame (s.producers i).ticket
    rw [setPhase_self, setPhase_frameAt, hslot]
    exact hown.symm ▸ ok

/-- A filling producer moves to its next copy and stores nothing. -/
theorem turn (inv : s.Inv config) {write : BitVec 32} {phase : AdmitPhase}
    (owns : (s.producers i).Owns (s.frameAt config (s.producers i).ticket) s.claimed
      s.returned.length write)
    (before : (s.producers i).phase.filling = true) (after : phase.filling = true)
    (ok : ((s.producers i).setPhase phase).Ok config.capacity
      (s.frameAt config (s.producers i).ticket) s.claimed s.returned.length) :
    (s.setPhase i phase).Inv config := by
  have kept := inv.fill (s.frameAt config (s.producers i).ticket) owns before after ok
  rwa [← slot_eq owns, setFrame_self] at kept

end QueueState.Inv

/-- Fewer than `2 ^ 32` exchanges are won within one admit. -/
def QueueState.ClaimsFit (s : QueueState) : QueueLabel → Prop
  | .produce i =>
      match (s.producers i).phase with
      | .exchange _ => s.claimed.length < (s.producers i).claimsAtEntry + 2 ^ 32
      | _ => True
  | _ => True

instance (s : QueueState) (label : QueueLabel) : Decidable (s.ClaimsFit label) := by
  unfold QueueState.ClaimsFit
  split
  · split <;> infer_instance
  · infer_instance

namespace QueueState.Inv

/-- A filling producer that has stored a further piece of its frame. -/
theorem filled {producer : Producer} {frame frame' : ZenohPicoFrame} {claimed : List Message}
    {released : Nat} {write : BitVec 32} (owns : producer.Owns frame claimed released write)
    (phase : AdmitPhase) (unpublished : frame'.published = 0)
    (written : (producer.setPhase phase).Written frame') :
    (producer.setPhase phase).Owns frame' claimed released write :=
  ⟨owns.write_eq, owns.unreleased, owns.claimed, unpublished, written⟩

theorem produce (inv : s.Inv config) (fits : s.ClaimsFit (.produce i))
    (taken : s.produce config i = some t) : t.Inv config := by
  have ok := inv.producer i
  unfold Producer.Ok at ok
  unfold QueueState.produce at taken
  unfold QueueState.ClaimsFit at fits
  cases phase : (s.producers i).phase with
  | idle => simp [phase] at taken
  | countOversized =>
      simp only [phase, Option.some.injEq] at taken
      subst taken
      exact inv.outside _ rfl rfl rfl (by rw [phase]; rfl) rfl rfl trivial
  | reportOversized =>
      simp only [phase, Option.some.injEq] at taken
      subst taken
      exact inv.outside _ rfl rfl rfl (by rw [phase]; rfl) rfl rfl trivial
  | countDropped =>
      simp only [phase, Option.some.injEq] at taken
      subst taken
      exact inv.outside _ rfl rfl rfl (by rw [phase]; rfl) rfl rfl trivial
  | reportDropped =>
      simp only [phase, Option.some.injEq] at taken
      subst taken
      exact inv.outside _ rfl rfl rfl (by rw [phase]; rfl) rfl rfl trivial
  | loadWrite =>
      simp only [phase, Option.some.injEq] at taken ok
      subst taken
      exact inv.outside _ rfl rfl rfl (by rw [phase]; rfl) rfl rfl ⟨inv.writeIndex, ok, Nat.le_refl _⟩
  | loadRead write =>
      simp only [phase] at taken ok
      split at taken <;> cases taken
      · exact inv.outside _ rfl rfl rfl (by rw [phase]; rfl) rfl rfl trivial
      · rename_i below
        refine inv.outside _ rfl rfl rfl (by rw [phase]; rfl) rfl rfl
          ⟨ok.1, ok.2.1, ok.2.2, fun (newest : (s.producers i).observed = _) => ?_⟩
        have hroom := inv.bounded
        have hcap := config.capacity_lt
        rw [ok.1, inv.readIndex, newest,
          toNat_ofNat_sub inv.released_le (by omega)] at below
        have hle := inv.released_le
        omega
  | exchange write =>
      simp only [phase] at taken ok fits
      split at taken <;> cases taken
      · rename_i won
        -- The word is the one last loaded, so no exchange was won in between.
        have newest : s.claimed.length = (s.producers i).observed := by
          rw [inv.writeIndex, ok.1] at won
          exact eq_of_ofNat_eq ok.2.2.1 (by omega) won
        have hwrite : write = BitVec.ofNat 32 s.claimed.length := by rw [ok.1, newest]
        refine inv.claim (i := i) (s.producers i).arguments.message rfl (by rw [won]; rfl) rfl rfl
          rfl rfl (fun j ne => Function.update_of_ne ne ..) (ok.2.2.2 newest.symm)
          (by rw [phase]; rfl) (by rw [setProducer_self]; rfl) (by rw [setProducer_self]) ?_
        rw [setProducer_self]
        exact ⟨hwrite, inv.released_le, by simp, inv.free _ (Nat.le_refl _) (ok.2.2.2 newest.symm),
          fun _ below => absurd below (Nat.not_lt_zero _)⟩
      · exact inv.outside _ rfl rfl rfl (by rw [phase]; rfl) rfl rfl
          ⟨inv.writeIndex, ok.2.1.trans ok.2.2.1, Nat.le_refl _⟩
  | copyKey write offset =>
      simp only [phase] at taken ok
      have written := ok.written
      unfold Producer.Written at written
      simp only [phase] at written
      split at taken <;> cases taken
      · refine inv.fill _ ok (by rw [phase]; rfl) rfl (filled ok _ ?_ ?_)
        · rw [slot_eq ok]; exact ok.unpublished
        · rw [slot_eq ok]; exact Memory.agree_update written
      · rename_i copied
        refine inv.turn ok (by rw [phase]; rfl) rfl (filled ok _ ok.unpublished ?_)
        exact ⟨fun k below => written k (below.trans_le (Nat.not_lt.mp copied)), fun k below => absurd below (Nat.not_lt_zero k)⟩
  | copyPayload write offset =>
      simp only [phase] at taken ok
      have written := ok.written
      unfold Producer.Written at written
      simp only [phase] at written
      split at taken <;> cases taken
      · refine inv.fill _ ok (by rw [phase]; rfl) rfl (filled ok _ ?_ ?_)
        · rw [slot_eq ok]; exact ok.unpublished
        · rw [slot_eq ok]; exact ⟨written.1, Memory.agree_update written.2⟩
      · rename_i copied
        refine inv.turn ok (by rw [phase]; rfl) rfl (filled ok _ ok.unpublished ?_)
        exact ⟨written.1, fun k below => written.2 k (below.trans_le (Nat.not_lt.mp copied))⟩
  | storeKeyLength write =>
      simp only [phase, Option.some.injEq] at taken ok
      have written := ok.written
      unfold Producer.Written at written
      simp only [phase] at written
      subst taken
      refine inv.fill _ ok (by rw [phase]; rfl) rfl (filled ok _ ?_ ?_)
      · rw [slot_eq ok]; exact ok.unpublished
      · rw [slot_eq ok]; exact ⟨written.1, written.2, rfl⟩
  | storePayloadLength write =>
      simp only [phase, Option.some.injEq] at taken ok
      have written := ok.written
      unfold Producer.Written at written
      simp only [phase] at written
      subst taken
      refine inv.fill _ ok (by rw [phase]; rfl) rfl (filled ok _ ?_ ?_)
      · rw [slot_eq ok]; exact ok.unpublished
      · rw [slot_eq ok]; exact ⟨written.1, written.2.1, written.2.2, rfl⟩
  | publish write =>
      simp only [phase, Option.some.injEq] at taken ok
      have written := ok.written
      unfold Producer.Written at written
      simp only [phase] at written
      obtain ⟨hkey, hpayload, hkeyLength, hpayloadLength⟩ := written
      subst taken
      have filling : (s.producers i).phase.filling = true := by rw [phase]; rfl
      have hbounds := inv.ticket_bounds filling
      have hroom := inv.bounded
      have hslot : config.slot write = (s.producers i).ticket % config.capacity := by
        rw [ok.write_eq, config.slot_ofNat]
      refine inv.publish (setProducer_kept rfl rfl) filling (by rw [setPhase_self]; rfl) ?_ ?_
        (by rw [setPhase_self]; trivial)
      · intro q above below ne
        refine Function.update_of_ne ?_ ..
        rw [hslot]
        exact slot_ne ⟨above, below⟩ ⟨hbounds.1, by omega⟩ ne
      · rw [setPhase_frameAt, hslot, config.setFrame_frameAt, ← hslot, slot_eq ok]
        constructor
        · exact (by decide : (1 : BitVec 32) ≠ 0)
        · rw [hkeyLength]; exact Memory.bytes_congr hkey
        · rw [hpayloadLength]; exact Memory.bytes_congr hpayload

/-- The oldest frame is published only by the admit that claimed it. -/
theorem ready_of_published (inv : s.Inv config) (ahead : s.returned.length < s.claimed.length)
    (published : (s.frameAt config s.returned.length).published ≠ 0)
    (quiet : s.consumer.phase.releasing = false) :
    Ready (s.frameAt config s.returned.length) s.claimed s.returned.length := by
  cases inv.occupied _ (Nat.le_refl _) ahead with
  | filling j owns ticket => exact absurd ticket (inv.ticket_ne_of_published owns published)
  | published message found holds => exact ⟨message, found, holds⟩
  | releasing phase _ =>
      rw [quiet] at phase
      cases phase

/-- A consumer step that only moves its phase, its result and its own storage. -/
theorem quiet (inv : s.Inv config) (queue : ZenohPicoQueue) {consumer : Consumer}
    (readIndex : queue.readIndex = s.queue.readIndex)
    (writeIndex : queue.writeIndex = s.queue.writeIndex) (frames : queue.frames = s.queue.frames)
    (before : s.consumer.phase.releasing = false) (after : consumer.phase.releasing = false)
    (ok : consumer.Ok (s.frameAt config s.returned.length) s.claimed s.returned.length) :
    ({ s with queue, consumer }).Inv config :=
  inv.quiet_consumer readIndex writeIndex frames rfl rfl rfl before after ok

theorem consume (inv : s.Inv config) (taken : s.consume config = some t) : t.Inv config := by
  have ok := inv.consumer
  unfold Consumer.Ok at ok
  unfold QueueState.consume at taken
  cases phase : s.consumer.phase with
  | idle => simp [phase] at taken
  | loadRead =>
      simp only [phase, Option.some.injEq] at taken
      subst taken
      exact inv.quiet _ rfl rfl rfl (by rw [phase]; rfl) rfl inv.readIndex
  | loadWrite read =>
      simp only [phase] at taken ok
      split at taken <;> cases taken
      · exact inv.quiet _ rfl rfl rfl (by rw [phase]; rfl) rfl trivial
      · rename_i ahead
        refine inv.quiet _ rfl rfl rfl (by rw [phase]; rfl) rfl ⟨ok, ?_⟩
        refine Nat.lt_of_le_of_ne inv.released_le fun equal => ahead ?_
        rw [ok, inv.writeIndex, equal]
  | takeReportFull =>
      simp only [phase] at taken
      split at taken <;> cases taken <;>
        exact inv.quiet _ rfl rfl rfl (by rw [phase]; rfl) rfl trivial
  | takeReportOversized =>
      simp only [phase] at taken
      split at taken <;> cases taken <;>
        exact inv.quiet _ rfl rfl rfl (by rw [phase]; rfl) rfl trivial
  | loadPublished read =>
      simp only [phase] at taken ok
      have hslot := config.frames_slot s ok.1
      split at taken <;> cases taken
      · exact inv.quiet _ rfl rfl rfl (by rw [phase]; rfl) rfl trivial
      · rename_i published
        rw [hslot] at published
        exact inv.quiet _ rfl rfl rfl (by rw [phase]; rfl) rfl
          ⟨ok.1, inv.ready_of_published ok.2 published (by rw [phase]; rfl)⟩
  | checkLengths read =>
      simp only [phase] at taken ok
      have hslot := config.frames_slot s ok.1
      split at taken <;> cases taken
      · exact inv.quiet _ rfl rfl rfl (by rw [phase]; rfl) rfl trivial
      · exact inv.quiet _ rfl rfl rfl (by rw [phase]; rfl) rfl
          ⟨ok.1, ok.2, by rw [hslot], fun _ below => absurd below (Nat.not_lt_zero _)⟩
  | copyKey read length offset =>
      simp only [phase] at taken ok
      have hslot := config.frames_slot s ok.1
      obtain ⟨hread, ready, hlength, copied⟩ := ok
      split at taken <;> cases taken
      · refine inv.quiet _ rfl rfl rfl (by rw [phase]; rfl) rfl ⟨hread, ready, hlength, ?_⟩
        rw [hslot]
        exact Memory.agree_update copied
      · refine inv.quiet _ rfl rfl rfl (by rw [phase]; rfl) rfl
          ⟨hread, ready, fun k below => copied k (by omega), by rw [hslot],
            fun _ below => absurd below (Nat.not_lt_zero _)⟩
  | copyPayload read length offset =>
      simp only [phase] at taken ok
      have hslot := config.frames_slot s ok.1
      obtain ⟨hread, ready, hkey, hlength, copied⟩ := ok
      split at taken <;> cases taken
      · refine inv.quiet _ rfl rfl rfl (by rw [phase]; rfl) rfl ⟨hread, ready, hkey, hlength, ?_⟩
        rw [hslot]
        exact Memory.agree_update copied
      · exact inv.quiet _ rfl rfl rfl (by rw [phase]; rfl) rfl
          ⟨hread, ready, hkey, fun k below => copied k (by omega)⟩
  | storeKeyLength read =>
      simp only [phase, Option.some.injEq] at taken ok
      subst taken
      refine inv.quiet _ rfl rfl rfl (by rw [phase]; rfl) rfl ⟨ok.1, ok.2.1, ok.2.2.1, ok.2.2.2, ?_⟩
      rw [config.frames_slot s ok.1]
  | storePayloadLength read =>
      simp only [phase, Option.some.injEq] at taken ok
      obtain ⟨hread, ready, hkey, hpayload, hkeyLength⟩ := ok
      subst taken
      refine inv.quiet _ rfl rfl rfl (by rw [phase]; rfl) rfl
        ⟨hread, ready, hkey, hpayload, hkeyLength, ?_⟩
      rw [config.frames_slot s hread]
  | unpublish read =>
      simp only [phase, Option.some.injEq] at taken ok
      obtain ⟨hread, ⟨message, oldest, holds⟩, hkey, hpayload, hkeyLength, hpayloadLength⟩ := ok
      have hcap := config.capacity_pos
      have hslot : config.slot read = s.returned.length % config.capacity := by
        rw [hread, config.slot_ofNat]
      subst taken
      refine inv.unpublish rfl rfl ?_ rfl rfl rfl (by rw [phase]; rfl) rfl ?_
      · intro q above below ne
        refine Function.update_of_ne ?_ ..
        rw [hslot]
        exact slot_ne ⟨above, below⟩ ⟨Nat.le_refl _, by omega⟩ ne
      · have hown : ∀ frame, ((s.setFrame (config.slot read) frame).setPollPhase
            (.advance read)).frameAt config s.returned.length = frame := by
          intro frame
          rw [hslot]
          exact config.setFrame_frameAt s frame _
        refine ⟨hread, by rw [hown], ?_⟩
        have hdelivered : (⟨s.consumer.key.bytes s.consumer.keyLength,
            s.consumer.payload.bytes s.consumer.payloadLength⟩ : Message) = message := by
          rw [hkeyLength, hpayloadLength, Memory.bytes_congr hkey, Memory.bytes_congr hpayload,
            holds.key, holds.payload]
        exact oldest.trans (congrArg some hdelivered.symm)
  | advance read =>
      simp only [phase, Option.some.injEq] at taken ok
      subst taken
      exact inv.advance ok.2.2 ok.2.1 (by rw [phase]; rfl) (by rw [inv.readIndex, ← ok.1]; rfl) rfl
        rfl rfl rfl rfl rfl

/-- A step of any thread keeps the invariant. -/
theorem next (inv : s.Inv config) {label : QueueLabel} (fits : s.ClaimsFit label)
    (taken : s.next config label = some t) : t.Inv config := by
  cases label with
  | queueAdmit i arguments =>
      simp only [QueueState.next] at taken
      split at taken <;> cases taken
      rename_i idle
      by_cases within : arguments.fits config.toCarrierBounds = true
      · simp only [within, if_true]
        exact inv.outside s.queue rfl rfl rfl (by rw [idle]; rfl) rfl rfl
          (Nat.le_refl s.claimed.length)
      · simp only [within]
        exact inv.outside s.queue rfl rfl rfl (by rw [idle]; rfl) rfl rfl trivial
  | noteOversized i =>
      simp only [QueueState.next] at taken
      split at taken <;> cases taken
      rename_i idle
      exact inv.outside s.queue rfl rfl rfl (by rw [idle]; rfl) rfl rfl trivial
  | produce i => exact inv.produce fits taken
  | poll arguments =>
      simp only [QueueState.next] at taken
      split at taken
      · rename_i idle
        split at taken <;> cases taken <;>
          exact inv.quiet s.queue rfl rfl rfl (by rw [idle]; rfl) rfl trivial
      · cases taken
  | consume => exact inv.consume taken

/-- The invariant holds in every state of a run within the exchange bound. -/
theorem of_run {labels : List QueueLabel}
    (run : Run (QueueState.next config) QueueState.ClaimsFit .initial labels s) : s.Inv config :=
  run.invariant .initial fun inv fits taken => inv.next fits taken

end QueueState.Inv

end AxolotyEmbedded.Zenoh
