import Mathlib.Data.List.GetD
import AxolotyEmbedded.Library.Transition
import AxolotyEmbedded.Zenoh.CarrierSlots

/-!
Router counts and the reconnect counter. The observations of a session are the counts
its `connect` and its waits process; the counter grows at a positive one right after
a run of zeros that follows a positive one.
-/
namespace AxolotyEmbedded.Zenoh
open Transition

/-! ## Observations -/

/-- Right before observation `k` is a run of zeros that a positive one precedes. -/
def LossBefore (counts : List Nat) (k : Nat) : Prop :=
  ∃ j < k, j + 1 < k ∧ 0 < counts.getD j 0 ∧ ∀ i < k, j < i → counts.getD i 0 = 0

instance (counts : List Nat) (k : Nat) : Decidable (LossBefore counts k) :=
  inferInstanceAs (Decidable (∃ j < k, _))

/-- How many observations are positive with a loss right before them. -/
def reconnects (counts : List Nat) : Nat :=
  (List.range counts.length).countP fun k => 0 < counts.getD k 0 ∧ LossBefore counts k

def LastPositive (counts : List Nat) : Prop := 0 < counts.getD (counts.length - 1) 0

section Counts
variable {counts : List Nat} {n k : Nat}

theorem getD_snoc_of_lt (inside : k < counts.length) :
    (counts ++ [n]).getD k 0 = counts.getD k 0 :=
  List.getD_append counts [n] 0 k inside

theorem getD_snoc_length : (counts ++ [n]).getD counts.length 0 = n := by simp

theorem lastPositive_snoc : LastPositive (counts ++ [n]) ↔ 0 < n := by
  simp [LastPositive]

/-- The last of some more observations is the last of all. -/
theorem LastPositive.append {later : List Nat} (positive : LastPositive later) :
    LastPositive (counts ++ later) := by
  induction later using List.reverseRecOn with
  | nil => simp [LastPositive] at positive
  | append_singleton later last =>
      rw [lastPositive_snoc] at positive
      rwa [← List.append_assoc, lastPositive_snoc]

theorem not_lastPositive_nil : ¬ LastPositive [] := by simp [LastPositive]

theorem not_lossBefore_nil : ¬ LossBefore [] 0 := by
  rintro ⟨j, before, -⟩
  exact Nat.not_lt_zero j before

/-- The observations before `k` decide about it. -/
theorem lossBefore_snoc (inside : k ≤ counts.length) :
    LossBefore (counts ++ [n]) k ↔ LossBefore counts k := by
  have same : ∀ i < k, (counts ++ [n]).getD i 0 = counts.getD i 0 := fun i before =>
    getD_snoc_of_lt (by omega)
  refine exists_congr fun j => and_congr_right fun before => and_congr_right fun _ => ?_
  rw [same j before]
  exact and_congr_right fun _ => forall₂_congr fun i before => by rw [same i before]

/-- A zero starts or continues a loss, and any other observation ends it. -/
theorem lossBefore_snoc_length :
    LossBefore (counts ++ [n]) (counts.length + 1) ↔
      n = 0 ∧ (LossBefore counts counts.length ∨ LastPositive counts) := by
  constructor
  · rintro ⟨j, -, before, positive, zeros⟩
    have zero := zeros counts.length (by omega) (by omega)
    rw [getD_snoc_length] at zero
    rw [getD_snoc_of_lt (by omega)] at positive
    refine ⟨zero, ?_⟩
    by_cases last : j + 1 = counts.length
    · right
      rwa [LastPositive, ← last, Nat.add_sub_cancel]
    · left
      refine ⟨j, by omega, by omega, positive, fun i inside after => ?_⟩
      have here := zeros i (by omega) after
      rwa [getD_snoc_of_lt inside] at here
  · rintro ⟨rfl, ⟨j, -, before, positive, zeros⟩ | positive⟩
    · refine ⟨j, by omega, by omega, ?_, fun i inside after => ?_⟩
      · rwa [getD_snoc_of_lt (by omega)]
      · by_cases last : i = counts.length
        · rw [last, getD_snoc_length]
        · rw [getD_snoc_of_lt (by omega)]
          exact zeros i (by omega) after
    · have nonempty : 0 < counts.length := by
        by_contra empty
        rw [List.length_eq_zero_iff.mp (by omega : counts.length = 0)] at positive
        exact not_lastPositive_nil positive
      refine ⟨counts.length - 1, by omega, by omega, ?_, fun i inside after => ?_⟩
      · rw [getD_snoc_of_lt (by omega)]
        exact positive
      · rw [show i = counts.length by omega, getD_snoc_length]

theorem reconnects_snoc :
    reconnects (counts ++ [n]) =
      reconnects counts + if 0 < n ∧ LossBefore counts counts.length then 1 else 0 := by
  rw [reconnects, List.length_append, List.length_singleton, List.range_succ,
    List.countP_append, List.countP_singleton]
  congr 1
  · refine List.countP_congr fun k member => ?_
    have inside := List.mem_range.mp member
    rw [decide_eq_true_eq, decide_eq_true_eq, getD_snoc_of_lt inside,
      lossBefore_snoc (Nat.le_of_lt inside)]
  · simp only [getD_snoc_length, lossBefore_snoc (Nat.le_refl _), decide_eq_true_eq]

end Counts

/-! ## What the calls process -/

/-- The count an answer gives, if it is one. -/
def counted (answer : Except ZenohResult Nat) : List Nat := answer.toOption.toList

/-- The wait returns at this answer. -/
def settles : Except ZenohResult Nat → Bool
  | .ok routers => routers ≠ 0
  | .error result => result = .notOpen

/-- A count of at least one router. -/
def hasRouter : Except ZenohResult Nat → Bool
  | .ok routers => 0 < routers
  | .error _ => false

theorem hasRouter_eq_true {answer : Except ZenohResult Nat} :
    hasRouter answer = true ↔ ∃ n, answer = .ok n ∧ 0 < n := by
  cases answer <;> simp [hasRouter]

/-- `endMS` of `waitForReconnect`. -/
def waitEnd (deadlineMS : BitVec 32) (start : BitVec 64) : BitVec 64 :=
  let startMS := milliseconds start
  let durationMS := deadlineMS.setWidth 64
  if BitVec.allOnes 64 - startMS < durationMS then BitVec.allOnes 64 else startMS + durationMS

/-- The query started and ended before the deadline. -/
def RouterRound.InTime (round : RouterRound) (endMS : BitVec 64) : Prop :=
  milliseconds round.now < endMS ∧ milliseconds round.after < endMS

instance (round : RouterRound) (endMS : BitVec 64) : Decidable (round.InTime endMS) :=
  inferInstanceAs (Decidable (_ ∧ _))

/-- The counts that the waiting loop processes. -/
def roundCounts (endMS : BitVec 64) : List RouterRound → List Nat
  | [] => []
  | round :: rounds =>
      if round.InTime endMS then
        counted round.answer ++ if settles round.answer then [] else roundCounts endMS rounds
      else []

/-- The counts that a wait of an open session processes. -/
def waitCounts (deadlineMS : BitVec 32) (start : BitVec 64) (first : Except ZenohResult Nat)
    (rounds : List RouterRound) : List Nat :=
  counted first ++ if settles first then [] else roundCounts (waitEnd deadlineMS start) rounds

/-- The observations of the latest session, and the reconnect counter when it opened. -/
structure Observations where
  base : BitVec 32
  counts : List Nat

namespace CarrierSystem
variable {Token : Type}

def reconnectsObserved (s : CarrierSystem Token) : BitVec 32 :=
  s.diagnostics.counters .reconnectsObserved

/-- A successful `connect` begins the observations anew, and a wait adds its own. -/
def observe (observations : Observations) (call : CarrierCall Token) (t : CarrierSystem Token) :
    Observations :=
  match call with
  | .connect _ _ routers =>
      if t.reply = some (.done true) then ⟨t.reconnectsObserved, counted routers⟩ else observations
  | .waitForReconnect deadlineMS start first rounds =>
      if t.carrier.phase = .subscribed then
        ⟨observations.base, observations.counts ++ waitCounts deadlineMS start first rounds⟩
      else observations
  | _ => observations

variable {s t u : CarrierSystem Token}

/-! ## Calls that observe nothing -/

/-- The router flags and the counter are the same. -/
structure KeepsRouter (s t : CarrierSystem Token) : Prop where
  connected : t.carrier.connectedRouterObserved = s.carrier.connectedRouterObserved
  lost : t.carrier.routerLossObserved = s.carrier.routerLossObserved
  counter : t.reconnectsObserved = s.reconnectsObserved

namespace KeepsRouter

@[refl] theorem refl (s : CarrierSystem Token) : s.KeepsRouter s := ⟨rfl, rfl, rfl⟩

theorem trans (first : s.KeepsRouter t) (second : t.KeepsRouter u) : s.KeepsRouter u where
  connected := second.connected.trans first.connected
  lost := second.lost.trans first.lost
  counter := second.counter.trans first.counter

theorem count (keeps : s.KeepsRouter t) {metric : CarrierMetric}
    (other : metric ≠ .reconnectsObserved) : s.KeepsRouter (t.count metric) :=
  keeps.trans ⟨rfl, rfl, t.diagnostics.counters_add_of_ne other.symm⟩

end KeepsRouter

theorem keepsRouter_noteSubscriptionFailure (s : CarrierSystem Token) :
    s.KeepsRouter s.noteSubscriptionFailure :=
  (KeepsRouter.refl s).count (by decide)

theorem keepsRouter_noteSessionOpen (s : CarrierSystem Token) (result : ZenohResult) :
    s.KeepsRouter (s.noteSessionOpen result) :=
  (KeepsRouter.refl s).count (by split <;> decide)

theorem keepsRouter_notePollOutcome (s : CarrierSystem Token) (result : ZenohResult) :
    s.KeepsRouter (s.notePollOutcome result) := by
  have same := KeepsRouter.refl s
  cases result with
  | ok | queueEmpty => exact same
  | queueFull | frameTooLarge | notOpen => exact same.count (by decide)
  | invalidArgument | capacityExceeded | transportError =>
      exact (same.count (by decide)).count (by decide)

theorem keepsRouter_notePublishOutcome (s : CarrierSystem Token) (result : ZenohResult) :
    s.KeepsRouter (s.notePublishOutcome result) := by
  have attempted := (KeepsRouter.refl s).count (show CarrierMetric.publishAttempts ≠ _ by decide)
  unfold notePublishOutcome
  split
  · exact attempted
  · exact (attempted.count (by decide)).count (by decide)

theorem keepsRouter_subscribe (s : CarrierSystem Token) (bounds : CarrierBounds)
    (topic : List UInt8) (answer : Except ZenohResult Token) :
    s.KeepsRouter (s.subscribe bounds topic answer).2 := by
  have failed := s.keepsRouter_noteSubscriptionFailure
  unfold subscribe
  split
  · split
    · split
      · rfl
      · split
        · exact failed
        · split
          · exact ⟨rfl, rfl, rfl⟩
          · exact failed
    · exact failed
  · exact failed

theorem keepsRouter_unsubscribe [DecidableEq Token] (s : CarrierSystem Token)
    (bounds : CarrierBounds) (topic : List UInt8) (result : ZenohResult) :
    s.KeepsRouter (s.unsubscribe bounds topic result).2 := by
  have failed := s.keepsRouter_noteSubscriptionFailure
  unfold unsubscribe
  split
  · split
    · exact failed
    · split
      · exact failed
      · dsimp only
        split
        · exact ⟨rfl, rfl, rfl⟩
        · exact ⟨failed.connected, failed.lost, failed.counter⟩
  · exact failed

theorem keepsRouter_publish (s : CarrierSystem Token) (bounds : CarrierBounds)
    (message : Message) (result : ZenohResult) :
    s.KeepsRouter (s.publish bounds message result).2 := by
  have refused : s.KeepsRouter s.notePublishRefusedLocally :=
    ((KeepsRouter.refl s).count (by decide)).count (by decide)
  unfold publish
  split
  · split
    · have passed : s.KeepsRouter { s with session := s.session.publish message } := ⟨rfl, rfl, rfl⟩
      exact passed.trans (keepsRouter_notePublishOutcome _ result)
    · exact refused
  · exact refused

theorem keepsRouter_copyPendingFrame (s : CarrierSystem Token) (capacities : PollCapacities)
    (storage : CallerStorage) : s.KeepsRouter (s.copyPendingFrame capacities storage).2.1 := by
  have settled : s.KeepsRouter { s with
      carrier := { s.carrier with hasPendingFrame := false } } := ⟨rfl, rfl, rfl⟩
  have received := settled.count (show CarrierMetric.framesReceived ≠ _ by decide)
  unfold copyPendingFrame
  dsimp only
  split
  · exact received
  · exact .refl s

theorem keepsRouter_pollSlots {capacities : PollCapacities} {storage : CallerStorage}
    {answers : Fin maximumSubscriptions → Except ZenohResult Message} (turns : Nat)
    (s : CarrierSystem Token) :
    s.KeepsRouter (pollSlots capacities answers storage turns s).2.1 := by
  induction turns generalizing s with
  | zero => exact .refl s
  | succ turns ih =>
      have advanced : s.KeepsRouter s.advanceCursor := ⟨rfl, rfl, rfl⟩
      simp only [pollSlots]
      split
      · rename_i handle active holds
        cases answers s.advanceCursor.carrier.pollCursor with
        | ok message =>
            have stored : s.advanceCursor.KeepsRouter (s.advanceCursor.store handle message) :=
              ⟨rfl, rfl, rfl⟩
            exact advanced.trans (stored.trans (keepsRouter_copyPendingFrame _ capacities storage))
        | error failure =>
            have asked : s.advanceCursor.KeepsRouter { s.advanceCursor with
                session := s.advanceCursor.session.poll handle (.error failure) } :=
              ⟨rfl, rfl, rfl⟩
            have noted := advanced.trans (asked.trans (keepsRouter_notePollOutcome _ failure))
            cases failure with
            | queueEmpty | frameTooLarge => exact noted.trans (ih _)
            | _ => exact noted
      · exact advanced.trans (ih _)

theorem keepsRouter_pollOneEventOutcome (s : CarrierSystem Token) (bounds : CarrierBounds)
    (capacities : PollCapacities) (storage : CallerStorage) (reading : BitVec 64)
    (answers : Fin maximumSubscriptions → Except ZenohResult Message) :
    s.KeepsRouter (s.pollOneEventOutcome bounds capacities storage reading answers).2.1 := by
  have served := s.keepsRouter_copyPendingFrame capacities storage
  have kept : s.KeepsRouter (s.keepSessionAlive reading) := by
    unfold keepSessionAlive
    dsimp only
    split
    · exact ⟨rfl, rfl, rfl⟩
    · exact .refl s
  unfold pollOneEventOutcome
  split
  · split
    · rfl
    · split
      · split
        · exact served
        · split
          · exact kept.trans (keepsRouter_pollSlots ..)
          · rfl
      · rfl
  · rfl

/-- A `disconnect` counts no reconnect. -/
theorem counter_disconnect [DecidableEq Token] (s : CarrierSystem Token)
    (unsubscribed : Fin maximumSubscriptions → ZenohResult) (closed : ZenohResult) :
    (s.disconnect unsubscribed closed).2.reconnectsObserved = s.reconnectsObserved := by
  have released : s.KeepsRouter
      ((List.finRange maximumSubscriptions).foldl (releaseSlot unsubscribed) s) := by
    refine List.foldlRecOn (motive := fun t => s.KeepsRouter t) _ _ (.refl s)
      fun t kept index _ => kept.trans ?_
    unfold releaseSlot
    split
    · rename_i handle _ _
      dsimp only
      split
      · exact ⟨rfl, rfl, rfl⟩
      · have asked : t.KeepsRouter { t with
            session := t.session.unsubscribe handle (unsubscribed index) } := ⟨rfl, rfl, rfl⟩
        exact asked.trans (keepsRouter_noteSubscriptionFailure _)
    · rfl
  unfold disconnect
  split
  · refine Eq.trans ?_ released.counter
    exact CarrierDiagnostics.counters_add_of_ne _ (by split <;> decide)
  · rfl

/-! ## What the flags say about the observations -/

/-- The session is open. -/
def Open (s : CarrierSystem Token) : Prop :=
  s.carrier.phase = .connected ∨ s.carrier.phase = .subscribed

/-- The counter and the two flags say this much about the observations. -/
structure Follows (observations : Observations) (s : CarrierSystem Token) : Prop where
  counter : s.reconnectsObserved.toNat =
    min (observations.base.toNat + reconnects observations.counts) (2 ^ 32 - 1)
  connected : s.carrier.connectedRouterObserved = true ↔ s.Open ∧ LastPositive observations.counts
  lost : s.carrier.routerLossObserved = true ↔
    s.Open ∧ LossBefore observations.counts observations.counts.length

variable {observations : Observations}

theorem Follows.initial : (initial : CarrierSystem Token).Follows ⟨0, []⟩ where
  counter := rfl
  connected := by simp [CarrierSystem.initial, ZenohCarrier.initial, Open]
  lost := by simp [CarrierSystem.initial, ZenohCarrier.initial, Open]

theorem Follows.keepsRouter (follows : s.Follows observations) (keeps : s.KeepsRouter t)
    (same : t.Open ↔ s.Open) : t.Follows observations where
  counter := keeps.counter ▸ follows.counter
  connected := by rw [keeps.connected, same, follows.connected]
  lost := by rw [keeps.lost, same, follows.lost]

/-- One router count is one more observation. -/
theorem Follows.observeRouters (follows : s.Follows observations) (opened : s.Open)
    (answer : Except ZenohResult Nat) :
    (s.observeRouters answer).2.Follows
      ⟨observations.base, observations.counts ++ counted answer⟩ := by
  obtain ⟨counter, connected, lost⟩ := follows
  cases answer with
  | error result =>
      rw [show counted (.error result) = [] from rfl, List.append_nil]
      exact ⟨counter, connected, lost⟩
  | ok routers =>
      rw [show counted (.ok routers) = [routers] from rfl]
      by_cases none : routers = 0
      · subst none
        refine ⟨?_, ?_, ?_⟩
        · rw [reconnects_snoc, if_neg (by simp), Nat.add_zero]
          exact counter
        · rw [lastPositive_snoc]
          simp [CarrierSystem.observeRouters]
        · rw [List.length_append, List.length_singleton, lossBefore_snoc_length]
          simp only [CarrierSystem.observeRouters, if_true, Bool.or_eq_true, connected, lost,
            true_and]
          change _ ↔ s.Open ∧ _
          rw [← and_or_left, or_comm]
      · have positive : 0 < routers := Nat.pos_of_ne_zero none
        have nowConnected : (s.observeRouters (.ok routers)).2.carrier.connectedRouterObserved = true := by
          simp only [CarrierSystem.observeRouters, none, if_false]
        have stillOpen : (s.observeRouters (.ok routers)).2.Open ↔ s.Open := by
          have same := (s.keeps_observeRouters (.ok routers)).phase
          rw [Open, same, Open]
        refine ⟨?_, ?_, ?_⟩
        · rw [reconnects_snoc]
          simp only [CarrierSystem.observeRouters, none, if_false]
          by_cases loss : s.carrier.routerLossObserved = true
          · rw [if_pos loss, if_pos ⟨positive, (lost.mp loss).2⟩]
            change (CarrierDiagnostics.counters (s.diagnostics.add .reconnectsObserved) _).toNat = _
            rw [s.diagnostics.counters_add_self, toNat_saturatingAdd_one]
            change min (s.reconnectsObserved.toNat + 1) _ = _
            omega
          · rw [if_neg loss, if_neg fun after => loss (lost.mpr ⟨opened, after.2⟩)]
            exact counter
        · rw [lastPositive_snoc]
          exact iff_of_true nowConnected ⟨stillOpen.mpr opened, positive⟩
        · rw [List.length_append, List.length_singleton, lossBefore_snoc_length]
          refine iff_of_false ?_ fun after => none after.2.1
          simp only [CarrierSystem.observeRouters, none, if_false]
          split
          · exact Bool.false_ne_true
          · assumption

/-! ## A wait -/

/-- A positive count is what a wait returns true for. -/
theorem observeRouters_returned (s : CarrierSystem Token) (answer : Except ZenohResult Nat) :
    (s.observeRouters answer).1 =
      if settles answer then some (hasRouter answer) else none := by
  cases answer with
  | error result =>
      by_cases closed : result = .notOpen <;> simp [observeRouters, settles, hasRouter, closed]
  | ok routers =>
      by_cases none : routers = 0
      · simp [observeRouters, settles, none]
      · simp [observeRouters, settles, hasRouter, none, Nat.pos_of_ne_zero none]

/-- The loop returned at a round in time, the first one that settles it, and found a
router there. -/
def ReturnedAt (endMS : BitVec 64) (rounds : List RouterRound) (round : RouterRound) : Prop :=
  ∃ before after, rounds = before ++ round :: after ∧
    (∀ earlier ∈ before, earlier.InTime endMS ∧ settles earlier.answer = false) ∧
    round.InTime endMS ∧ ∃ n, round.answer = .ok n ∧ 0 < n

theorem lastPositive_counted {answer : Except ZenohResult Nat} {n : Nat}
    (found : answer = .ok n) (positive : 0 < n) : LastPositive (counted answer) := by
  subst found
  exact positive

theorem Follows.waitRounds {endMS : BitVec 64} {rounds : List RouterRound} {value : Bool}
    (follows : s.Follows observations) (opened : s.Open)
    (returned : waitRounds endMS rounds s = some (value, t)) :
    t.Follows ⟨observations.base, observations.counts ++ roundCounts endMS rounds⟩ ∧
      (value = true → LastPositive (roundCounts endMS rounds) ∧
        ∃ round, ReturnedAt endMS rounds round) := by
  induction rounds generalizing s observations with
  | nil => cases returned
  | cons round rounds ih =>
      have followed := follows.observeRouters opened round.answer
      have value' := s.observeRouters_returned round.answer
      have phase := (s.keeps_observeRouters round.answer).phase
      simp only [CarrierSystem.waitRounds] at returned
      by_cases inTime : round.InTime endMS
      · rw [if_pos (show _ ∧ _ from inTime)] at returned
        rw [roundCounts, if_pos inTime]
        generalize s.observeRouters round.answer = observed at followed value' phase returned
        obtain ⟨result, u⟩ := observed
        dsimp only at followed value' phase returned
        cases settled : settles round.answer with
        | true =>
            rw [settled, if_pos rfl] at value'
            subst value'
            cases returned
            rw [if_pos rfl, List.append_nil]
            refine ⟨followed, fun found => ?_⟩
            obtain ⟨n, answer, positive⟩ := hasRouter_eq_true.mp found
            exact ⟨lastPositive_counted answer positive, round, [], rounds, rfl,
              fun _ none => absurd none List.not_mem_nil, inTime, n, answer, positive⟩
        | false =>
            rw [settled, if_neg Bool.false_ne_true] at value'
            subst value'
            have stillOpen : u.Open := by rwa [Open, phase]
            obtain ⟨after, value⟩ := ih followed stillOpen returned
            rw [if_neg Bool.false_ne_true, ← List.append_assoc]
            refine ⟨after, fun found => ?_⟩
            obtain ⟨last, at', before, later, rfl, earlier, here⟩ := value found
            refine ⟨last.append, at', round :: before, later, rfl, ?_, here⟩
            intro other member
            obtain rfl | member := List.mem_cons.mp member
            · exact ⟨inTime, settled⟩
            · exact earlier other member
      · rw [if_neg (show ¬ (_ ∧ _) from inTime)] at returned
        rw [roundCounts, if_neg inTime, List.append_nil]
        cases returned
        exact ⟨follows, fun found => by cases found⟩

/-- Where a wait that returned true found a router: at its first query, or in its loop. -/
def FoundRouter (deadlineMS : BitVec 32) (start : BitVec 64) (first : Except ZenohResult Nat)
    (rounds : List RouterRound) : Prop :=
  (∃ n, first = .ok n ∧ 0 < n) ∨
    settles first = false ∧ ∃ round, ReturnedAt (waitEnd deadlineMS start) rounds round

theorem Follows.waitForReconnect {deadlineMS : BitVec 32} {start : BitVec 64}
    {first : Except ZenohResult Nat} {rounds : List RouterRound} {value : Bool}
    (follows : s.Follows observations) (subscribed : s.carrier.phase = .subscribed)
    (returned : s.waitForReconnect deadlineMS start first rounds = some (value, t)) :
    t.Follows ⟨observations.base, observations.counts ++ waitCounts deadlineMS start first rounds⟩ ∧
      (value = true → LastPositive (waitCounts deadlineMS start first rounds) ∧
        FoundRouter deadlineMS start first rounds) := by
  have followed := follows.observeRouters (.inr subscribed) first
  have value' := s.observeRouters_returned first
  have phase := (s.keeps_observeRouters first).phase
  rw [CarrierSystem.waitForReconnect, if_pos subscribed] at returned
  rw [waitCounts]
  generalize s.observeRouters first = observed at followed value' phase returned
  obtain ⟨result, u⟩ := observed
  dsimp only at followed value' phase
  cases settled : settles first with
  | true =>
      rw [settled, if_pos rfl] at value'
      subst value'
      cases returned
      rw [if_pos rfl, List.append_nil]
      refine ⟨followed, fun found => ?_⟩
      obtain ⟨n, answer, positive⟩ := hasRouter_eq_true.mp found
      exact ⟨lastPositive_counted answer positive, .inl ⟨n, answer, positive⟩⟩
  | false =>
      rw [settled, if_neg Bool.false_ne_true] at value'
      subst value'
      obtain ⟨after, value⟩ := followed.waitRounds (.inr (phase.trans subscribed)) returned
      rw [if_neg Bool.false_ne_true, ← List.append_assoc]
      exact ⟨after, fun found => ⟨(value found).1.append, .inr ⟨settled, (value found).2⟩⟩⟩

/-! ## Runs -/

theorem reconnects_counted (answer : Except ZenohResult Nat) : reconnects (counted answer) = 0 := by
  cases answer with
  | error result => rfl
  | ok routers =>
      rw [show counted (.ok routers) = [] ++ [routers] from rfl, reconnects_snoc,
        if_neg fun after => not_lossBefore_nil after.2]
      rfl

theorem not_lossBefore_counted (answer : Except ZenohResult Nat) :
    ¬ LossBefore (counted answer) (counted answer).length := by
  cases answer with
  | error result => exact not_lossBefore_nil
  | ok routers =>
      intro loss
      rw [show counted (.ok routers) = [] ++ [routers] from rfl, List.length_append,
        List.length_singleton, lossBefore_snoc_length] at loss
      exact loss.2.elim not_lossBefore_nil not_lastPositive_nil

/-- A `connect` that opens the session begins its observations. -/
theorem Follows.connect (follows : s.Follows observations) (endpointLength : Int)
    (opened : ZenohResult) (routers : Except ZenohResult Nat) :
    let t := returning (s.connect endpointLength opened routers)
    t.Follows (observe observations (.connect endpointLength opened routers) t) := by
  have noted := s.keepsRouter_noteSessionOpen opened
  have same := (s.keeps_noteSessionOpen opened).phase
  simp only [CarrierSystem.connect]
  split
  · rename_i closed
    have notOpen : ¬ s.Open := by
      rintro (is | is) <;> rw [is] at closed <;> simp at closed
    split
    · split
      · have lost : (s.noteSessionOpen opened).carrier.routerLossObserved ≠ true := by
          rw [noted.lost]
          exact fun loss => notOpen (follows.lost.mp loss).1
        simp only [observe, returning, if_true]
        refine ⟨?_, ?_, ?_⟩
        · rw [reconnects_counted, Nat.add_zero]
          exact (Nat.min_eq_left (Nat.le_pred_of_lt (BitVec.isLt _))).symm
        · simp only [publishSubscriptionGauge, Open, true_or, true_and]
          cases routers with
          | error result => exact iff_of_false Bool.false_ne_true not_lastPositive_nil
          | ok count => exact decide_eq_true_iff
        · exact iff_of_false lost fun loss => not_lossBefore_counted routers loss.2
      · refine follows.keepsRouter ⟨noted.connected, noted.lost, noted.counter⟩ ?_
        simp only [returning, Open, same]
    · exact follows.keepsRouter ⟨rfl, rfl, rfl⟩ Iff.rfl
  · exact follows.keepsRouter ⟨rfl, rfl, rfl⟩ Iff.rfl

variable [DecidableEq Token] {bounds : CarrierBounds}

theorem Follows.next {call : CarrierCall Token} (follows : s.Follows observations)
    (called : s.next bounds call = some t) : t.Follows (observe observations call t) := by
  cases call with
  | connect endpointLength opened routers =>
      cases called
      exact follows.connect endpointLength opened routers
  | subscribe topic answer =>
      cases called
      have keeps := s.keepsRouter_subscribe bounds topic answer
      refine follows.keepsRouter ⟨keeps.connected, keeps.lost, keeps.counter⟩ ?_
      rcases s.subscribe_cases bounds topic answer with
        ⟨t, eq, keeps⟩ | ⟨eq, _⟩ | ⟨handle, t, _, eq, before, -, -, -, free, -, rfl⟩ <;> rw [eq]
      · simp only [returning, Open, keeps.phase]
      · exact Iff.rfl
      · exact iff_of_true (.inr rfl) before
  | unsubscribe topic result =>
      cases called
      have keeps := s.keepsRouter_unsubscribe bounds topic result
      refine follows.keepsRouter ⟨keeps.connected, keeps.lost, keeps.counter⟩ ?_
      rcases s.unsubscribe_cases bounds topic result with
        ⟨t, eq, keeps⟩ | ⟨t, eq, before, index, handle, -, -, rfl⟩ <;> rw [eq]
      · simp only [returning, Open, keeps.phase]
      · exact iff_of_true (.inr before) (.inr before)
  | publish message result =>
      cases called
      have keeps := s.keepsRouter_publish bounds message result
      refine follows.keepsRouter ⟨keeps.connected, keeps.lost, keeps.counter⟩ ?_
      simp only [returning, Open, (s.publish_keeps bounds message result).phase]
  | pollOneEvent capacities storage reading answers =>
      cases called
      have keeps := s.keepsRouter_pollOneEventOutcome bounds capacities storage reading answers
      refine follows.keepsRouter ⟨keeps.connected, keeps.lost, keeps.counter⟩ ?_
      simp only [Open, (s.polls bounds capacities storage reading answers).keepsSlots.phase]
  | waitForReconnect deadlineMS start first rounds =>
      obtain ⟨⟨value, t⟩, returned, rfl⟩ := Option.map_eq_some_iff.mp called
      have phase := (keeps_waitForReconnect returned).phase
      by_cases subscribed : s.carrier.phase = .subscribed
      · have after := (follows.waitForReconnect subscribed returned).1
        rw [observe, if_pos (show (returning (value, t)).carrier.phase = _ from phase.trans subscribed)]
        exact after.keepsRouter ⟨rfl, rfl, rfl⟩ Iff.rfl
      · rw [observe, if_neg (show (returning (value, t)).carrier.phase ≠ _ from phase ▸ subscribed)]
        rw [CarrierSystem.waitForReconnect, if_neg subscribed] at returned
        cases returned
        exact follows.keepsRouter ⟨rfl, rfl, rfl⟩ Iff.rfl
  | disconnect unsubscribed closed =>
      cases called
      have counter := s.counter_disconnect unsubscribed closed
      by_cases opened : s.Open
      · rw [Open] at opened
        rw [CarrierSystem.disconnect, if_pos opened] at counter ⊢
        refine ⟨counter ▸ follows.counter, ?_, ?_⟩
        · exact iff_of_false Bool.false_ne_true fun after => by
            rcases after.1 with phase | phase <;> cases phase
        · exact iff_of_false Bool.false_ne_true fun after => by
            rcases after.1 with phase | phase <;> cases phase
      · rw [Open] at opened
        rw [CarrierSystem.disconnect, if_neg opened]
        exact follows.keepsRouter ⟨rfl, rfl, rfl⟩ Iff.rfl

theorem Follows.of_run {calls : List (CarrierCall Token)} {start last : CarrierSystem Token × Observations}
    (run : Run (recorded (CarrierSystem.next bounds) observe) unguarded start calls last)
    (follows : start.1.Follows start.2) : last.1.Follows last.2 := by
  induction run with
  | nil => exact follows
  | snoc _ _ taken ih =>
      obtain ⟨called, recorded⟩ := recorded_eq_some taken
      rw [recorded]
      exact ih.next called

/-- After every run the counter has grown by the losses that ended, up to its largest
value. A wait returns true in the subscribed phase only, the last count it processed is
positive, and it found that router at its first query or at a query of its loop that
ended before the deadline. -/
theorem reconnects_observed {calls : List (CarrierCall Token)} {observations : Observations}
    (run : Run (recorded (CarrierSystem.next bounds) observe) unguarded (.initial, ⟨0, []⟩) calls
      (s, observations)) :
    s.reconnectsObserved.toNat =
        min (observations.base.toNat + reconnects observations.counts) (2 ^ 32 - 1) ∧
      ∀ deadlineMS start first rounds t,
        s.next bounds (.waitForReconnect deadlineMS start first rounds) = some t →
          t.reply = some (.done true) → s.carrier.phase = .subscribed ∧
            LastPositive (waitCounts deadlineMS start first rounds) ∧
              FoundRouter deadlineMS start first rounds := by
  have follows : s.Follows observations := Follows.of_run run .initial
  refine ⟨follows.counter, fun deadlineMS start first rounds t called replied => ?_⟩
  obtain ⟨⟨value, u⟩, returned, rfl⟩ := Option.map_eq_some_iff.mp called
  obtain rfl : value = true := by simpa [returning] using replied
  by_cases subscribed : s.carrier.phase = .subscribed
  · exact ⟨subscribed, (follows.waitForReconnect subscribed returned).2 rfl⟩
  · rw [CarrierSystem.waitForReconnect, if_neg subscribed] at returned
    cases returned

/-- A wait that loses the router at its first query and finds it at the next. -/
def recoveringWait : CarrierCall Nat := .waitForReconnect 10 0 (.ok 0) [⟨0, .ok 1, 0⟩]

def subscribedCalls : List (CarrierCall Nat) :=
  [.connect 5 .ok (.ok 1), .subscribe [0x61] (.ok 3)]

theorem reconnects_observed_once : ∃ (s : CarrierSystem Nat) (observations : Observations),
    observations.counts = [1, 0, 1] ∧
      s.reconnectsObserved.toNat = min (0 + reconnects [1, 0, 1]) (2 ^ 32 - 1) := by
  obtain ⟨⟨s, observations⟩, run, seen⟩ := exists_run_of_exec
    (show (exec (recorded (CarrierSystem.next smokeBounds) observe) unguarded
      (.initial, ⟨0, []⟩) (subscribedCalls ++ [recoveringWait])).map
        (fun p => decide (p.2.base = 0 ∧ p.2.counts = [1, 0, 1])) = some true by decide)
  obtain ⟨base, counts⟩ := of_decide_eq_true seen
  have counted := (reconnects_observed run).1
  dsimp only at base counts
  rw [base, counts] at counted
  exact ⟨s, observations, counts, counted⟩

/-- Any number of recoveries follows. -/
theorem exists_run_recovering (n : Nat) : ∃ (s : CarrierSystem Nat) (observations : Observations),
    Run (recorded (CarrierSystem.next smokeBounds) observe) unguarded (.initial, ⟨0, []⟩)
        (subscribedCalls ++ List.replicate n recoveringWait) (s, observations) ∧
      s.carrier.phase = .subscribed ∧ LastPositive observations.counts ∧
        reconnects observations.counts = n := by
  induction n with
  | zero =>
      obtain ⟨⟨s, observations⟩, run, seen⟩ := exists_run_of_exec
        (show (exec (recorded (CarrierSystem.next smokeBounds) observe) unguarded
          (.initial, ⟨0, []⟩) subscribedCalls).map
            (fun p => decide (p.1.carrier.phase = .subscribed ∧ p.2.counts = [1])) = some true by
              decide)
      obtain ⟨subscribed, counts⟩ := of_decide_eq_true seen
      refine ⟨s, observations, by simpa using run, subscribed, ?_⟩
      rw [show observations.counts = [1] from counts]
      exact ⟨Nat.one_pos, rfl⟩
  | succ n ih =>
      obtain ⟨s, observations, run, subscribed, positive, counted⟩ := ih
      obtain ⟨t, returned⟩ : ∃ t, s.waitForReconnect 10 0 (.ok 0) [⟨0, .ok 1, 0⟩] = some (true, t) := by
        rw [CarrierSystem.waitForReconnect, if_pos subscribed]
        exact ⟨_, rfl⟩
      have phase : (returning (true, t)).carrier.phase = .subscribed :=
        (keeps_waitForReconnect returned).phase.trans subscribed
      have called : s.next smokeBounds recoveringWait = some (returning (true, t)) := by
        simp only [recoveringWait, CarrierSystem.next, returned, Option.map_some]
      have processed : waitCounts 10 0 (.ok 0) [⟨0, .ok 1, 0⟩] = [0, 1] := by decide
      refine ⟨returning (true, t), ⟨observations.base, observations.counts ++ [0] ++ [1]⟩, ?_, phase,
        lastPositive_snoc.mpr Nat.one_pos, ?_⟩
      · rw [List.replicate_succ', ← List.append_assoc]
        refine run.snoc trivial ?_
        rw [recorded, called, Option.map_some, recoveringWait, observe, if_pos phase, processed,
          List.append_assoc]
        rfl
      · have loss : LossBefore (observations.counts ++ [0]) (observations.counts ++ [0]).length := by
          rw [List.length_append, List.length_singleton, lossBefore_snoc_length]
          exact ⟨rfl, .inr positive⟩
        rw [reconnects_snoc, if_pos ⟨Nat.one_pos, loss⟩, reconnects_snoc,
          if_neg fun after => Nat.lt_irrefl 0 after.1, counted]

/-- After 2^32 recoveries the counter is at its largest value, one less. -/
theorem reconnects_saturated : ∃ (calls : List (CarrierCall Nat)) (s : CarrierSystem Nat)
    (observations : Observations),
    Run (recorded (CarrierSystem.next smokeBounds) observe) unguarded (.initial, ⟨0, []⟩) calls
        (s, observations) ∧
      reconnects observations.counts = 2 ^ 32 ∧
        s.reconnectsObserved.toNat ≠ observations.base.toNat + reconnects observations.counts := by
  obtain ⟨s, observations, run, -, -, counted⟩ := exists_run_recovering (2 ^ 32)
  refine ⟨_, s, observations, run, counted, ?_⟩
  have bound := s.reconnectsObserved.isLt
  omega

end CarrierSystem
end AxolotyEmbedded.Zenoh
