import AxolotyEmbedded.Library.RetryLoop
import AxolotyEmbedded.Library.Transition
import AxolotyEmbedded.Zenoh.Diagnostics

/-!
The counters under any number of callers of `carrier_diagnostics_add` and
`carrier_diagnostics_set_active_subscriptions`. Each atomic load, store and weak
compare-exchange is one step; no reset runs beside them.
-/
namespace AxolotyEmbedded.Zenoh
open Transition

/-- The words of `carrier_diagnostics_state`. -/
inductive DiagnosticsField where
  | counter (metric : CarrierMetric)
  | activeSubscriptions
  | activeSubscriptionsPeak
  deriving DecidableEq

/-- The metrics in the order of their codes. -/
def carrierMetrics : List CarrierMetric :=
  [.publishAttempts, .publishFailures, .framesReceived, .framesDropped, .framesOversized,
    .pollErrors, .sessionOpens, .sessionCloses, .sessionFailures, .reconnectsObserved]

/-- The metric that a known code selects. -/
def metricOfCode (code : Int) : Option CarrierMetric :=
  if 0 ≤ code then carrierMetrics[code.toNat]? else none

/-- The two retry loops: `saturating_add`, and the raising of the high-water mark. -/
inductive DiagnosticsUpdate where
  | add (metric : CarrierMetric) (amount : BitVec 32)
  | raisePeak (active : BitVec 32)
  deriving DecidableEq

def diagnosticsUpdates : RetryUpdates DiagnosticsField (BitVec 32) DiagnosticsUpdate where
  register
    | .add metric _ => .counter metric
    | .raisePeak _ => .activeSubscriptionsPeak
  next
    | .add _ amount, current => some (saturatingAdd current amount)
    | .raisePeak active, peak => if peak < active then some active else none

theorem apply_add (word : BitVec 32) (metric : CarrierMetric) (amount : BitVec 32) :
    diagnosticsUpdates.apply word (.add metric amount) = saturatingAdd word amount := by
  have stores : diagnosticsUpdates.next (.add metric amount) word =
      some (saturatingAdd word amount) := rfl
  rw [RetryUpdates.apply, stores, Option.getD_some]

/-- Where a caller is: before the store of the gauge, or in one of the loops. -/
inductive DiagnosticsPhase where
  | storeActive (active : BitVec 32)
  | retrying (loop : RetryLoop (BitVec 32) DiagnosticsUpdate)

def DiagnosticsPhase.idle : DiagnosticsPhase := .retrying .idle

def DiagnosticsPhase.isIdle : DiagnosticsPhase → Bool
  | .retrying .idle => true
  | _ => false

/-- `returned` is what the last finished `carrier_diagnostics_add` of a thread returned. -/
structure DiagnosticsSystem (Thread : Type) where
  fields : DiagnosticsField → BitVec 32
  threads : Thread → DiagnosticsPhase
  returned : Thread → Option Bool

inductive DiagnosticsLabel (Thread : Type) where
  /-- `thread` calls `carrier_diagnostics_add`. -/
  | add (thread : Thread) (code : Int) (delta : BitVec 32)
  /-- `thread` calls `carrier_diagnostics_set_active_subscriptions`. -/
  | setActiveSubscriptions (thread : Thread) (active : BitVec 32)
  /-- The next atomic operation of `thread`. A spurious exchange fails. -/
  | operate (thread : Thread) (spurious : Bool)

namespace DiagnosticsSystem
variable {Thread : Type} [DecidableEq Thread] (s : DiagnosticsSystem Thread)

def setThread (thread : Thread) (phase : DiagnosticsPhase) : DiagnosticsSystem Thread :=
  { s with threads := Function.update s.threads thread phase }

def setReturned (thread : Thread) (value : Bool) : DiagnosticsSystem Thread :=
  { s with returned := Function.update s.returned thread (some value) }

def next : DiagnosticsLabel Thread → Option (DiagnosticsSystem Thread)
  | .add thread code delta =>
      if (s.threads thread).isIdle then
        match metricOfCode code with
        | none => some (s.setReturned thread false)
        | some metric =>
            if delta = 0 then some (s.setReturned thread true)
            else some (s.setThread thread (.retrying (.load (.add metric delta))))
      else none
  | .setActiveSubscriptions thread active =>
      if (s.threads thread).isIdle then some (s.setThread thread (.storeActive active)) else none
  | .operate thread spurious =>
      match s.threads thread with
      | .storeActive active =>
          some ({ s with fields := Function.update s.fields .activeSubscriptions active }.setThread
            thread (.retrying (.load (.raisePeak active))))
      | .retrying loop =>
          (diagnosticsUpdates.step s.fields spurious loop).map fun (loop, fields, made) =>
            { fields
              threads := Function.update s.threads thread (.retrying loop)
              returned := match made with
                | .add _ _ :: _ => Function.update s.returned thread (some true)
                | _ => s.returned }

/-- No call is under way. -/
def Quiet : Prop := ∀ thread, (s.threads thread).isIdle = true

end DiagnosticsSystem

/-! ## What the calls of a run ask for -/

section Totals
variable {Thread : Type}

/-- The update that a call begins. -/
def DiagnosticsLabel.update : DiagnosticsLabel Thread → Option DiagnosticsUpdate
  | .add _ code delta =>
      (metricOfCode code).bind fun metric => if delta = 0 then none else some (.add metric delta)
  | .setActiveSubscriptions _ active => some (.raisePeak active)
  | .operate .. => none

/-- The sum of the deltas that the calls of a run add to one counter. -/
def addedTo (metric : CarrierMetric) (labels : List (DiagnosticsLabel Thread)) : Nat :=
  (labels.map fun label => match label with
    | .add _ code delta => if metricOfCode code = some metric then delta.toNat else 0
    | _ => 0).sum

/-- The gauge values that the calls of a run set. -/
def gaugesSet (labels : List (DiagnosticsLabel Thread)) : List Nat :=
  labels.filterMap fun label => match label with
    | .setActiveSubscriptions _ active => some active.toNat
    | _ => none

end Totals

/-! ## The invariant -/

namespace DiagnosticsPhase

/-- The updates the caller has not made yet. -/
def pending : DiagnosticsPhase → Multiset DiagnosticsUpdate
  | .storeActive active => {.raisePeak active}
  | .retrying loop => loop.pending

def Sound : DiagnosticsPhase → Prop
  | .storeActive _ => True
  | .retrying loop => diagnosticsUpdates.Sound loop

theorem eq_idle {phase : DiagnosticsPhase} (idle : phase.isIdle = true) : phase = .idle := by
  cases phase with
  | storeActive active => cases idle
  | retrying loop =>
      cases loop with
      | idle => rfl
      | load | exchange => cases idle

end DiagnosticsPhase

namespace DiagnosticsSystem
variable {Thread : Type} {s t : DiagnosticsSystem Thread} {start : DiagnosticsField → BitVec 32}
  {labels : List (DiagnosticsLabel Thread)} {made : List DiagnosticsUpdate}

theorem sound_setThread [DecidableEq Thread] {thread : Thread} {phase : DiagnosticsPhase}
    (sound : ∀ thread, (s.threads thread).Sound) (new : phase.Sound) (other : Thread) :
    ((s.setThread thread phase).threads other).Sound := by
  by_cases same : other = thread
  · subst same
    simpa only [setThread, Function.update_self] using new
  · simpa only [setThread, Function.update_of_ne same] using sound other

variable [Fintype Thread]

/-- Every update that a call began is pending or was made, and each word is what the
updates made, in their order, make of its first value. -/
structure Follows (start : DiagnosticsField → BitVec 32) (labels : List (DiagnosticsLabel Thread))
    (made : List DiagnosticsUpdate) (s : DiagnosticsSystem Thread) : Prop where
  sound : ∀ thread, (s.threads thread).Sound
  fields : ∀ field, field ≠ .activeSubscriptions →
    s.fields field = diagnosticsUpdates.after field (start field) made
  begun : (labels.filterMap DiagnosticsLabel.update : Multiset DiagnosticsUpdate) =
    made + ∑ thread, (s.threads thread).pending

/-- A quiet system has nothing pending. -/
theorem Quiet.pending (quiet : s.Quiet) : ∑ thread, (s.threads thread).pending = 0 := by
  refine Finset.sum_eq_zero fun thread _ => ?_
  rw [DiagnosticsPhase.eq_idle (quiet thread)]
  rfl

theorem Quiet.follows (quiet : s.Quiet) : s.Follows s.fields [] [] where
  sound thread := by
    rw [DiagnosticsPhase.eq_idle (quiet thread)]
    trivial
  fields _ _ := rfl
  begun := by
    rw [quiet.pending]
    rfl

/-- A call that begins no update. -/
theorem Follows.answered {label : DiagnosticsLabel Thread} (follows : s.Follows start labels made)
    (none : label.update = .none) (threads : t.threads = s.threads) (fields : t.fields = s.fields) :
    t.Follows start (labels ++ [label]) made where
  sound := by
    rw [threads]
    exact follows.sound
  fields := by
    rw [fields]
    exact follows.fields
  begun := by
    rw [List.filterMap_append, List.filterMap_cons_none none, List.filterMap_nil, List.append_nil,
      threads]
    exact follows.begun

variable [DecidableEq Thread]

/-- A call of an idle thread that begins one update. -/
theorem Follows.begins {label : DiagnosticsLabel Thread} {thread : Thread}
    {phase : DiagnosticsPhase} {update : DiagnosticsUpdate} (follows : s.Follows start labels made)
    (idle : (s.threads thread).isIdle = true) (begins : label.update = some update)
    (sound : phase.Sound) (pending : phase.pending = {update}) :
    (s.setThread thread phase).Follows start (labels ++ [label]) made where
  sound := sound_setThread follows.sound sound
  fields := follows.fields
  begun := by
    have total := RetryUpdates.sum_update_add DiagnosticsPhase.pending s.threads thread phase
    rw [DiagnosticsPhase.eq_idle idle, pending,
      show DiagnosticsPhase.idle.pending = 0 from rfl, add_zero] at total
    rw [List.filterMap_append, List.filterMap_cons_some begins, List.filterMap_nil,
      ← Multiset.coe_add, follows.begun, add_assoc]
    exact congrArg _ total.symm

/-- An operation of one thread. -/
theorem Follows.operated {label : DiagnosticsLabel Thread} {thread : Thread}
    {phase : DiagnosticsPhase} {more : List DiagnosticsUpdate} (follows : s.Follows start labels made)
    (none : label.update = .none) (threads : t.threads = Function.update s.threads thread phase)
    (sound : phase.Sound) (split : (s.threads thread).pending = more + phase.pending)
    (fields : ∀ field, field ≠ .activeSubscriptions →
      t.fields field = diagnosticsUpdates.after field (s.fields field) more) :
    t.Follows start (labels ++ [label]) (made ++ more) where
  sound := by
    rw [threads]
    exact sound_setThread follows.sound sound
  fields field other := by
    rw [fields field other, follows.fields field other, RetryUpdates.after_append]
  begun := by
    have total := RetryUpdates.sum_update_add DiagnosticsPhase.pending s.threads thread phase
    rw [split, ← add_assoc] at total
    rw [List.filterMap_append, List.filterMap_cons_none none, List.filterMap_nil, List.append_nil,
      threads, follows.begun, ← Multiset.coe_add, add_assoc, ← add_right_cancel total]
    exact congrArg _ (add_comm _ _)

theorem Follows.next {label : DiagnosticsLabel Thread} (follows : s.Follows start labels made)
    (taken : s.next label = some t) :
    ∃ more, t.Follows start (labels ++ [label]) (made ++ more) := by
  cases label with
  | add thread code delta =>
      refine ⟨[], ?_⟩
      rw [List.append_nil]
      simp only [DiagnosticsSystem.next] at taken
      split at taken
      · rename_i idle
        cases known : metricOfCode code with
        | none =>
            rw [known] at taken
            cases taken
            exact follows.answered (by rw [DiagnosticsLabel.update, known]; rfl) rfl rfl
        | some metric =>
            rw [known] at taken
            dsimp only at taken
            split at taken
            · rename_i zero
              cases taken
              refine follows.answered ?_ rfl rfl
              rw [DiagnosticsLabel.update, known, Option.bind_some, if_pos zero]
            · rename_i positive
              cases taken
              have begins : (DiagnosticsLabel.add thread code delta).update =
                  some (.add metric delta) := ?_
              · exact follows.begins idle begins trivial rfl
              rw [DiagnosticsLabel.update, known, Option.bind_some, if_neg positive]
      · cases taken
  | setActiveSubscriptions thread active =>
      refine ⟨[], ?_⟩
      rw [List.append_nil]
      simp only [DiagnosticsSystem.next] at taken
      split at taken
      · rename_i idle
        cases taken
        exact follows.begins idle rfl trivial rfl
      · cases taken
  | operate thread spurious =>
      have sound := follows.sound thread
      simp only [DiagnosticsSystem.next] at taken
      cases at' : s.threads thread with
      | storeActive active =>
          rw [at'] at taken
          cases taken
          refine ⟨[], follows.operated rfl rfl
            (show DiagnosticsPhase.Sound (.retrying (.load (.raisePeak active))) from trivial) ?_ ?_⟩
          · rw [at']
            rfl
          · intro field other
            exact Function.update_of_ne other ..
      | retrying loop =>
          rw [at'] at taken sound
          obtain ⟨⟨loop', fields, more⟩, stepped, rfl⟩ := Option.map_eq_some_iff.mp taken
          obtain ⟨memory, sound', pending⟩ := RetryUpdates.stepped sound stepped
          refine ⟨more, follows.operated rfl rfl (show DiagnosticsPhase.Sound (.retrying loop') from sound')
            ?_ fun field _ => memory field⟩
          rw [at']
          exact pending

theorem Follows.run {rest : List (DiagnosticsLabel Thread)} (follows : s.Follows start labels made)
    (run : Run DiagnosticsSystem.next unguarded s rest t) :
    ∃ more, t.Follows start (labels ++ rest) (made ++ more) := by
  induction run with
  | nil => exact ⟨[], by simpa using follows⟩
  | snoc _ _ taken ih =>
      obtain ⟨more, follows⟩ := ih
      obtain ⟨last, after⟩ := follows.next taken
      exact ⟨more ++ last, by simpa using after⟩

end DiagnosticsSystem

/-! ## What the updates come to -/

/-- What an update adds to one counter. -/
def DiagnosticsUpdate.amountTo (metric : CarrierMetric) : DiagnosticsUpdate → Nat
  | .add other amount => if other = metric then amount.toNat else 0
  | .raisePeak _ => 0

/-- The gauge value an update raises the mark to. -/
def DiagnosticsUpdate.height : DiagnosticsUpdate → Option Nat
  | .add _ _ => none
  | .raisePeak active => some active.toNat

section Totals
variable {Thread : Type} {made : List DiagnosticsUpdate} {word : BitVec 32}

/-- A counter after some updates depends on their sum only. -/
theorem toNat_after_counter (metric : CarrierMetric) :
    (diagnosticsUpdates.after (.counter metric) word made).toNat =
      min (word.toNat + (made.map (DiagnosticsUpdate.amountTo metric)).sum) (2 ^ 32 - 1) := by
  induction made generalizing word with
  | nil =>
      have bound := word.isLt
      rw [RetryUpdates.after_nil, List.map_nil, List.sum_nil]
      omega
  | cons update made ih =>
      rw [RetryUpdates.after_cons, ih, List.map_cons, List.sum_cons]
      cases update with
      | raisePeak active =>
          rw [RetryUpdates.after_singleton_of_ne (by simp [diagnosticsUpdates]),
            DiagnosticsUpdate.amountTo, Nat.zero_add]
      | add other amount =>
          by_cases same : other = metric
          · subst same
            have stored : diagnosticsUpdates.after (.counter other) word [.add other amount] =
                diagnosticsUpdates.apply word (.add other amount) :=
              RetryUpdates.after_singleton_self (DiagnosticsUpdate.add other amount)
            rw [stored, apply_add, toNat_saturatingAdd, DiagnosticsUpdate.amountTo, if_pos rfl]
            omega
          · rw [RetryUpdates.after_singleton_of_ne (by simpa [diagnosticsUpdates] using same),
              DiagnosticsUpdate.amountTo, if_neg same, Nat.zero_add]

theorem diagnosticsUpdates_grow (update : DiagnosticsUpdate) (current next : BitVec 32)
    (stores : diagnosticsUpdates.next update current = some next) :
    current.toNat ≤ next.toNat := by
  cases update with
  | add metric amount =>
      cases stores
      exact le_saturatingAdd current amount
  | raisePeak active =>
      simp only [diagnosticsUpdates] at stores
      split at stores
      · rename_i higher
        cases stores
        exact BitVec.le_of_lt higher
      · cases stores

theorem toNat_raisePeak (active : BitVec 32) :
    (diagnosticsUpdates.apply word (.raisePeak active)).toNat = max word.toNat active.toNat := by
  simp only [RetryUpdates.apply, diagnosticsUpdates]
  split
  · rename_i higher
    exact (Nat.max_eq_right (Nat.le_of_lt (BitVec.lt_def.mp higher))).symm
  · rename_i lower
    exact (Nat.max_eq_left (Nat.le_of_not_lt fun lt => lower (BitVec.lt_def.mpr lt))).symm

/-- The mark after some updates is the largest value it had or was raised to. -/
theorem toNat_after_peak :
    (diagnosticsUpdates.after .activeSubscriptionsPeak word made).toNat =
      (made.filterMap DiagnosticsUpdate.height).foldl max word.toNat := by
  induction made generalizing word with
  | nil => rfl
  | cons update made ih =>
      rw [RetryUpdates.after_cons, ih]
      cases update with
      | add metric amount =>
          rw [RetryUpdates.after_singleton_of_ne (by simp [diagnosticsUpdates])]
          rfl
      | raisePeak active =>
          have stored : diagnosticsUpdates.after .activeSubscriptionsPeak word [.raisePeak active] =
              diagnosticsUpdates.apply word (.raisePeak active) :=
            RetryUpdates.after_singleton_self (DiagnosticsUpdate.raisePeak active)
          rw [stored, toNat_raisePeak]
          rfl

theorem sum_amountTo (metric : CarrierMetric) (labels : List (DiagnosticsLabel Thread)) :
    ((labels.filterMap DiagnosticsLabel.update).map (DiagnosticsUpdate.amountTo metric)).sum =
      addedTo metric labels := by
  induction labels with
  | nil => rfl
  | cons label labels ih =>
      rw [addedTo, List.map_cons, List.sum_cons]
      rw [addedTo] at ih
      rw [← ih]
      cases label with
      | setActiveSubscriptions thread active => rfl
      | operate thread spurious => exact (Nat.zero_add _).symm
      | add thread code delta =>
          cases known : metricOfCode code with
          | none =>
              rw [List.filterMap_cons_none (by rw [DiagnosticsLabel.update, known]; rfl)]
              simp [known]
          | some other =>
              by_cases zero : delta = 0
              · rw [List.filterMap_cons_none (by
                  rw [DiagnosticsLabel.update, known, Option.bind_some, if_pos zero])]
                simp [zero]
              · rw [List.filterMap_cons_some (by
                  rw [DiagnosticsLabel.update, known, Option.bind_some, if_neg zero])]
                simp [known, DiagnosticsUpdate.amountTo]

theorem filterMap_height (labels : List (DiagnosticsLabel Thread)) :
    (labels.filterMap DiagnosticsLabel.update).filterMap DiagnosticsUpdate.height =
      gaugesSet labels := by
  rw [gaugesSet, List.filterMap_filterMap]
  refine congrArg (List.filterMap · labels) (funext fun label => ?_)
  cases label with
  | setActiveSubscriptions | operate => rfl
  | add thread code delta =>
      rw [DiagnosticsLabel.update]
      cases metricOfCode code with
      | none => rfl
      | some metric => by_cases zero : delta = 0 <;> simp [zero, DiagnosticsUpdate.height]

end Totals

/-! ## Every interleaving -/

namespace DiagnosticsSystem
variable {Thread : Type} [Fintype Thread] {s start : DiagnosticsSystem Thread}
  {labels : List (DiagnosticsLabel Thread)}

/-- Once no call is under way, the updates made are those that the calls began. -/
theorem Follows.perm {made : List DiagnosticsUpdate} {first : DiagnosticsField → BitVec 32}
    (follows : s.Follows first labels made) (quiet : s.Quiet) :
    made.Perm (labels.filterMap DiagnosticsLabel.update) := by
  have begun := follows.begun
  rw [quiet.pending, add_zero] at begun
  exact (Multiset.coe_eq_coe.mp begun).symm

variable [DecidableEq Thread]

/-- Any number of threads, each making any calls, interleaved in any way and with any
exchanges failing. Where no call is left under way, each counter holds what it held and
all the deltas added to it, up to its largest value, and the mark the largest of what it
held and of all gauge values set. No counter and no mark is ever below an earlier value. -/
theorem concurrent_totals (quiet : start.Quiet)
    (run : Run DiagnosticsSystem.next unguarded start labels s) :
    (s.Quiet →
      (∀ metric, (s.fields (.counter metric)).toNat =
        min ((start.fields (.counter metric)).toNat + addedTo metric labels) (2 ^ 32 - 1)) ∧
      (s.fields .activeSubscriptionsPeak).toNat =
        (gaugesSet labels).foldl max (start.fields .activeSubscriptionsPeak).toNat) ∧
    ∀ before t, before <+: labels → Run DiagnosticsSystem.next unguarded start before t →
      ∀ field, field ≠ .activeSubscriptions → t.fields field ≤ s.fields field := by
  obtain ⟨made, follows⟩ := quiet.follows.run run
  rw [List.nil_append, List.nil_append] at follows
  constructor
  · intro done
    have perm := follows.perm done
    constructor
    · intro metric
      rw [follows.fields _ (by simp), toNat_after_counter, (perm.map _).sum_eq, sum_amountTo]
    · rw [follows.fields _ (by simp), toNat_after_peak, (perm.filterMap _).foldl_eq, filterMap_height]
  · intro before t within reached field other
    obtain ⟨rest, rfl⟩ := within
    obtain ⟨first, earlier⟩ := quiet.follows.run reached
    obtain ⟨more, later⟩ := earlier.run (run.of_append reached)
    rw [later.fields field other, RetryUpdates.after_append, ← earlier.fields field other,
      BitVec.le_def]
    exact RetryUpdates.le_after diagnosticsUpdates_grow more

def contendedStart : DiagnosticsSystem (Fin 2) :=
  ⟨fun _ => 0xFFFFFFF0, fun _ => .idle, fun _ => none⟩

/-- Both threads load, one exchange succeeds, the other fails twice and then saturates. -/
def contendedCalls : List (DiagnosticsLabel (Fin 2)) :=
  [.add 0 5 9, .add 1 5 8, .operate 0 false, .operate 1 false, .operate 0 false,
    .operate 1 false, .operate 1 true, .operate 1 false]

theorem concurrent_totals_contended : ∃ s, Run next unguarded contendedStart contendedCalls s ∧
    (s.fields (.counter .pollErrors)).toNat = min (0xFFFFFFF0 + (9 + 8)) (2 ^ 32 - 1) := by
  obtain ⟨s, run, quiet⟩ := exists_run_of_exec
    (show (exec next unguarded contendedStart contendedCalls).map
      (fun s => (s.threads 0).isIdle && (s.threads 1).isIdle) = some true by decide)
  have start : contendedStart.Quiet := fun _ => rfl
  have done : s.Quiet := Fin.forall_fin_two.mpr (by simpa using quiet)
  exact ⟨s, run, ((concurrent_totals start run).1 done).1 .pollErrors⟩

end DiagnosticsSystem
end AxolotyEmbedded.Zenoh
