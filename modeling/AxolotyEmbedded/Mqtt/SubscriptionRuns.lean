import Mathlib.Data.List.Dedup
import Mathlib.Data.List.TakeWhile
import AxolotyEmbedded.Library.Transition
import AxolotyEmbedded.Mqtt.SubscriptionSlots

/-!
The subscription table between the application thread, which subscribes, unsubscribes and
disconnects, and the ESP-MQTT task, whose handler of CONNECTED copies the table and
subscribes again to what it copied. Each critical section is one step, and so is each call
of ESP-MQTT; any interleaving of the two is a run.
-/
namespace AxolotyEmbedded.Mqtt
open Transition

inductive TableFunction where
  | subscribeWait | unsubscribe
  deriving DecidableEq, Repr

/-- A call under way, with the table as it began. -/
structure TableCall where
  function : TableFunction
  topic : List UInt8
  before : SubscriptionTable
  deriving DecidableEq, Repr

/-- A call that has returned: `sent` says whether it got to its call of ESP-MQTT. -/
structure TableReturn where
  call : TableCall
  after : SubscriptionTable
  sent : Bool
  value : Bool
  deriving DecidableEq, Repr

/-- What a reconnect found in the table, and the filters it has subscribed to since. -/
structure Resubscription where
  copied : List Filter
  sent : List Filter
  deriving DecidableEq, Repr

/-- Where the application thread is. -/
inductive TablePhase where
  | idle
  | subscribeSend (call : TableCall) | subscribeLoop (call : TableCall)
  | unsubscribeSend (call : TableCall) (topicCopy : Slot)
  | unsubscribeRemove (call : TableCall) (topicCopy : Slot)
  deriving DecidableEq, Repr

/-- Where the handler of CONNECTED is. -/
inductive ReconnectPhase where
  | idle | copy
  | subscribe (count index : Nat) (reconnect : Resubscription)
  deriving DecidableEq, Repr

/-- `staging` is `network_subscriptions_staging`. `insertions` lists the topics in the order
in which they were inserted, and `fault` says that an operation left its buffer. -/
structure TableSystem where
  table : SubscriptionTable
  staging : List Slot
  mqttClient : Bool
  connectCount : UInt32
  app : TablePhase
  task : ReconnectPhase
  insertions : List Filter
  returned : List TableReturn
  reconnects : List Resubscription
  fault : Bool
  deriving DecidableEq, Repr

inductive TableLabel where
  | connect
  | subscribeWait (topic : List UInt8)
  | unsubscribe (topic : List UInt8)
  | disconnect
  | app (answer : Bool)
  | connected
  | task
  deriving DecidableEq, Repr

namespace TableSystem

/-- After boot. -/
def initial (bounds : CarrierBounds) : TableSystem where
  table := .initial bounds
  staging := (SubscriptionTable.initial bounds).slots
  mqttClient := false
  connectCount := 0
  app := .idle
  task := .idle
  insertions := []
  returned := []
  reconnects := []
  fault := false

variable (s : TableSystem)

def returns (call : TableCall) (sent value : Bool) : TableSystem :=
  { s with
    app := .idle
    returned := s.returned ++ [⟨call, s.table, sent, value⟩] }

/-- `subscribe_wait` up to the end of its critical section. -/
def subscribeWait (bounds : CarrierBounds) (topic : List UInt8) : TableSystem :=
  let call : TableCall := ⟨.subscribeWait, topic, s.table⟩
  if s.mqttClient = true ∧ topic ≠ [] ∧ topic.length < networkMaxTopic bounds then
    match s.table.subscribeSection topic with
    | none => { s with fault := true }
    | some none => s.returns call false false
    | some (some table) =>
        { s with
          table
          app := .subscribeSend call
          insertions := if table.count = s.table.count then s.insertions
            else s.insertions ++ [cString topic] }
  else s.returns call false false

/-- `unsubscribe` up to the end of its first critical section. -/
def unsubscribe (bounds : CarrierBounds) (topic : List UInt8) : TableSystem :=
  let call : TableCall := ⟨.unsubscribe, topic, s.table⟩
  if s.mqttClient = true ∧ topic ≠ [] ∧ topic.length < networkMaxTopic bounds then
    match s.table.copySection topic with
    | none => { s with fault := true }
    | some none => s.returns call false false
    | some (some topicCopy) => { s with app := .unsubscribeSend call topicCopy }
  else s.returns call false false

/-- The running call goes on. `answer` is whether ESP-MQTT takes the packet, or whether an
acknowledgement comes before the deadline. -/
def stepApp (answer : Bool) : Option TableSystem :=
  match s.app with
  | .idle => none
  | .subscribeSend call =>
      some (if answer then { s with app := .subscribeLoop call } else s.returns call true false)
  | .subscribeLoop call => some (s.returns call true answer)
  | .unsubscribeSend call topicCopy =>
      some (if answer then { s with app := .unsubscribeRemove call topicCopy }
        else s.returns call true false)
  | .unsubscribeRemove call topicCopy =>
      match s.table.removeSection topicCopy s.table.count 0 with
      | none => some { s with fault := true }
      | some table => some ({ s with table }.returns call true true)

/-- `disconnect`: stopping the client waits for its task, which then is idle. -/
def disconnect : TableSystem :=
  if s.mqttClient then
    { s with
      mqttClient := false
      connectCount := 0
      table := { s.table with count := 0 } }
  else s

/-- CONNECTED, up to the critical section of a reconnect. -/
def connected : TableSystem :=
  let connectCount := s.connectCount + 1
  { s with
    connectCount
    task := if 1 < connectCount then .copy else .idle }

/-- The handler of a reconnect goes on; it reads no result of ESP-MQTT. -/
def stepTask : Option TableSystem :=
  match s.task with
  | .idle => none
  | .copy =>
      some { s with
        staging := s.table.slots
        task := .subscribe s.table.count 0 ⟨s.table.contents, []⟩ }
  | .subscribe count index reconnect =>
      if index < count then
        match s.staging[index]?.bind fun slot => (strlen slot).map slot.take with
        | none => some { s with fault := true }
        | some filter =>
            let reconnect := { reconnect with sent := reconnect.sent ++ [filter] }
            some { s with task := .subscribe count (index + 1) reconnect }
      else some { s with
        task := .idle
        reconnects := s.reconnects ++ [reconnect] }

/-- One step. The application begins a call when none runs, and the task takes a CONNECTED
when it is idle. -/
def next (bounds : CarrierBounds) (s : TableSystem) : TableLabel → Option TableSystem
  | .connect =>
      if s.app = .idle ∧ s.mqttClient = false then
        some { s with
          mqttClient := true
          connectCount := 0 }
      else none
  | .subscribeWait topic => if s.app = .idle then some (s.subscribeWait bounds topic) else none
  | .unsubscribe topic => if s.app = .idle then some (s.unsubscribe bounds topic) else none
  | .disconnect => if s.app = .idle ∧ s.task = .idle then some s.disconnect else none
  | .app answer => s.stepApp answer
  | .connected => if s.task = .idle ∧ s.mqttClient = true then some s.connected else none
  | .task => s.stepTask

end TableSystem

/-! ## What every call leaves -/

/-- What a call has done to the table by the time it is at its call of ESP-MQTT. -/
structure TableCall.Inserted (call : TableCall) (table : SubscriptionTable) : Prop where
  present : call.topic ∈ call.before.contents → table = call.before
  absent : call.topic ∉ call.before.contents →
    table.count = call.before.count + 1 ∧
      table.contents = call.before.contents ++ [cString call.topic]

/-- What a call that returned has left. -/
structure TableReturn.Left (r : TableReturn) : Prop where
  refused : r.sent = false → r.value = false ∧ r.after = r.call.before
  subscribed : r.call.function = .subscribeWait → r.sent = true → r.call.Inserted r.after
  kept : r.call.function = .unsubscribe → r.value = false → r.after = r.call.before
  removed : r.call.function = .unsubscribe → r.value = true →
    r.call.topic ∈ r.call.before.contents ∧
      r.after.contents = r.call.before.contents.erase r.call.topic

/-- A handler under way has subscribed to the first filters it copied. -/
structure Resubscription.Progress (reconnect : Resubscription) (staging : List Slot)
    (count index : Nat) : Prop where
  length : reconnect.copied.length = count
  sent : reconnect.sent = reconnect.copied.take index
  staged : ∀ i, i < count → ∃ slot, staging[i]? = some slot ∧ 0 ∈ slot ∧
    reconnect.copied[i]? = some (cString slot)

namespace TableSystem

/-- Where the application thread is in a call. -/
def AppInv (s : TableSystem) : Prop :=
  match s.app with
  | .idle => True
  | .subscribeSend call | .subscribeLoop call =>
      call.function = .subscribeWait ∧ call.Inserted s.table
  | .unsubscribeSend call topicCopy | .unsubscribeRemove call topicCopy =>
      call.function = .unsubscribe ∧ s.table = call.before ∧
        call.topic ∈ call.before.contents ∧ 0 ∈ topicCopy ∧ cString topicCopy = call.topic

def TaskInv (s : TableSystem) : Prop :=
  match s.task with
  | .subscribe count index reconnect => reconnect.Progress s.staging count index
  | _ => True

/-- What holds whatever the topics are. -/
structure Inv (bounds : CarrierBounds) (s : TableSystem) : Prop where
  sound : s.table.Sound bounds
  fault : s.fault = false
  app : s.AppInv
  task : s.TaskInv
  returned : ∀ r ∈ s.returned, r.Left
  reconnects : ∀ reconnect ∈ s.reconnects, reconnect.sent = reconnect.copied

variable {bounds : CarrierBounds} {s s' : TableSystem}

theorem inv_initial (bounds : CarrierBounds) : (initial bounds).Inv bounds :=
  ⟨SubscriptionTable.sound_initial bounds, rfl, trivial, trivial, nofun, nofun⟩

theorem forall_left_append {returned : List TableReturn} {last : TableReturn}
    (before : ∀ r ∈ returned, r.Left) (left : last.Left) : ∀ r ∈ returned ++ [last], r.Left := by
  intro r member
  cases List.mem_append.mp member with
  | inl old => exact before r old
  | inr new =>
      obtain rfl := List.mem_singleton.mp new
      exact left

theorem Inv.returns (inv : s.Inv bounds) {call : TableCall} {sent value : Bool}
    (left : TableReturn.Left ⟨call, s.table, sent, value⟩) :
    (s.returns call sent value).Inv bounds where
  sound := inv.sound
  fault := inv.fault
  app := trivial
  task := inv.task
  returned := forall_left_append inv.returned left
  reconnects := inv.reconnects

/-- A call that is refused has touched nothing. -/
theorem left_refused (function : TableFunction) (topic : List UInt8) (table : SubscriptionTable) :
    TableReturn.Left ⟨⟨function, topic, table⟩, table, false, false⟩ :=
  ⟨fun _ => ⟨rfl, rfl⟩, nofun, fun _ _ => rfl, nofun⟩

theorem Inv.subscribeWait (inv : s.Inv bounds) (topic : List UInt8) :
    (s.subscribeWait bounds topic).Inv bounds := by
  unfold TableSystem.subscribeWait
  split
  · rename_i admitted
    by_cases present : topic ∈ s.table.contents
    · rw [inv.sound.subscribeSection_present present]
      exact ⟨inv.sound, inv.fault, ⟨rfl, fun _ => rfl, fun absent => absurd present absent⟩,
        inv.task, inv.returned, inv.reconnects⟩
    · by_cases full : networkSubscriptionCapacity ≤ s.table.count
      · rw [inv.sound.subscribeSection_full present full]
        exact inv.returns (left_refused _ _ _)
      · obtain ⟨table, inserts, sound, count, contents⟩ :=
          inv.sound.subscribeSection_insert admitted.2.2 present (Nat.lt_of_not_le full)
        rw [inserts]
        exact ⟨sound, inv.fault, ⟨rfl, fun there => absurd there present, fun _ => ⟨count, contents⟩⟩,
          inv.task, inv.returned, inv.reconnects⟩
  · exact inv.returns (left_refused _ _ _)

theorem Inv.unsubscribe (inv : s.Inv bounds) (topic : List UInt8) :
    (s.unsubscribe bounds topic).Inv bounds := by
  unfold TableSystem.unsubscribe
  split
  · by_cases present : topic ∈ s.table.contents
    · obtain ⟨topicCopy, copies, terminated, holds⟩ := inv.sound.copySection_present present
      rw [copies]
      exact ⟨inv.sound, inv.fault, ⟨rfl, rfl, present, terminated, holds⟩, inv.task, inv.returned,
        inv.reconnects⟩
    · rw [inv.sound.copySection_absent present]
      exact inv.returns (left_refused _ _ _)
  · exact inv.returns (left_refused _ _ _)

theorem Inv.stepApp (inv : s.Inv bounds) {answer : Bool} (taken : s.stepApp answer = some s') :
    s'.Inv bounds := by
  have app := inv.app
  unfold TableSystem.stepApp at taken
  unfold AppInv at app
  cases phase : s.app with
  | idle => simp [phase] at taken
  | subscribeSend call =>
      simp only [phase, Option.some.injEq] at taken app
      cases answer with
      | true =>
          subst taken
          exact ⟨inv.sound, inv.fault, app, inv.task, inv.returned, inv.reconnects⟩
      | false =>
          subst taken
          exact inv.returns ⟨nofun, fun _ _ => app.2, fun other => by simp [app.1] at other, nofun⟩
  | subscribeLoop call =>
      simp only [phase, Option.some.injEq] at taken app
      subst taken
      exact inv.returns ⟨nofun, fun _ _ => app.2, fun other => by simp [app.1] at other,
        fun other => by simp [app.1] at other⟩
  | unsubscribeSend call topicCopy =>
      simp only [phase, Option.some.injEq] at taken app
      cases answer with
      | true =>
          subst taken
          exact ⟨inv.sound, inv.fault, app, inv.task, inv.returned, inv.reconnects⟩
      | false =>
          subst taken
          exact inv.returns ⟨nofun, fun other => by simp [app.1] at other, fun _ _ => app.2.1, nofun⟩
  | unsubscribeRemove call topicCopy =>
      simp only [phase] at taken app
      obtain ⟨function, same, present, terminated, holds⟩ := app
      obtain ⟨table, removes, sound, contents⟩ := inv.sound.removeSection_eq terminated
      rw [removes] at taken
      cases taken
      have left : TableReturn.Left ⟨call, table, true, true⟩ :=
        ⟨nofun, fun other => by simp [function] at other, nofun, fun _ _ =>
          ⟨present, by rw [contents, holds, same]⟩⟩
      exact ⟨sound, inv.fault, trivial, inv.task, forall_left_append inv.returned left,
        inv.reconnects⟩

theorem Inv.disconnect (inv : s.Inv bounds) (app : s.app = .idle) (task : s.task = .idle) :
    s.disconnect.Inv bounds := by
  unfold TableSystem.disconnect
  split
  · refine ⟨⟨inv.sound.slots, inv.sound.sizes, Nat.zero_le _, nofun⟩, inv.fault, ?_, ?_,
      inv.returned, inv.reconnects⟩
    · simp [AppInv, app]
    · simp [TaskInv, task]
  · exact inv

theorem Inv.connected (inv : s.Inv bounds) : s.connected.Inv bounds := by
  refine ⟨inv.sound, inv.fault, inv.app, ?_, inv.returned, inv.reconnects⟩
  unfold TaskInv TableSystem.connected
  split
  · rename_i count index reconnect goesOn
    dsimp only at goesOn
    split at goesOn <;> cases goesOn
  · trivial

/-- The copy holds what the table holds at that moment. -/
theorem Inv.copies (inv : s.Inv bounds) :
    Resubscription.Progress ⟨s.table.contents, []⟩ s.table.slots s.table.count 0 where
  length := inv.sound.length_contents
  sent := rfl
  staged := by
    intro i used
    obtain ⟨slot, read, terminated, -, here⟩ := inv.sound.slot used
    refine ⟨slot, read, terminated, ?_⟩
    rw [← List.head?_drop, here]
    rfl

theorem Inv.stepTask (inv : s.Inv bounds) (taken : s.stepTask = some s') : s'.Inv bounds := by
  have task := inv.task
  unfold TableSystem.stepTask at taken
  unfold TaskInv at task
  cases phase : s.task with
  | idle => simp [phase] at taken
  | copy =>
      simp only [phase, Option.some.injEq] at taken
      subst taken
      exact ⟨inv.sound, inv.fault, inv.app, inv.copies, inv.returned, inv.reconnects⟩
  | subscribe count index reconnect =>
      simp only [phase] at taken task
      split at taken
      · rename_i more
        obtain ⟨slot, read, terminated, here⟩ := task.staged index more
        have string : slot.take (cString slot).length = cString slot :=
          (List.prefix_iff_eq_take.mp (List.takeWhile_prefix _)).symm
        simp only [read, Option.bind_some, SubscriptionTable.strlen_eq terminated, Option.map_some,
          string] at taken
        cases taken
        refine ⟨inv.sound, inv.fault, inv.app, ⟨task.length, ?_, task.staged⟩, inv.returned,
          inv.reconnects⟩
        rw [task.sent, List.take_add_one, here]
        rfl
      · rename_i finished
        cases taken
        refine ⟨inv.sound, inv.fault, inv.app, trivial, inv.returned, ?_⟩
        intro other member
        cases List.mem_append.mp member with
        | inl old => exact inv.reconnects other old
        | inr new =>
            obtain rfl := List.mem_singleton.mp new
            rw [task.sent, List.take_of_length_le (task.length ▸ Nat.not_lt.mp finished)]

theorem Inv.next (inv : s.Inv bounds) {label : TableLabel} (taken : s.next bounds label = some s') :
    s'.Inv bounds := by
  cases label with
  | connect =>
      simp only [TableSystem.next, Option.ite_none_right_eq_some, Option.some.injEq] at taken
      obtain ⟨-, rfl⟩ := taken
      exact ⟨inv.sound, inv.fault, inv.app, inv.task, inv.returned, inv.reconnects⟩
  | subscribeWait topic =>
      simp only [TableSystem.next, Option.ite_none_right_eq_some, Option.some.injEq] at taken
      obtain ⟨-, rfl⟩ := taken
      exact inv.subscribeWait topic
  | unsubscribe topic =>
      simp only [TableSystem.next, Option.ite_none_right_eq_some, Option.some.injEq] at taken
      obtain ⟨-, rfl⟩ := taken
      exact inv.unsubscribe topic
  | disconnect =>
      simp only [TableSystem.next, Option.ite_none_right_eq_some, Option.some.injEq] at taken
      obtain ⟨⟨app, task⟩, rfl⟩ := taken
      exact inv.disconnect app task
  | app answer => exact inv.stepApp taken
  | connected =>
      simp only [TableSystem.next, Option.ite_none_right_eq_some, Option.some.injEq] at taken
      obtain ⟨-, rfl⟩ := taken
      exact inv.connected
  | task => exact inv.stepTask taken

/-! ## A failed subscribe -/

/-- A subscribe that fails at its send or in its wait leaves the topic behind: the table it
inserted into is never put back. -/
theorem failed_subscribe_stays {labels : List TableLabel}
    (run : Run (next bounds) unguarded (initial bounds) labels s) :
    ∀ r ∈ s.returned, r.call.function = .subscribeWait → r.sent = true → r.value = false →
      r.call.topic ∉ r.call.before.contents →
        r.after.count = r.call.before.count + 1 ∧
          r.after.contents = r.call.before.contents ++ [cString r.call.topic] ∧
          r.after ≠ r.call.before := by
  have inv : s.Inv bounds := run.invariant (inv_initial bounds) fun inv _ taken => inv.next taken
  intro r member function sent _ absent
  obtain ⟨count, contents⟩ := ((inv.returned r member).subscribed function sent).absent absent
  refine ⟨count, contents, fun same => ?_⟩
  rw [same] at count
  omega

/-- ESP-MQTT refuses the SUBSCRIBE, and the node reconnects later. -/
def refusedSubscribe : List TableLabel :=
  [.connect, .connected, .subscribeWait [97], .app false]

theorem failed_subscribe_stays_refused :
    ∃ s, Run (next smokeBounds) unguarded (initial smokeBounds) refusedSubscribe s ∧
      ∃ r ∈ s.returned, r.after.contents = r.call.before.contents ++ [cString r.call.topic] ∧
        r.after ≠ r.call.before := by
  obtain ⟨s, run, seen⟩ := exists_run_of_exec
    (show (exec (next smokeBounds) unguarded (initial smokeBounds) refusedSubscribe).map
      (fun s => s.returned.any fun r => decide (r.call.function = .subscribeWait ∧
        r.sent = true ∧ r.value = false ∧ r.call.topic ∉ r.call.before.contents)) = some true by
          decide +kernel)
  obtain ⟨r, member, met⟩ := List.any_eq_true.mp seen
  obtain ⟨function, sent, value, absent⟩ := of_decide_eq_true met
  exact ⟨s, run, r, member,
    (failed_subscribe_stays run r member function sent value absent).2⟩

/-- The call returns 0, and its topic is in the table. -/
theorem not_failed_subscribe_restores :
    ¬ ∀ labels s, Run (next smokeBounds) unguarded (initial smokeBounds) labels s →
      ∀ r ∈ s.returned, r.call.function = .subscribeWait → r.sent = true → r.value = false →
        r.call.topic ∉ r.call.before.contents → r.after = r.call.before := by
  intro holds
  obtain ⟨s, run, seen⟩ := exists_run_of_exec
    (show (exec (next smokeBounds) unguarded (initial smokeBounds) refusedSubscribe).map
      (fun s => s.returned.any fun r => decide (r.call.function = .subscribeWait ∧
        r.sent = true ∧ r.value = false ∧ r.call.topic ∉ r.call.before.contents ∧
          r.after.count ≠ r.call.before.count)) = some true by decide +kernel)
  obtain ⟨r, member, met⟩ := List.any_eq_true.mp seen
  obtain ⟨function, sent, value, absent, differs⟩ := of_decide_eq_true met
  exact differs (congrArg _ (holds _ s run r member function sent value absent))

/-! ## The table -/

end TableSystem

def TableLabel.topic : TableLabel → List UInt8
  | .subscribeWait topic | .unsubscribe topic => topic
  | _ => []

/-- The call's topic holds no NUL byte. -/
def NulFree (_ : TableSystem) (label : TableLabel) : Prop := 0 ∉ label.topic

instance (s : TableSystem) (label : TableLabel) : Decidable (NulFree s label) :=
  inferInstanceAs (Decidable (¬ _))

theorem cString_of_nulFree {topic : List UInt8} (free : 0 ∉ topic) : cString topic = topic :=
  List.takeWhile_eq_self_iff.mpr fun byte member => by
    simpa using fun null : byte = 0 => free (null ▸ member)

/-- One more at the end of both, where the shorter list has none of it. -/
theorem append_sublist_dedup {kept all : List Filter} {topic : Filter}
    (ordered : kept.Sublist all.dedup) (absent : topic ∉ kept) :
    (kept ++ [topic]).Sublist (all ++ [topic]).dedup := by
  induction all generalizing kept with
  | nil =>
      rw [List.dedup_nil, List.sublist_nil] at ordered
      simp [ordered]
  | cons first all ih =>
      by_cases again : first ∈ all
      · rw [List.dedup_cons_of_mem again] at ordered
        rw [List.cons_append, List.dedup_cons_of_mem (List.mem_append_left _ again)]
        exact ih ordered absent
      · rw [List.dedup_cons_of_notMem again] at ordered
        by_cases same : first = topic
        · subst same
          rw [List.cons_append, List.dedup_cons_of_mem (List.mem_append_right _ (by simp))]
          refine ih ?_ absent
          cases ordered with
          | cons _ rest => exact rest
          | cons_cons _ _ => exact absurd (List.mem_cons_self ..) absent
        · rw [List.cons_append, List.dedup_cons_of_notMem (by simp [again, same])]
          cases ordered with
          | cons _ rest => exact (ih rest absent).cons _
          | cons_cons _ rest =>
              exact (ih rest fun there => absent (List.mem_cons_of_mem _ there)).cons_cons _

namespace TableSystem
variable {bounds : CarrierBounds} {s s' : TableSystem}

/-- The topics are distinct and stand in the order in which they were last inserted, and
so were they in every copy of the table. -/
structure Ordered (s : TableSystem) : Prop where
  distinct : s.table.contents.Nodup
  ordered : s.table.contents.Sublist s.insertions.dedup
  copying : ∀ count index reconnect, s.task = .subscribe count index reconnect →
    reconnect.copied.Nodup
  copied : ∀ reconnect ∈ s.reconnects, reconnect.copied.Nodup

theorem ordered_initial (bounds : CarrierBounds) : (initial bounds).Ordered :=
  ⟨List.nodup_nil, List.nil_sublist _, nofun, nofun⟩

theorem Ordered.subscribeWait (ordered : s.Ordered) (inv : s.Inv bounds) {topic : List UInt8}
    (free : 0 ∉ topic) : (s.subscribeWait bounds topic).Ordered := by
  unfold TableSystem.subscribeWait
  split
  · rename_i admitted
    by_cases present : topic ∈ s.table.contents
    · rw [inv.sound.subscribeSection_present present]
      exact ⟨ordered.distinct, by simpa using ordered.ordered, ordered.copying, ordered.copied⟩
    · by_cases full : networkSubscriptionCapacity ≤ s.table.count
      · rw [inv.sound.subscribeSection_full present full]
        exact ⟨ordered.distinct, ordered.ordered, ordered.copying, ordered.copied⟩
      · obtain ⟨table, inserts, -, count, contents⟩ :=
          inv.sound.subscribeSection_insert admitted.2.2 present (Nat.lt_of_not_le full)
        rw [cString_of_nulFree free] at contents
        rw [inserts]
        refine ⟨?_, ?_, ordered.copying, ordered.copied⟩
        · rw [contents]
          exact ordered.distinct.append (List.nodup_singleton _) (by simpa using present)
        · simp only [contents, cString_of_nulFree free, count, Nat.succ_ne_self, if_false]
          exact append_sublist_dedup ordered.ordered present
  · exact ⟨ordered.distinct, ordered.ordered, ordered.copying, ordered.copied⟩

theorem Ordered.unsubscribe (ordered : s.Ordered) (topic : List UInt8) :
    (s.unsubscribe bounds topic).Ordered := by
  unfold TableSystem.unsubscribe
  split
  · split <;> exact ⟨ordered.distinct, ordered.ordered, ordered.copying, ordered.copied⟩
  · exact ⟨ordered.distinct, ordered.ordered, ordered.copying, ordered.copied⟩

theorem Ordered.stepApp (ordered : s.Ordered) (inv : s.Inv bounds) {answer : Bool}
    (taken : s.stepApp answer = some s') : s'.Ordered := by
  have app := inv.app
  unfold TableSystem.stepApp at taken
  unfold AppInv at app
  cases phase : s.app with
  | idle => simp [phase] at taken
  | subscribeSend call =>
      simp only [phase, Option.some.injEq] at taken
      cases answer <;> subst taken <;>
        exact ⟨ordered.distinct, ordered.ordered, ordered.copying, ordered.copied⟩
  | subscribeLoop call =>
      simp only [phase, Option.some.injEq] at taken
      subst taken
      exact ⟨ordered.distinct, ordered.ordered, ordered.copying, ordered.copied⟩
  | unsubscribeSend call topicCopy =>
      simp only [phase, Option.some.injEq] at taken
      cases answer <;> subst taken <;>
        exact ⟨ordered.distinct, ordered.ordered, ordered.copying, ordered.copied⟩
  | unsubscribeRemove call topicCopy =>
      simp only [phase] at taken app
      obtain ⟨table, removes, -, contents⟩ := inv.sound.removeSection_eq app.2.2.2.1
      rw [removes] at taken
      cases taken
      refine ⟨?_, ?_, ordered.copying, ordered.copied⟩
      · exact contents ▸ ordered.distinct.erase _
      · exact (contents ▸ List.erase_sublist).trans ordered.ordered

theorem Ordered.stepTask (ordered : s.Ordered) (taken : s.stepTask = some s') : s'.Ordered := by
  unfold TableSystem.stepTask at taken
  cases phase : s.task with
  | idle => simp [phase] at taken
  | copy =>
      simp only [phase, Option.some.injEq] at taken
      subst taken
      refine ⟨ordered.distinct, ordered.ordered, ?_, ordered.copied⟩
      rintro count index reconnect ⟨⟩
      exact ordered.distinct
  | subscribe count index reconnect =>
      simp only [phase] at taken
      have copying := ordered.copying count index reconnect phase
      split at taken
      · split at taken
        · cases taken
          exact ⟨ordered.distinct, ordered.ordered, phase ▸ ordered.copying, ordered.copied⟩
        · cases taken
          refine ⟨ordered.distinct, ordered.ordered, ?_, ordered.copied⟩
          rintro count' index' reconnect' ⟨⟩
          exact copying
      · cases taken
        refine ⟨ordered.distinct, ordered.ordered, nofun, ?_⟩
        intro other member
        cases List.mem_append.mp member with
        | inl old => exact ordered.copied other old
        | inr new =>
            obtain rfl := List.mem_singleton.mp new
            exact copying

theorem Ordered.next (ordered : s.Ordered) (inv : s.Inv bounds) {label : TableLabel}
    (free : NulFree s label) (taken : s.next bounds label = some s') : s'.Ordered := by
  cases label with
  | connect =>
      simp only [TableSystem.next, Option.ite_none_right_eq_some, Option.some.injEq] at taken
      obtain ⟨-, rfl⟩ := taken
      exact ⟨ordered.distinct, ordered.ordered, ordered.copying, ordered.copied⟩
  | subscribeWait topic =>
      simp only [TableSystem.next, Option.ite_none_right_eq_some, Option.some.injEq] at taken
      obtain ⟨-, rfl⟩ := taken
      exact ordered.subscribeWait inv free
  | unsubscribe topic =>
      simp only [TableSystem.next, Option.ite_none_right_eq_some, Option.some.injEq] at taken
      obtain ⟨-, rfl⟩ := taken
      exact ordered.unsubscribe topic
  | disconnect =>
      simp only [TableSystem.next, Option.ite_none_right_eq_some, Option.some.injEq] at taken
      obtain ⟨-, rfl⟩ := taken
      unfold TableSystem.disconnect
      split
      · exact ⟨List.nodup_nil, List.nil_sublist _, ordered.copying, ordered.copied⟩
      · exact ordered
  | app answer => exact ordered.stepApp inv taken
  | connected =>
      simp only [TableSystem.next, Option.ite_none_right_eq_some, Option.some.injEq] at taken
      obtain ⟨-, rfl⟩ := taken
      refine ⟨ordered.distinct, ordered.ordered, ?_, ordered.copied⟩
      intro count index reconnect goesOn
      simp only [TableSystem.connected] at goesOn
      split at goesOn <;> cases goesOn
  | task => exact ordered.stepTask taken

/-- Both of what holds in every state while the topics hold no NUL byte. -/
def Regular (bounds : CarrierBounds) (s : TableSystem) : Prop := s.Inv bounds ∧ s.Ordered

/-- What the table guarantees in every state: it holds at most four distinct strings, each
terminated in its buffer, in the order of their insertion. An unsubscribe that returned 1
removed its topic alone, and one that returned 0 nothing; a reconnect subscribed once to
each topic of the table it copied. -/
structure Guarantee (s : TableSystem) : Prop where
  inBounds : s.fault = false
  capacity : s.table.count ≤ networkSubscriptionCapacity
  length : s.table.contents.length = s.table.count
  terminated : ∀ slot ∈ s.table.slots.take s.table.count, 0 ∈ slot
  distinct : s.table.contents.Nodup
  ordered : s.table.contents.Sublist s.insertions.dedup
  removed : ∀ r ∈ s.returned, r.call.function = .unsubscribe → r.value = true →
    r.call.topic ∈ r.call.before.contents ∧
      r.after.contents = r.call.before.contents.erase r.call.topic
  kept : ∀ r ∈ s.returned, r.call.function = .unsubscribe → r.value = false →
    r.after = r.call.before
  resubscribed : ∀ reconnect ∈ s.reconnects,
    reconnect.sent = reconnect.copied ∧ reconnect.sent.Nodup

theorem guarantee_of_run {labels : List TableLabel}
    (run : Run (next bounds) NulFree (initial bounds) labels s) : s.Guarantee := by
  have regular : s.Regular bounds :=
    run.invariant ⟨inv_initial bounds, ordered_initial bounds⟩ fun regular free taken =>
      ⟨regular.1.next taken, regular.2.next regular.1 free taken⟩
  obtain ⟨inv, ordered⟩ := regular
  refine ⟨inv.fault, inv.sound.count, inv.sound.length_contents, inv.sound.terminated,
    ordered.distinct, ordered.ordered, fun r member => (inv.returned r member).removed,
    fun r member => (inv.returned r member).kept, fun reconnect member => ?_⟩
  have sent := inv.reconnects reconnect member
  exact ⟨sent, sent ▸ ordered.copied reconnect member⟩

/-- Two topics are subscribed, the connection is lost and made again while the first of
them is unsubscribed. -/
def reconnecting : List TableLabel :=
  [.connect, .connected, .subscribeWait [97], .app true, .app true, .subscribeWait [98],
    .app true, .app true, .unsubscribe [97], .connected, .task, .app true, .app true, .task,
    .task, .task]

theorem guarantee_of_run_reconnecting :
    ∃ s, Run (next smokeBounds) NulFree (initial smokeBounds) reconnecting s ∧
      s.table.contents = [[98]] ∧ s.reconnects = [⟨[[97], [98]], [[97], [98]]⟩] ∧
      s.Guarantee := by
  obtain ⟨s, run, seen⟩ := exists_run_of_exec
    (show (exec (next smokeBounds) NulFree (initial smokeBounds) reconnecting).map
      (fun s => decide (s.table.contents = [[98]] ∧
        s.reconnects = [⟨[[97], [98]], [[97], [98]]⟩])) = some true by decide +kernel)
  obtain ⟨contents, reconnects⟩ := of_decide_eq_true seen
  exact ⟨s, run, contents, reconnects, guarantee_of_run run⟩

end TableSystem

end AxolotyEmbedded.Mqtt
