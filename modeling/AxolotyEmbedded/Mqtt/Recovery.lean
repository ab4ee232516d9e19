import Mathlib.Data.List.Basic
import AxolotyEmbedded.Library.Transition
import AxolotyEmbedded.Library.Wrapping
import AxolotyEmbedded.Mqtt.Acknowledgement

/-!
What a `reconnect_wait` that returns 1 is evidence of. The handler sets the
resubscribed bit when it has counted as many acknowledgements as the table has
entries; where every entry has then been acknowledged, the bit is right until it
is cleared, and so is the call. The baseline the call advances by one keeps the
calls that return 1 below the connections made.
-/
namespace AxolotyEmbedded.Mqtt
open Transition

/-- What a phase means for the evidence. `recovered` is after both bits were read. -/
inductive AppKind where
  | idle | connecting | installing | calling
  | recovering (expected : BitVec 32) | recovered (expected : BitVec 32)
  deriving DecidableEq, Repr

def AppPhase.kind : AppPhase → AppKind
  | .idle => .idle
  | .connectDeadline | .connectLoad | .connectCheck | .connectBaseline => .connecting
  | .subscribePrior _ _ | .subscribeClear _ => .installing
  | .subscribeSend _ | .subscribeDeadline _ | .subscribeLoad _ | .subscribeReturn _
  | .unsubscribeSend _ | .unsubscribeRemove _ => .calling
  | .reconnectDeadline expected | .reconnectLoadCount expected | .reconnectLoadConnected expected
  | .reconnectLoadResubscribed expected | .reconnectCheckBits expected => .recovering expected
  | .reconnectCheckCount expected => .recovered expected

def AppKind.expected : AppKind → Option (BitVec 32)
  | .recovering expected | .recovered expected => some expected
  | _ => none

def AppKind.bitsRead : AppKind → Bool
  | .recovered _ => true
  | _ => false

def TaskPhase.settingResubscribed : TaskPhase → Bool
  | .subscribedSet => true
  | _ => false

/-- The connection was up and every filter acknowledged on it. -/
def Recovery.Evident (recovery : Recovery) : Prop :=
  recovery.up = true ∧ ∀ filter ∈ recovery.subscriptions, filter ∈ recovery.acknowledgedFilters

instance (recovery : Recovery) : Decidable recovery.Evident := inferInstanceAs (Decidable (_ ∧ _))

namespace MqttSystem
variable {s t : MqttSystem} {bounds : CarrierBounds}

/-- Every filter of the table is acknowledged on the current connection. -/
def Resubscribed (s : MqttSystem) : Prop :=
  ∀ filter ∈ s.carrier.subscriptions, filter ∈ s.connection.acknowledgedFilters

instance (s : MqttSystem) : Decidable s.Resubscribed :=
  inferInstanceAs (Decidable (∀ filter ∈ _, _))

/-- Every recovery reported was one, and there were no more than connections. -/
def Recovered (s : MqttSystem) : Prop :=
  (∀ recovery ∈ s.recoveries, recovery.Evident) ∧ s.recoveries.length ≤ s.connectedEvents

/-- The handler sets the bit only when no filter of the table lacks its
acknowledgement, the connection does not break between the last look at the bits and
the return, and the baseline is not the last value of the counter. -/
def TrueEvidence (s : MqttSystem) : MqttLabel → Prop
  | .task _ => s.task.settingResubscribed = true → s.Resubscribed
  | .disconnected => s.app.kind.bitsRead = false
  | .reconnectWait _ => s.carrier.reconnectBaseline ≠ BitVec.allOnes 32
  | _ => True

instance (s : MqttSystem) : (label : MqttLabel) → Decidable (s.TrueEvidence label)
  | .task _ => inferInstanceAs (Decidable (_ → _))
  | .disconnected => inferInstanceAs (Decidable (_ = _))
  | .reconnectWait _ => inferInstanceAs (Decidable (_ ≠ _))
  | .connectWait _ | .subscribeWait _ | .unsubscribe _ | .disconnect | .app _ | .connected
  | .subscribed _ => inferInstanceAs (Decidable True)

/-! ## The invariant -/

structure RecoveryInv (s : MqttSystem) : Prop where
  client : s.app.kind ≠ .idle → s.carrier.mqttClient = true
  busy : s.task ≠ .idle → s.carrier.mqttClient = true ∧ s.connection.up = true
  outstanding : s.connection.outstanding ≠ [] →
    s.carrier.mqttClient = true ∧ s.connection.up = true
  connectedBit : s.carrier.mqttClient = true → s.carrier.connectedBit = true →
    s.connection.up = true
  resubscribedBit : s.carrier.mqttClient = true → s.carrier.resubscribedBit = true →
    s.connection.up = true ∧ (s.app.kind ≠ .installing → s.Resubscribed)
  bitsRead : s.app.kind.bitsRead = true → s.connection.up = true ∧ s.Resubscribed
  expected : ∀ expected ∈ s.app.kind.expected,
    expected.toNat = s.carrier.reconnectBaseline.toNat + 1
  evident : ∀ recovery ∈ s.recoveries, recovery.Evident
  bounded : s.recoveries.length ≤ s.connectedEvents
  baseline : s.carrier.mqttClient = true → s.app.kind ≠ .connecting →
    s.carrier.connectCount.toNat + s.recoveries.length ≤
      s.carrier.reconnectBaseline.toNat + s.connectedEvents

namespace RecoveryInv

theorem initial : initial.RecoveryInv where
  client busy := absurd rfl busy
  busy busy := absurd rfl busy
  outstanding sent := absurd rfl sent
  connectedBit client := nomatch client
  resubscribedBit client := nomatch client
  bitsRead read := nomatch read
  expected _ inside := nomatch inside
  evident _ inside := nomatch inside
  bounded := Nat.le_refl _
  baseline client := nomatch client

/-- Without a client there is nothing left to be wrong about. -/
theorem of_destroyed (idle : s.app = .idle) (task : s.task = .idle)
    (client : s.carrier.mqttClient = false) (outstanding : s.connection.outstanding = [])
    (evident : ∀ recovery ∈ s.recoveries, recovery.Evident)
    (bounded : s.recoveries.length ≤ s.connectedEvents) : s.RecoveryInv where
  client busy := absurd (congrArg AppPhase.kind idle) busy
  busy busy := absurd task busy
  outstanding sent := absurd outstanding sent
  connectedBit held := absurd held (by simp [client])
  resubscribedBit held := absurd held (by simp [client])
  bitsRead read := by
    rw [idle] at read
    cases read
  expected _ inside := by
    rw [idle] at inside
    cases inside
  evident := evident
  bounded := bounded
  baseline held := absurd held (by simp [client])

/-- The application moves on, out of neither `connect_wait` nor an installation. -/
theorem go (inv : s.RecoveryInv) (app : AppPhase)
    (client : app.kind ≠ .idle → s.carrier.mqttClient = true)
    (connecting : app.kind ≠ .connecting → s.app.kind ≠ .connecting)
    (installing : app.kind ≠ .installing → s.app.kind ≠ .installing)
    (bitsRead : app.kind.bitsRead = true → s.connection.up = true ∧ s.Resubscribed)
    (expected : ∀ expected ∈ app.kind.expected,
      expected.toNat = s.carrier.reconnectBaseline.toNat + 1) :
    { s with app := app }.RecoveryInv where
  client := client
  busy := inv.busy
  outstanding := inv.outstanding
  connectedBit := inv.connectedBit
  resubscribedBit held set :=
    have right := inv.resubscribedBit held set
    ⟨right.1, fun other => right.2 (installing other)⟩
  bitsRead := bitsRead
  expected := expected
  evident := inv.evident
  bounded := inv.bounded
  baseline held other := inv.baseline held (connecting other)

/-- A phase that says nothing about the bits and the baseline. -/
theorem goSilent (inv : s.RecoveryInv) (app : AppPhase)
    (client : app.kind ≠ .idle → s.carrier.mqttClient = true)
    (connecting : s.app.kind ≠ .connecting) (installing : s.app.kind ≠ .installing)
    (bitsRead : app.kind.bitsRead = false) (expected : app.kind.expected = none) :
    { s with app := app }.RecoveryInv := by
  apply inv.go app client (fun _ => connecting) (fun _ => installing)
  · intro read
    rw [bitsRead] at read
    cases read
  · intro count inside
    rw [expected] at inside
    cases inside

theorem move (inv : s.RecoveryInv) {app : AppPhase} (kind : app.kind = s.app.kind) :
    { s with app := app }.RecoveryInv := by
  apply inv.go <;> rw [kind]
  · exact inv.client
  · exact id
  · exact id
  · exact inv.bitsRead
  · exact inv.expected

theorem leave (inv : s.RecoveryInv) (connecting : s.app.kind ≠ .connecting)
    (installing : s.app.kind ≠ .installing) : { s with app := .idle }.RecoveryInv :=
  inv.goSilent .idle (absurd rfl) connecting installing rfl rfl

/-- The task moves on within a handler, or out of it. -/
theorem moveTask (inv : s.RecoveryInv) (busy : s.task ≠ .idle) (task : TaskPhase) :
    { s with task := task }.RecoveryInv :=
  { inv with busy := fun _ => inv.busy busy }

theorem send (inv : s.RecoveryInv) (client : s.carrier.mqttClient = true)
    (message : SentSubscribe) : (s.send message).RecoveryInv := by
  rw [MqttSystem.send]
  split
  · rename_i up
    exact { inv with outstanding := fun _ => ⟨client, up⟩ }
  · exact inv

/-! ## Steps of the application -/

/-- Nothing runs for a client there is not. -/
theorem quiet_of_no_client (inv : s.RecoveryInv) (client : s.carrier.mqttClient = false) :
    s.task = .idle ∧ s.connection.outstanding = [] := by
  constructor
  · by_contra busy
    exact absurd (inv.busy busy).1 (by simp [client])
  · by_contra sent
    exact absurd (inv.outstanding sent).1 (by simp [client])

theorem connectWait (inv : s.RecoveryInv) (idle : s.app = .idle)
    (client : s.carrier.mqttClient = false) (start : ConnectStart) :
    (s.connectWait start).RecoveryInv := by
  obtain ⟨task, outstanding⟩ := inv.quiet_of_no_client client
  cases start with
  | rejected => exact inv
  | failed => exact .of_destroyed idle task client outstanding inv.evident inv.bounded
  | started =>
      exact {
        client := fun _ => rfl
        busy := fun busy => absurd task busy
        outstanding := fun sent => absurd outstanding sent
        connectedBit := nofun
        resubscribedBit := nofun
        bitsRead := nofun
        expected := nofun
        evident := inv.evident
        bounded := inv.bounded
        baseline := fun _ connecting => absurd rfl connecting }

theorem subscribeReturns (inv : s.RecoveryInv) (connecting : s.app.kind ≠ .connecting)
    (installing : s.app.kind ≠ .installing) (number : Nat) (filter : Filter) (since : Nat)
    (value : Bool) : (s.subscribeReturns number filter since value).RecoveryInv :=
  { inv.leave connecting installing with }

/-- A filter is installed: until the bit is cleared it says nothing. -/
theorem subscribeWait (inv : s.RecoveryInv) (idle : s.app = .idle) (topic : List UInt8) :
    (s.subscribeWait bounds topic).RecoveryInv := by
  have counted : ({ s with calls := s.calls + 1 } : MqttSystem).RecoveryInv := { inv with }
  have connecting : s.app.kind ≠ .connecting := by simp [idle, AppPhase.kind]
  have installing : s.app.kind ≠ .installing := by simp [idle, AppPhase.kind]
  simp only [MqttSystem.subscribeWait]
  split
  · rename_i admitted
    split
    · exact counted.goSilent _ (fun _ => admitted.1) connecting installing rfl rfl
    · split
      · exact counted.subscribeReturns connecting installing ..
      · exact {
          counted.goSilent (.subscribePrior s.calls (cString topic)) (fun _ => admitted.1)
            connecting installing rfl rfl with
          resubscribedBit := fun held set =>
            ⟨(inv.resubscribedBit held set).1, fun other => absurd rfl other⟩
          bitsRead := fun read => absurd read Bool.false_ne_true }
  · exact counted.subscribeReturns connecting installing ..

theorem disconnect (inv : s.RecoveryInv) (idle : s.app = .idle) : s.disconnect.RecoveryInv := by
  rw [MqttSystem.disconnect]
  split
  · exact .of_destroyed idle rfl rfl rfl inv.evident inv.bounded
  · exact inv

/-- `connect_wait` takes the count of connections as the baseline. -/
theorem connectBaseline (inv : s.RecoveryInv) (app : s.app = .connectBaseline) :
    { s with
      carrier := { s.carrier with reconnectBaseline := s.carrier.connectCount }
      app := .idle
      recoveries := []
      connectedEvents := 0 }.RecoveryInv where
  client busy := absurd rfl busy
  busy := inv.busy
  outstanding := inv.outstanding
  connectedBit := inv.connectedBit
  resubscribedBit held set :=
    have right := inv.resubscribedBit held set
    ⟨right.1, fun _ => right.2 (by simp [app, AppPhase.kind])⟩
  bitsRead := nofun
  expected := nofun
  evident := nofun
  bounded := Nat.le_refl _
  baseline _ _ := Nat.le_refl _

theorem unsubscribeRemove (inv : s.RecoveryInv) {topic : Filter}
    (app : s.app = .unsubscribeRemove topic) :
    { s with
      carrier := { s.carrier with subscriptions := s.carrier.subscriptions.erase topic }
      app := .idle }.RecoveryInv :=
  { inv.leave (by simp [app, AppPhase.kind]) (by simp [app, AppPhase.kind]) with
    resubscribedBit := fun held set =>
      have right := inv.resubscribedBit held set
      ⟨right.1, fun _ filter inside =>
        right.2 (by simp [app, AppPhase.kind]) filter (List.mem_of_mem_erase inside)⟩
    bitsRead := nofun }

/-- The call reports what it has read: the bits were right and still are. -/
theorem reconnectCheckCount (inv : s.RecoveryInv) {expected : BitVec 32}
    (app : s.app = .reconnectCheckCount expected) (reached : expected ≤ s.carrier.connectCount) :
    { s with
      carrier := { s.carrier with reconnectBaseline := expected }
      app := .idle
      recoveries := s.recoveries ++ [(⟨s.connection.up, s.carrier.subscriptions,
        s.connection.acknowledgedFilters⟩ : Recovery)] }.RecoveryInv := by
  have kind : s.app.kind = .recovered expected := by rw [app]; rfl
  have client := inv.client (by simp [kind])
  have next : expected.toNat = s.carrier.reconnectBaseline.toNat + 1 :=
    inv.expected expected (by rw [kind]; rfl)
  have right := inv.bitsRead (by rw [kind]; rfl)
  have counted := inv.baseline client (by simp [kind])
  have reached := BitVec.le_def.mp reached
  refine { inv.leave (by simp [kind]) (by simp [kind]) with
    resubscribedBit := ?_
    bitsRead := nofun
    expected := nofun
    evident := ?_
    bounded := ?_
    baseline := ?_ }
  · exact fun _ _ => ⟨right.1, fun _ => right.2⟩
  · intro recovery inside
    cases List.mem_append.mp inside with
    | inl before => exact inv.evident recovery before
    | inr now =>
        cases List.mem_singleton.mp now
        exact right
  · rw [List.length_append, List.length_singleton]
    dsimp only
    omega
  · intro _ _
    rw [List.length_append, List.length_singleton]
    dsimp only
    omega

theorem stepApp (inv : s.RecoveryInv) {answer : Bool} (taken : s.stepApp answer = some t) :
    t.RecoveryInv := by
  cases app : s.app with
  | idle =>
      simp only [MqttSystem.stepApp, app] at taken
      cases taken
  | connectDeadline | connectLoad | subscribeDeadline _ | subscribeLoad _ | reconnectDeadline _
  | reconnectLoadCount _ | reconnectLoadConnected _ | reconnectLoadResubscribed _ =>
      simp only [MqttSystem.stepApp, app] at taken
      cases taken
      apply inv.move
      rw [app]
      split <;> rfl
  | connectCheck =>
      simp only [MqttSystem.stepApp, app] at taken
      split at taken <;> cases taken
      · exact inv.move (by rw [app]; rfl)
      · exact .of_destroyed rfl rfl rfl rfl inv.evident inv.bounded
  | connectBaseline =>
      simp only [MqttSystem.stepApp, app] at taken
      cases taken
      exact inv.connectBaseline app
  | subscribePrior number filter =>
      simp only [MqttSystem.stepApp, app] at taken
      cases taken
      exact inv.move (by rw [app]; rfl)
  | subscribeClear call =>
      simp only [MqttSystem.stepApp, app] at taken
      cases taken
      have client := inv.client (by simp [app, AppPhase.kind])
      exact {
        client := fun _ => client
        busy := inv.busy
        outstanding := inv.outstanding
        connectedBit := inv.connectedBit
        resubscribedBit := fun _ set => absurd set Bool.false_ne_true
        bitsRead := fun read => absurd read Bool.false_ne_true
        expected := fun _ inside => absurd inside (Option.not_mem_none _)
        evident := inv.evident
        bounded := inv.bounded
        baseline := fun held _ => inv.baseline held (by simp [app, AppPhase.kind]) }
  | subscribeSend call =>
      simp only [MqttSystem.stepApp, app] at taken
      have client := inv.client (by simp [app, AppPhase.kind])
      split at taken <;> cases taken
      · exact (inv.send client _).move (by rw [app_send, app]; rfl)
      · exact inv.subscribeReturns (by simp [app, AppPhase.kind]) (by simp [app, AppPhase.kind]) ..
  | subscribeReturn call =>
      simp only [MqttSystem.stepApp, app] at taken
      cases taken
      exact inv.subscribeReturns (by simp [app, AppPhase.kind]) (by simp [app, AppPhase.kind]) ..
  | unsubscribeSend topic =>
      simp only [MqttSystem.stepApp, app] at taken
      cases taken
      split
      · exact inv.move (by rw [app]; rfl)
      · exact inv.leave (by simp [app, AppPhase.kind]) (by simp [app, AppPhase.kind])
  | unsubscribeRemove topic =>
      simp only [MqttSystem.stepApp, app] at taken
      cases taken
      exact inv.unsubscribeRemove app
  | reconnectCheckBits expected =>
      simp only [MqttSystem.stepApp, app] at taken
      cases taken
      have client := inv.client (by simp [app, AppPhase.kind])
      have installing : s.app.kind ≠ .installing := by simp [app, AppPhase.kind]
      have connecting : s.app.kind ≠ .connecting := by simp [app, AppPhase.kind]
      split
      · rename_i bits
        have right := inv.resubscribedBit client (Bool.and_eq_true_iff.mp bits).2
        refine inv.go _ (fun _ => client) (fun _ => connecting) (fun _ => installing)
          (fun _ => ⟨right.1, right.2 installing⟩) fun next inside => ?_
        exact inv.expected next (by rw [app]; exact inside)
      · exact inv.leave connecting installing
  | reconnectCheckCount expected =>
      simp only [MqttSystem.stepApp, app] at taken
      split at taken <;> cases taken
      · rename_i reached
        exact inv.reconnectCheckCount app reached
      · exact inv.leave (by simp [app, AppPhase.kind]) (by simp [app, AppPhase.kind])

/-! ## Steps of the task -/

/-- A connection that was down cannot have had either bit. -/
theorem connected (inv : s.RecoveryInv) (client : s.carrier.mqttClient = true)
    (down : s.connection.up = false) : s.connected.RecoveryInv where
  client _ := client
  busy _ := ⟨client, rfl⟩
  outstanding sent := absurd rfl sent
  connectedBit _ _ := rfl
  resubscribedBit held set := absurd (inv.resubscribedBit held set).1 (by simp [down])
  bitsRead read := absurd (inv.bitsRead read).1 (by simp [down])
  expected := inv.expected
  evident := inv.evident
  bounded := Nat.le_succ_of_le inv.bounded
  baseline held connecting := by
    have counted := inv.baseline held connecting
    have wraps : (s.carrier.connectCount + 1).toNat ≤ s.carrier.connectCount.toNat + 1 := by
      rw [BitVec.toNat_add]
      exact Nat.mod_le ..
    simp only [MqttSystem.connected]
    omega

theorem disconnected (inv : s.RecoveryInv) (task : s.task = .idle)
    (unread : s.app.kind.bitsRead = false) : s.disconnected.RecoveryInv where
  client := inv.client
  busy busy := absurd task busy
  outstanding sent := absurd rfl sent
  connectedBit _ set := nomatch set
  resubscribedBit _ set := nomatch set
  bitsRead read := absurd read (by simpa [MqttSystem.disconnected] using unread)
  expected := inv.expected
  evident := inv.evident
  bounded := inv.bounded
  baseline := inv.baseline

theorem subscribed (inv : s.RecoveryInv) (index : Nat) {message : SentSubscribe}
    (sent : s.connection.outstanding[index]? = some message) :
    (s.subscribed index message).RecoveryInv := by
  have right := inv.outstanding (List.ne_nil_of_mem (List.mem_of_getElem? sent))
  have kept : s.Resubscribed → (s.subscribed index message).Resubscribed :=
    fun all filter inside => List.mem_append_left _ (all filter inside)
  exact {
    client := inv.client
    busy := fun _ => right
    outstanding := fun _ => right
    connectedBit := inv.connectedBit
    resubscribedBit := fun held set =>
      have before := inv.resubscribedBit held set
      ⟨before.1, fun other => kept (before.2 other)⟩
    bitsRead := fun read =>
      have before := inv.bitsRead read
      ⟨before.1, kept before.2⟩
    expected := inv.expected
    evident := inv.evident
    bounded := inv.bounded
    baseline := inv.baseline }

theorem stepTask (inv : s.RecoveryInv) {answer : Bool}
    (evidence : s.task.settingResubscribed = true → s.Resubscribed)
    (taken : s.stepTask answer = some t) : t.RecoveryInv := by
  have busy : s.task ≠ .idle := by
    intro idle
    simp only [MqttSystem.stepTask, idle] at taken
    cases taken
  have right := inv.busy busy
  cases task : s.task with
  | idle => exact absurd task busy
  | connectedSet connectCount =>
      simp only [MqttSystem.stepTask, task] at taken
      cases taken
      exact { inv with
        busy := fun _ => right
        connectedBit := fun _ _ => right.2 }
  | connectedClear =>
      simp only [MqttSystem.stepTask, task] at taken
      cases taken
      exact { inv with
        busy := fun _ => right
        resubscribedBit := fun _ set => absurd set Bool.false_ne_true }
  | connectedReset | connectedCopy | subscribedLoad _ =>
      simp only [MqttSystem.stepTask, task] at taken
      cases taken
      exact { inv with busy := fun _ => right }
  | subscribedSet =>
      simp only [MqttSystem.stepTask, task] at taken
      cases taken
      exact { inv with
        busy := fun _ => right
        resubscribedBit := fun _ _ => ⟨right.2, fun _ => evidence (by rw [task]; rfl)⟩ }
  | resubscribing rest =>
      cases rest with
      | nil =>
          simp only [MqttSystem.stepTask, task] at taken
          cases taken
          exact inv.moveTask busy _
      | cons filter rest =>
          simp only [MqttSystem.stepTask, task] at taken
          cases taken
          split
          · exact (inv.send right.1 _).moveTask (by rw [task_send]; exact busy) _
          · exact inv.moveTask busy _

end RecoveryInv

/-! ## Runs -/

theorem RecoveryInv.next {label : MqttLabel} (inv : s.RecoveryInv) (evidence : s.TrueEvidence label)
    (taken : s.next bounds label = some t) : t.RecoveryInv := by
  cases label with
  | connectWait start =>
      simp only [MqttSystem.next] at taken
      split at taken <;> cases taken
      rename_i idle client
      exact inv.connectWait idle client start
  | subscribeWait topic =>
      simp only [MqttSystem.next] at taken
      split at taken <;> cases taken
      rename_i idle
      exact inv.subscribeWait idle topic
  | unsubscribe topic =>
      simp only [MqttSystem.next, MqttSystem.unsubscribe] at taken
      split at taken <;> cases taken
      rename_i idle
      split
      · rename_i admitted
        exact inv.goSilent _ (fun _ => admitted.1) (by simp [idle, AppPhase.kind])
          (by simp [idle, AppPhase.kind]) rfl rfl
      · exact inv
  | reconnectWait networkActive =>
      simp only [MqttSystem.next, MqttSystem.reconnectWait] at taken
      split at taken <;> cases taken
      rename_i idle
      split
      · rename_i admitted
        refine inv.go _ (fun _ => admitted.1) (fun _ => by simp [idle, AppPhase.kind])
          (fun _ => by simp [idle, AppPhase.kind])
          (fun read => absurd read Bool.false_ne_true) fun expected inside => ?_
        cases inside
        exact Wrapping.toNat_succ evidence
      · exact inv
  | disconnect =>
      simp only [MqttSystem.next] at taken
      split at taken <;> cases taken
      rename_i idle
      exact inv.disconnect idle
  | app answer => exact inv.stepApp taken
  | connected =>
      simp only [MqttSystem.next] at taken
      split at taken <;> cases taken
      rename_i client down
      exact inv.connected client down
  | disconnected =>
      simp only [MqttSystem.next] at taken
      split at taken <;> cases taken
      rename_i task client
      exact inv.disconnected task evidence
  | subscribed index =>
      simp only [MqttSystem.next] at taken
      split at taken <;> cases taken
      rename_i message _ found
      exact inv.subscribed index found
  | task answer => exact inv.stepTask evidence taken

/-- In every run that meets the conditions of `TrueEvidence`, every `reconnect_wait`
that returned 1 found the connection up and every filter of the table acknowledged
on it, and no more calls returned 1 than connections were made since the last
successful `connect_wait`. -/
theorem recovered_of_run {labels : List MqttLabel}
    (run : Run (MqttSystem.next bounds) TrueEvidence .initial labels s) : s.Recovered := by
  have inv : s.RecoveryInv := run.invariant .initial fun inv evidence taken => inv.next evidence taken
  exact ⟨inv.evident, inv.bounded⟩

/-- `subscribe_wait` from its start to a return with its own acknowledgement, and the
handler of that acknowledgement after it. -/
def subscribedLabels (topic : List UInt8) : List MqttLabel :=
  subscribingLabels topic ++ [.subscribed 0] ++ List.replicate 3 (.app true) ++
    List.replicate 2 (.task true)

/-- The connection breaks and is made again; the handler resubscribes `filters` filters. -/
def reconnectingLabels (filters : Nat) : List MqttLabel :=
  [.disconnected, .connected] ++ List.replicate (5 + filters) (.task true)

/-- `reconnect_wait` finds what it waits for. -/
def recoveringLabels : List MqttLabel := .reconnectWait true :: List.replicate 6 (.app true)

theorem recovered_of_run_resubscribed : ∃ s : MqttSystem,
    s.recoveries = [⟨true, [[0x61]], [[0x61]]⟩] ∧ s.Recovered := by
  obtain ⟨s, run, seen⟩ := exists_run_of_exec
    (show (exec (MqttSystem.next smokeBounds) TrueEvidence .initial
      (connectingLabels ++ subscribedLabels [0x61] ++ reconnectingLabels 1 ++ [.subscribed 0] ++
        List.replicate 2 (.task true) ++ recoveringLabels)).map (fun s =>
          decide (s.recoveries = [⟨true, [[0x61]], [[0x61]]⟩])) = some true by decide)
  exact ⟨s, of_decide_eq_true seen, recovered_of_run run⟩

/-- After a reconnect with `a` and `b` in the table, `a` is acknowledged, subscribed
once more and acknowledged again: two acknowledgements for two filters, and the call
returns 1 while `b` has none on this connection. -/
theorem second_acknowledgement_counts : ∃ (s : MqttSystem) (labels : List MqttLabel),
    Run (MqttSystem.next smokeBounds) unguarded .initial labels s ∧
      ∃ recovery ∈ s.recoveries, ∃ filter ∈ recovery.subscriptions,
        filter ∉ recovery.acknowledgedFilters := by
  obtain ⟨s, run, seen⟩ := exists_run_of_exec
    (show (exec (MqttSystem.next smokeBounds) unguarded .initial
      (connectingLabels ++ subscribedLabels [0x61] ++ subscribedLabels [0x62] ++
        reconnectingLabels 2 ++ [.subscribed 0, .task true] ++ subscribingLabels [0x61] ++
        [.subscribed 1] ++ List.replicate 3 (.app true) ++ List.replicate 2 (.task true) ++
        recoveringLabels)).map (fun s => decide (∃ recovery ∈ s.recoveries,
          ∃ filter ∈ recovery.subscriptions, filter ∉ recovery.acknowledgedFilters)) =
            some true by decide)
  exact ⟨s, _, run, of_decide_eq_true seen⟩

end MqttSystem
end AxolotyEmbedded.Mqtt
