import AxolotyEmbedded.Library.Interference
import AxolotyEmbedded.Library.Ownership
import AxolotyEmbedded.Library.Transition

/-!
The Wi-Fi lifecycle: one application thread calls `prepare`, `reconnect_wait` and
`cleanup`, and the event loop's task runs the two event handlers, one event at a time.
Each call of ESP-IDF, each access to an atomic and each operation on the event group is
one step, and any interleaving of the two is a run.
-/
namespace AxolotyEmbedded.Platform
open Transition

/-! ## The operations of ESP-IDF -/

inductive EspErr where
  | ok | nvsNoFreePages | nvsNewVersionFound | fail
  deriving DecidableEq, Repr

structure EventBits where
  ip : Bool
  wifiFail : Bool
  wifiStopped : Bool
  deriving DecidableEq, Repr

namespace EventBits

def none : EventBits := ⟨false, false, false⟩

def ipBit : EventBits := { none with ip := true }

def wifiFailBit : EventBits := { none with wifiFail := true }

def wifiStoppedBit : EventBits := { none with wifiStopped := true }

def union (a b : EventBits) : EventBits :=
  ⟨a.ip || b.ip, a.wifiFail || b.wifiFail, a.wifiStopped || b.wifiStopped⟩

def diff (a b : EventBits) : EventBits :=
  ⟨a.ip && !b.ip, a.wifiFail && !b.wifiFail, a.wifiStopped && !b.wifiStopped⟩

def meets (a mask : EventBits) : Bool :=
  a.ip && mask.ip || a.wifiFail && mask.wifiFail || a.wifiStopped && mask.wifiStopped

end EventBits

inductive NetworkResource where
  | eventLoop | eventGroup | stationNetif | wifiDriver | wifiHandler | ipHandler
  deriving DecidableEq, Repr

/-- What the application thread calls. `acquire` and `release` stand for the call that
creates, initializes or registers the resource and the one that undoes it. -/
inductive NetworkCall where
  | timerMilliseconds
  | transportNetworkPrepare | transportNetworkCleanup
  | nvsFlashInit | nvsFlashErase | netifInit
  | acquire (resource : NetworkResource) | release (resource : NetworkResource)
  | wifiSetMode | wifiSetConfig | wifiStart | wifiStop | wifiConnect | wifiDisconnect
  | wifiStaGetApInfo
  | clearBits (mask : EventBits)
  | waitBits (mask : EventBits) (clearOnExit : Bool) (milliseconds : UInt32)
  | storeRetryCount (value : UInt32)
  | storeForcedWifiDisconnect (value : Bool)
  | storeCleaningUp (value : Bool)
  | delay (milliseconds : UInt32)
  | logCleanupIncomplete (disconnect stop deinit disconnectReported stopReported : Bool)
  deriving DecidableEq, Repr

/-- A call whose result is only compared with `ESP_OK` or with a null pointer answers
whether it succeeded. -/
abbrev NetworkAnswer : NetworkCall → Type
  | .timerMilliseconds => UInt32
  | .nvsFlashInit => EspErr
  | .transportNetworkPrepare | .nvsFlashErase | .netifInit | .acquire _ | .wifiSetMode
  | .wifiSetConfig | .wifiStart | .wifiStop | .wifiConnect | .wifiDisconnect
  | .wifiStaGetApInfo => Bool
  | .waitBits _ _ _ => EventBits
  | .release _ | .transportNetworkCleanup | .clearBits _ | .storeRetryCount _
  | .storeForcedWifiDisconnect _ | .storeCleaningUp _ | .delay _
  | .logCleanupIncomplete _ _ _ _ _ => Unit

abbrev NetworkScript := Script NetworkAnswer

abbrev ask (made : NetworkCall) : NetworkScript (NetworkAnswer made) := Script.ask made

/-! ## The application thread -/

/-- The file's static variables that only the application thread uses. -/
structure NetworkStatics where
  networkEvents : Bool
  networkNetif : Bool
  eventLoopReady : Bool
  wifiInitialized : Bool
  wifiStarted : Bool
  wifiHandlerRegistered : Bool
  ipHandlerRegistered : Bool
  sessionEstablished : Bool
  overallStart : UInt32
  overallDeadlineMs : UInt32
  deriving DecidableEq, Repr

namespace NetworkStatics

def initial : NetworkStatics :=
  ⟨false, false, false, false, false, false, false, false, 0, 0⟩

/-- What the statics say is held. -/
def holds (statics : NetworkStatics) : NetworkResource → Bool
  | .eventLoop => statics.eventLoopReady
  | .eventGroup => statics.networkEvents
  | .stationNetif => statics.networkNetif
  | .wifiDriver => statics.wifiInitialized
  | .wifiHandler => statics.wifiHandlerRegistered
  | .ipHandler => statics.ipHandlerRegistered

end NetworkStatics

/-- `network_deadline`, at a time in milliseconds. -/
def networkDeadline (now start timeout : UInt32) : Bool := now - start < timeout

/-- `network_wait_ticks`, in milliseconds. -/
def networkWaitMs (now start timeout maximumWaitMs : UInt32) : UInt32 :=
  let elapsed := now - start
  if timeout ≤ elapsed then 0
  else
    let remaining := timeout - elapsed
    if remaining < maximumWaitMs then remaining else maximumWaitMs

def networkDeadlineRemainingMs (statics : NetworkStatics) : NetworkScript UInt32 := do
  if !statics.networkEvents then return 0
  else
    let elapsed := (← ask .timerMilliseconds) - statics.overallStart
    if statics.overallDeadlineMs ≤ elapsed then return 0
    else return statics.overallDeadlineMs - elapsed

def networkCleanupBudgetMs : UInt32 := 2000

def cleanupBudget (statics : NetworkStatics) : NetworkScript UInt32 := do
  if statics.sessionEstablished then return networkCleanupBudgetMs
  else
    let remaining ← networkDeadlineRemainingMs statics
    if remaining < networkCleanupBudgetMs then return remaining
    else return networkCleanupBudgetMs

/-- `xEventGroupWaitBits` with the time that is left of a budget. -/
def waitWithin (mask : EventBits) (clearOnExit : Bool) (start timeout maximumWaitMs : UInt32) :
    NetworkScript EventBits := do
  let now ← ask .timerMilliseconds
  ask (.waitBits mask clearOnExit (networkWaitMs now start timeout maximumWaitMs))

/-- Whether the driver reports `report` within the budget. -/
def awaitReport (report : EventBits) (start budget : UInt32) : NetworkScript Bool := do
  let seen ← waitWithin report false start budget budget
  return seen.meets report

/-- A part that runs under a condition, with the value that stands without it. -/
def onlyIf {α : Type} (condition : Bool) (part : NetworkScript α) (otherwise : α) :
    NetworkScript α :=
  if condition then part else pure otherwise

/-- The driver is asked to disconnect and to stop, and its reports are awaited: whether
each request was taken and whether each report came. -/
def stopDriver (statics : NetworkStatics) (start budget : UInt32) :
    NetworkScript (Bool × Bool × Bool × Bool) := do
  let wasAssociated ←
    onlyIf (statics.wifiStarted && statics.networkEvents) (ask .wifiStaGetApInfo) false
  let disconnect ← onlyIf statics.wifiStarted (ask .wifiDisconnect) true
  let disconnectReported ←
    onlyIf (wasAssociated && disconnect) (awaitReport .wifiFailBit start budget) true
  let stop ← onlyIf statics.wifiStarted (ask .wifiStop) true
  let stopReported ←
    onlyIf (statics.wifiStarted && statics.networkEvents && stop)
      (awaitReport .wifiStoppedBit start budget) true
  return (disconnect, stop, disconnectReported, stopReported)

/-- A release that is made only when the static says that the resource is held. -/
def releaseIf (held : Bool) (resource : NetworkResource) : NetworkScript Unit :=
  onlyIf held (ask (.release resource)) ()

/-- What the statics say is held, in the order in which it is given back. -/
def releaseAll (statics : NetworkStatics) : NetworkScript Unit := do
  releaseIf statics.wifiHandlerRegistered .wifiHandler
  releaseIf statics.ipHandlerRegistered .ipHandler
  releaseIf statics.wifiInitialized .wifiDriver
  releaseIf statics.networkNetif .stationNetif
  releaseIf statics.eventLoopReady .eventLoop
  releaseIf statics.networkEvents .eventGroup

/-- The statics after a cleanup: only the times stay. -/
def cleanedUp (statics : NetworkStatics) : NetworkStatics :=
  { NetworkStatics.initial with
    overallStart := statics.overallStart
    overallDeadlineMs := statics.overallDeadlineMs }

/-- `axoloty_network_cleanup` of a configured build. Releases succeed, so `deinit` does. -/
def networkCleanup (statics : NetworkStatics) : NetworkScript (UInt32 × NetworkStatics) := do
  let start ← ask .timerMilliseconds
  let budget ← cleanupBudget statics
  ask (.storeCleaningUp true)
  onlyIf statics.networkEvents
    (ask (.clearBits (EventBits.wifiFailBit.union .wifiStoppedBit))) ()
  let (disconnect, stop, disconnectReported, stopReported) ← stopDriver statics start budget
  releaseAll statics
  ask (.storeRetryCount 0)
  ask (.storeForcedWifiDisconnect false)
  ask (.storeCleaningUp false)
  ask .transportNetworkCleanup
  let complete := disconnect && stop && disconnectReported && stopReported
  onlyIf (!complete)
    (ask (.logCleanupIncomplete disconnect stop true disconnectReported stopReported)) ()
  return (if complete then 1 else 0, cleanedUp statics)

/-- `nvs_flash_init`, and once more after an erase where the pages are used up. -/
def flashReady : NetworkScript Bool := do
  let err ← ask .nvsFlashInit
  if err = .nvsNoFreePages ∨ err = .nvsNewVersionFound then
    if !(← ask .nvsFlashErase) then return false
    else
      let err ← ask .nvsFlashInit
      return decide (err = .ok)
  else return decide (err = .ok)

/-- The acquisitions after the event loop's, up to the registration of the handlers:
whether all succeeded, and the statics that say which did. -/
def acquireAll (statics : NetworkStatics) : NetworkScript (Bool × NetworkStatics) := do
  let events ← ask (.acquire .eventGroup)
  let statics := { statics with networkEvents := events }
  if !events then return (false, statics)
  else
    let netif ← ask (.acquire .stationNetif)
    let statics := { statics with networkNetif := netif }
    if !netif then return (false, statics)
    else if !(← ask (.acquire .wifiDriver)) then return (false, statics)
    else
      let statics := { statics with wifiInitialized := true }
      if !(← ask (.acquire .wifiHandler)) then return (false, statics)
      else
        let statics := { statics with wifiHandlerRegistered := true }
        if !(← ask (.acquire .ipHandler)) then return (false, statics)
        else return (true, { statics with ipHandlerRegistered := true })

/-- The station is configured and started, and its address awaited: whether the wait for
the address began, and whether it came in time. -/
def startStation (start overallDeadlineMs : UInt32) : NetworkScript (Bool × Bool) := do
  if !(← ask .wifiSetMode) then return (false, false)
  else if !(← ask .wifiSetConfig) then return (false, false)
  else if !(← ask .wifiStart) then return (false, false)
  else
    let bits ← waitWithin (EventBits.wifiFailBit.union .ipBit) false start overallDeadlineMs 30000
    if !bits.meets .ipBit then return (true, false)
    else return (true, networkDeadline (← ask .timerMilliseconds) start overallDeadlineMs)

/-- From the event loop to the label `network_prepare_failed`: whether the session came
up. -/
def bringUp (start overallDeadlineMs : UInt32) (statics : NetworkStatics) :
    NetworkScript (Bool × NetworkStatics) := do
  let (acquired, statics) ← acquireAll statics
  if !acquired then return (false, statics)
  else
    let (started, established) ← startStation start overallDeadlineMs
    return (established,
      { statics with wifiStarted := started, sessionEstablished := established })

def networkPrepare (overallDeadlineMs : UInt32) (statics : NetworkStatics) :
    NetworkScript (UInt32 × NetworkStatics) := do
  let start ← ask .timerMilliseconds
  let statics : NetworkStatics :=
    { statics with
      overallStart := start
      overallDeadlineMs := overallDeadlineMs
      eventLoopReady := false
      wifiInitialized := false
      wifiStarted := false
      wifiHandlerRegistered := false
      ipHandlerRegistered := false
      sessionEstablished := false }
  ask (.storeRetryCount 0)
  ask (.storeForcedWifiDisconnect false)
  ask (.storeCleaningUp false)
  if !(← ask .transportNetworkPrepare) then return (0, statics)
  else if !(← flashReady) then return (0, statics)
  else if !(← ask .netifInit) then return (0, statics)
  else if !(← ask (.acquire .eventLoop)) then return (0, statics)
  else
    let (established, statics) ←
      bringUp start overallDeadlineMs { statics with eventLoopReady := true }
    if established then return (3, statics)
    else
      let (_, statics) ← networkCleanup statics
      return (0, statics)

/-- `axoloty_network_reconnect_wait` of a configured build, which assigns no static that
only this thread uses. -/
def networkReconnectWait (deadlineMs : UInt32) (statics : NetworkStatics) :
    NetworkScript UInt32 := do
  if !statics.wifiStarted || !statics.networkEvents then return 0
  else
    let start ← ask .timerMilliseconds
    ask (.clearBits (EventBits.wifiFailBit.union .ipBit))
    ask (.storeForcedWifiDisconnect true)
    if !(← ask .wifiDisconnect) then
      ask (.storeForcedWifiDisconnect false)
      return 0
    else
      let disconnected ← waitWithin .wifiFailBit true start deadlineMs 5000
      ask (.storeForcedWifiDisconnect false)
      if !disconnected.meets .wifiFailBit then return 0
      else
        ask (.delay 500)
        if !(← ask .wifiConnect) then return 0
        else
          let connected ←
            waitWithin (EventBits.wifiFailBit.union .ipBit) false start deadlineMs 30000
          if !connected.meets .ipBit then return 0
          else if !networkDeadline (← ask .timerMilliseconds) start deadlineMs then return 0
          else if !networkDeadline (← ask .timerMilliseconds) statics.overallStart
              statics.overallDeadlineMs then return 0
          else return 3

/-! ## The event handlers -/

inductive WifiEvent where
  | staStart | staStop | staDisconnected | other
  deriving DecidableEq, Repr

/-- An event for which one of the two handlers is registered. -/
inductive NetworkEvent where
  | wifi (id : WifiEvent)
  | staGotIp
  deriving DecidableEq, Repr

def NetworkEvent.handler : NetworkEvent → NetworkResource
  | .wifi _ => .wifiHandler
  | .staGotIp => .ipHandler

inductive HandlerCall where
  | loadCleaningUp | loadForcedWifiDisconnect | loadRetryCount
  | storeRetryCount (value : UInt32) | addRetryCount
  | setBits (mask : EventBits)
  | wifiConnect
  deriving DecidableEq, Repr

abbrev HandlerAnswer : HandlerCall → Type
  | .loadCleaningUp | .loadForcedWifiDisconnect => Bool
  | .loadRetryCount => UInt32
  | .storeRetryCount _ | .addRetryCount | .setBits _ | .wifiConnect => Unit

abbrev HandlerScript := Script HandlerAnswer

abbrev askHandler (made : HandlerCall) : HandlerScript (HandlerAnswer made) := Script.ask made

def networkIpEvent : HandlerScript Unit := do
  askHandler (.storeRetryCount 0)
  askHandler (.setBits .ipBit)

/-- The last branches of `network_wifi_event`: a disconnect that no teardown asked for. -/
def networkDisconnected : HandlerScript Unit := do
  if (← askHandler .loadForcedWifiDisconnect) then askHandler (.setBits .wifiFailBit)
  else if (← askHandler .loadRetryCount) < 5 then
    askHandler .addRetryCount
    askHandler .wifiConnect
  else askHandler (.setBits .wifiFailBit)

/-- `network_wifi_event`, once it knows whether a cleanup is under way. -/
def networkWifiBranch (id : WifiEvent) (cleaningUp : Bool) : HandlerScript Unit :=
  if cleaningUp then
    if id = .staDisconnected then askHandler (.setBits .wifiFailBit) else pure ()
  else if id = .staStart then askHandler .wifiConnect
  else if id = .staDisconnected then networkDisconnected
  else pure ()

def networkWifiEvent (id : WifiEvent) : HandlerScript Unit :=
  if id = .staStop then askHandler (.setBits .wifiStoppedBit)
  else do networkWifiBranch id (← askHandler .loadCleaningUp)

def NetworkEvent.run : NetworkEvent → HandlerScript Unit
  | .wifi id => networkWifiEvent id
  | .staGotIp => networkIpEvent

/-! ## State -/

/-- A handler under way: the event, what is left to do, and whether it began after a
cleanup had set its flag. -/
structure HandlerRun where
  event : NetworkEvent
  script : HandlerScript Unit
  afterFlag : Bool

/-- What both threads reach. `ledger` lists the acquisitions and releases, `tearing` says
that a cleanup has set its flag since the last bring-up began, `lateConnects` counts the
`esp_wifi_connect` calls of handlers that began after that, `handled` lists the events
handled since the last call of the application began, and `cleared` says that this call has
cleared `IP_BIT`. -/
structure NetworkShared where
  retryCount : UInt32
  forcedWifiDisconnect : Bool
  cleaningUp : Bool
  bits : EventBits
  live : NetworkResource → Bool
  handler : Option HandlerRun
  ledger : List (OwnershipEvent NetworkResource)
  tearing : Bool
  lateConnects : Nat
  handled : List NetworkEvent
  cleared : Bool

/-- After boot. -/
def NetworkShared.initial : NetworkShared where
  retryCount := 0
  forcedWifiDisconnect := false
  cleaningUp := false
  bits := .none
  live := fun _ => false
  handler := none
  ledger := []
  tearing := false
  lateConnects := 0
  handled := []
  cleared := false

/-- What a call of ESP-IDF comes to, where the model does not determine it. -/
inductive Outcome where
  | returns
  | success (success : Bool)
  | err (err : EspErr)
  | time (milliseconds : UInt32)
  deriving DecidableEq, Repr

namespace NetworkShared
variable (s : NetworkShared)

def acquire (resource : NetworkResource) : NetworkShared :=
  { s with
    live := Function.update s.live resource true
    ledger := s.ledger ++ [.created resource]
    bits := if resource = .eventGroup then .none else s.bits }

def release (resource : NetworkResource) : NetworkShared :=
  { s with
    live := Function.update s.live resource false
    ledger := s.ledger ++ [.givenUp resource] }

/-- The handler that is running is the one registered as this resource. -/
def running (resource : NetworkResource) : Bool :=
  s.handler.any fun run => run.event.handler = resource

end NetworkShared

/-- One step of the application thread. A wait answers the bits at the moment it returns,
and unregistering a handler waits until that handler is idle. -/
def perform : (made : NetworkCall) → Outcome → NetworkShared →
    Option (NetworkAnswer made × NetworkShared)
  | .timerMilliseconds, .time now, s => some (now, s)
  | .transportNetworkPrepare, .success success, s => some (success, s)
  | .transportNetworkCleanup, .returns, s => some ((), s)
  | .nvsFlashInit, .err err, s => some (err, s)
  | .nvsFlashErase, .success success, s => some (success, s)
  | .netifInit, .success success, s => some (success, s)
  | .acquire resource, .success success, s =>
      some (success, if success then s.acquire resource else s)
  | .release resource, .returns, s =>
      if s.running resource then none else some ((), s.release resource)
  | .wifiSetMode, .success success, s => some (success, s)
  | .wifiSetConfig, .success success, s => some (success, s)
  | .wifiStart, .success success, s => some (success, s)
  | .wifiStop, .success success, s => some (success, s)
  | .wifiConnect, .success success, s => some (success, s)
  | .wifiDisconnect, .success success, s => some (success, s)
  | .wifiStaGetApInfo, .success success, s => some (success, s)
  | .clearBits mask, .returns, s =>
      some ((), { s with bits := s.bits.diff mask, cleared := s.cleared || mask.ip })
  | .waitBits mask clearOnExit _, .returns, s =>
      some (s.bits, { s with bits := if clearOnExit then s.bits.diff mask else s.bits })
  | .storeRetryCount value, .returns, s => some ((), { s with retryCount := value })
  | .storeForcedWifiDisconnect value, .returns, s =>
      some ((), { s with forcedWifiDisconnect := value })
  | .storeCleaningUp value, .returns, s =>
      some ((), { s with cleaningUp := value, tearing := s.tearing || value })
  | .delay _, .returns, s => some ((), s)
  | .logCleanupIncomplete _ _ _ _ _, .returns, s => some ((), s)
  | _, _, _ => none

/-- A handler that is unregistered is idle. -/
theorem perform_release {resource : NetworkResource} {outcome : Outcome}
    {answer : NetworkAnswer (.release resource)} {s s' : NetworkShared}
    (taken : perform (.release resource) outcome s = some (answer, s')) :
    s.running resource = false ∧ s' = s.release resource := by
  cases outcome with
  | returns =>
      have taken : (if s.running resource then none else some ((), s.release resource)) =
          some (answer, s') := taken
      split at taken
      · cases taken
      · rename_i idle
        cases taken
        exact ⟨Bool.eq_false_iff.mpr idle, rfl⟩
  | _ => cases taken

def performHandler (afterFlag : Bool) (s : NetworkShared) :
    (made : HandlerCall) → HandlerAnswer made × NetworkShared
  | .loadCleaningUp => (s.cleaningUp, s)
  | .loadForcedWifiDisconnect => (s.forcedWifiDisconnect, s)
  | .loadRetryCount => (s.retryCount, s)
  | .storeRetryCount value => ((), { s with retryCount := value })
  | .addRetryCount => ((), { s with retryCount := s.retryCount + 1 })
  | .setBits mask => ((), { s with bits := s.bits.union mask })
  | .wifiConnect => ((), { s with lateConnects := s.lateConnects + afterFlag.toNat })

namespace NetworkShared
variable (s : NetworkShared)

/-- The event loop's task takes an event for which a handler is registered. -/
def beginEvent (event : NetworkEvent) : Option NetworkShared :=
  if s.handler.isNone && s.live event.handler then
    some { s with handler := some ⟨event, event.run, s.tearing⟩ }
  else none

def stepHandler : Option NetworkShared :=
  match s.handler with
  | some ⟨event, .call made next, afterFlag⟩ =>
      let (answer, s) := performHandler afterFlag s made
      match next answer with
      | .done _ => some { s with handler := none, handled := s.handled ++ [event] }
      | rest => some { s with handler := some ⟨event, rest, afterFlag⟩ }
  | _ => none

variable {s}

theorem beginEvent_eq_some {event : NetworkEvent} {s' : NetworkShared}
    (taken : s.beginEvent event = some s') :
    s.handler = none ∧ s.live event.handler = true ∧
      s' = { s with handler := some ⟨event, event.run, s.tearing⟩ } := by
  rw [beginEvent] at taken
  split at taken
  · rename_i begins
    simp only [Bool.and_eq_true, Option.isNone_iff_eq_none] at begins
    exact ⟨begins.1, begins.2, (Option.some.inj taken).symm⟩
  · cases taken

/-- All that a step of a handler does. -/
theorem stepHandler_eq_some {s' : NetworkShared} (taken : s.stepHandler = some s') :
    ∃ event made next afterFlag, s.handler = some ⟨event, .call made next, afterFlag⟩ ∧
      (next (performHandler afterFlag s made).1 = .done () ∧
          s' = { (performHandler afterFlag s made).2 with
            handler := none
            handled := (performHandler afterFlag s made).2.handled ++ [event] } ∨
        (∀ value, next (performHandler afterFlag s made).1 ≠ .done value) ∧
          s' = { (performHandler afterFlag s made).2 with
            handler := some ⟨event, next (performHandler afterFlag s made).1, afterFlag⟩ }) := by
  cases runs : s.handler with
  | none => simp [stepHandler, runs] at taken
  | some run =>
      obtain ⟨event, script, afterFlag⟩ := run
      cases script with
      | done value => simp [stepHandler, runs] at taken
      | call made next =>
          refine ⟨event, made, next, afterFlag, rfl, ?_⟩
          simp only [stepHandler, runs] at taken
          cases rest : next (performHandler afterFlag s made).1 with
          | done value =>
              rw [rest] at taken
              exact .inl ⟨rfl, (Option.some.inj taken).symm⟩
          | call made' next' =>
              rw [rest] at taken
              exact .inr ⟨nofun, (Option.some.inj taken).symm⟩

end NetworkShared

inductive NetworkFunction where
  | prepare | reconnectWait | cleanup
  deriving DecidableEq, Repr

structure NetworkActivity where
  function : NetworkFunction
  script : NetworkScript (UInt32 × NetworkStatics)

/-- A call that has returned, with the events handled while it ran. -/
structure NetworkReturn where
  function : NetworkFunction
  value : UInt32
  handled : List NetworkEvent
  deriving DecidableEq, Repr

/-- `returned` lists the calls that have returned, the last one first. -/
structure NetworkSystem where
  statics : NetworkStatics
  shared : NetworkShared
  app : Option NetworkActivity
  returned : List NetworkReturn

inductive NetworkLabel where
  | call (function : NetworkFunction) (deadlineMs : UInt32)
  | step (outcome : Outcome)
  | finish
  | event (event : NetworkEvent)
  | handler
  deriving DecidableEq, Repr

namespace NetworkSystem

/-- After boot. -/
def initial : NetworkSystem := ⟨.initial, .initial, none, []⟩

/-- What a call runs: in a build without a network configuration it returns 0 at once. -/
def body (configured : Bool) (statics : NetworkStatics) (deadlineMs : UInt32) :
    NetworkFunction → NetworkScript (UInt32 × NetworkStatics)
  | .prepare => if configured then networkPrepare deadlineMs statics else pure (0, statics)
  | .reconnectWait =>
      if configured then do return (← networkReconnectWait deadlineMs statics, statics)
      else pure (0, statics)
  | .cleanup => if configured then networkCleanup statics else pure (0, statics)

variable (s : NetworkSystem)

def call (configured : Bool) (function : NetworkFunction) (deadlineMs : UInt32) :
    Option NetworkSystem :=
  if s.app.isNone then
    some { s with
      app := some ⟨function, body configured s.statics deadlineMs function⟩
      shared := { s.shared with
        tearing := s.shared.tearing && decide (function ≠ .prepare)
        handled := []
        cleared := false } }
  else none

def stepApp (outcome : Outcome) : Option NetworkSystem :=
  match s.app with
  | some ⟨function, .call made next⟩ =>
      (perform made outcome s.shared).map fun (answer, shared) =>
        { s with app := some ⟨function, next answer⟩, shared }
  | _ => none

def finish : Option NetworkSystem :=
  match s.app with
  | some ⟨function, .done (value, statics)⟩ =>
      some { s with
        app := none
        statics
        returned := ⟨function, value, s.shared.handled⟩ :: s.returned }
  | _ => none

def next (configured : Bool) (s : NetworkSystem) : NetworkLabel → Option NetworkSystem
  | .call function deadlineMs => s.call configured function deadlineMs
  | .step outcome => s.stepApp outcome
  | .finish => s.finish
  | .event event => (s.shared.beginEvent event).map fun shared => { s with shared }
  | .handler => s.shared.stepHandler.map fun shared => { s with shared }

/-- A bring-up in which every call succeeds and the address comes before the deadline. -/
def comesUp : List NetworkLabel :=
  [.call .prepare 10000, .step (.time 1000), .step .returns, .step .returns, .step .returns,
    .step (.success true), .step (.err .ok)] ++
  List.replicate 10 (.step (.success true)) ++
  [.event (.wifi .staStart), .handler, .handler,
    .event .staGotIp, .handler, .handler,
    .step (.time 1500), .step .returns, .step (.time 1500), .finish]

end NetworkSystem

end AxolotyEmbedded.Platform
