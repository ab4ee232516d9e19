import AxolotyEmbedded.Platform.NetworkBootstrap

/-!
What a bring-up acquires, a teardown gives back. The handlers touch none of the resources,
so that the application's scripts can be read in sequence: each of them keeps an account of
what is held, which the statics always state.
-/
namespace AxolotyEmbedded.Platform
open Transition

/-! ## What the handlers are held to -/

/-- No path of the handler calls `esp_wifi_connect`. -/
def NeverConnects : HandlerScript Unit → Prop
  | .done _ => True
  | .call made next => made ≠ .wifiConnect ∧ ∀ answer, NeverConnects (next answer)

/-- A handler that begins after a cleanup has set its flag connects never: it has read the
flag, or the flag still waits to be read. -/
structure Quiet (s : NetworkShared) : Prop where
  registered : ∀ run, s.handler = some run → s.live run.event.handler = true
  flagged : s.tearing = true → s.live .wifiHandler = true → s.cleaningUp = true
  late : ∀ run, s.handler = some run → run.afterFlag = true →
    NeverConnects run.script ∨
      run.script = run.event.run ∧ run.event.handler = .wifiHandler ∧ s.cleaningUp = true
  none : s.lateConnects = 0

theorem quiet_initial : Quiet .initial where
  registered := fun _ running => by cases running
  flagged := fun tearing => by cases tearing
  late := fun _ running => by cases running
  none := rfl

theorem neverConnects_networkIpEvent : NeverConnects networkIpEvent :=
  ⟨by decide, fun _ => ⟨by decide, fun _ => trivial⟩⟩

theorem neverConnects_networkWifiBranch (id : WifiEvent) :
    NeverConnects (networkWifiBranch id true) := by
  rw [networkWifiBranch, if_pos rfl]
  split
  · exact ⟨by decide, fun _ => trivial⟩
  · trivial

/-- A handler that reads the flag while it is set goes on without a connect. -/
theorem neverConnects_of_flag {event : NetworkEvent} {made : HandlerCall}
    {next : HandlerAnswer made → HandlerScript Unit} (begins : event.run = .call made next)
    (wifi : event.handler = .wifiHandler) (s : NetworkShared) (flag : s.cleaningUp = true)
    (afterFlag : Bool) :
    made ≠ .wifiConnect ∧ NeverConnects (next (performHandler afterFlag s made).1) := by
  cases event with
  | staGotIp => cases wifi
  | wifi id =>
      by_cases stop : id = .staStop
      · simp only [NetworkEvent.run, networkWifiEvent, if_pos stop] at begins
        cases begins
        exact ⟨by decide, trivial⟩
      · simp only [NetworkEvent.run, networkWifiEvent, if_neg stop] at begins
        cases begins
        refine ⟨by decide, ?_⟩
        rw [performHandler, flag]
        exact neverConnects_networkWifiBranch id

/-- What the handlers leave alone. -/
def HandlersRely (s s' : NetworkShared) : Prop :=
  s'.live = s.live ∧ s'.ledger = s.ledger ∧ s'.tearing = s.tearing

theorem HandlersRely.refl (s : NetworkShared) : HandlersRely s s := ⟨rfl, rfl, rfl⟩

theorem HandlersRely.trans (a b c : NetworkShared) (first : HandlersRely a b)
    (second : HandlersRely b c) : HandlersRely a c :=
  ⟨second.1.trans first.1, second.2.1.trans first.2.1, second.2.2.trans first.2.2⟩

/-- An operation of a handler, apart from the count of late connects. -/
theorem performHandler_frame (afterFlag : Bool) (s : NetworkShared) (made : HandlerCall) :
    HandlersRely s (performHandler afterFlag s made).2 ∧
      (performHandler afterFlag s made).2.handler = s.handler ∧
      (performHandler afterFlag s made).2.cleaningUp = s.cleaningUp ∧
      (made ≠ .wifiConnect ∨ afterFlag = false →
        (performHandler afterFlag s made).2.lateConnects = s.lateConnects) := by
  cases made <;> cases afterFlag <;> simp [performHandler, HandlersRely]

theorem beginEvent_quiet {s s' : NetworkShared} {event : NetworkEvent} (quiet : Quiet s)
    (taken : s.beginEvent event = some s') : Quiet s' ∧ HandlersRely s s' := by
  obtain ⟨-, live, rfl⟩ := NetworkShared.beginEvent_eq_some taken
  refine ⟨⟨?_, quiet.flagged, ?_, quiet.none⟩, .refl s⟩
  · rintro run ⟨⟩
    exact live
  · rintro run ⟨⟩ afterFlag
    cases event with
    | wifi id => exact .inr ⟨rfl, rfl, quiet.flagged afterFlag live⟩
    | staGotIp => exact .inl neverConnects_networkIpEvent

theorem stepHandler_quiet {s s' : NetworkShared} (quiet : Quiet s)
    (taken : s.stepHandler = some s') : Quiet s' ∧ HandlersRely s s' := by
  obtain ⟨event, made, next, afterFlag, runs, outcome⟩ :=
    NetworkShared.stepHandler_eq_some taken
  obtain ⟨⟨live, ledger, tearing⟩, handler, cleaningUp, connects⟩ :=
    performHandler_frame afterFlag s made
  -- A late handler's operation is no connect, and what is left of it makes none.
  have late : afterFlag = true → made ≠ .wifiConnect ∧
      NeverConnects (next (performHandler afterFlag s made).1) := by
    intro afterFlag'
    cases quiet.late _ runs afterFlag' with
    | inl never => exact ⟨never.1, never.2 _⟩
    | inr fresh => exact neverConnects_of_flag fresh.1.symm fresh.2.1 s fresh.2.2 afterFlag
  have none : (performHandler afterFlag s made).2.lateConnects = 0 := by
    rw [connects, quiet.none]
    cases afterFlag with
    | true => exact .inl (late rfl).1
    | false => exact .inr rfl
  have registered := quiet.registered _ runs
  have flagged := quiet.flagged
  rw [← live] at registered
  rw [← live, ← tearing, ← cleaningUp] at flagged
  cases outcome with
  | inl ends =>
      obtain ⟨-, rfl⟩ := ends
      refine ⟨⟨?_, flagged, ?_, none⟩, live, ledger, tearing⟩
      · rintro run ⟨⟩
      · rintro run ⟨⟩
  | inr goesOn =>
      obtain ⟨-, rfl⟩ := goesOn
      refine ⟨⟨?_, flagged, ?_, none⟩, live, ledger, tearing⟩
      · rintro run ⟨⟩
        exact registered
      · rintro run ⟨⟩ afterFlag'
        exact .inl (late afterFlag').2

/-! ## What the application thread does -/

/-- The calls that neither acquire nor release and leave the flag alone. -/
def NetworkCall.leavesResources : NetworkCall → Bool
  | .acquire _ | .release _ | .storeCleaningUp _ => false
  | _ => true

theorem perform_frame {made : NetworkCall} (leaves : made.leavesResources = true)
    {outcome : Outcome} {answer : NetworkAnswer made} {s s' : NetworkShared}
    (taken : perform made outcome s = some (answer, s')) :
    HandlersRely s s' ∧ s'.handler = s.handler ∧ s'.cleaningUp = s.cleaningUp ∧
      s'.lateConnects = s.lateConnects := by
  cases made <;> cases leaves <;> cases outcome <;> cases taken <;>
    exact ⟨⟨rfl, rfl, rfl⟩, rfl, rfl, rfl⟩

def KeepsQuiet (s s' : NetworkShared) : Prop := Quiet s → Quiet s'

/-- The resources that are held, the acquisitions and releases that led there, and whether
a cleanup has set its flag. -/
structure Accounts (held : NetworkResource → Bool) (tearing : Bool) (s : NetworkShared) : Prop where
  live : s.live = held
  settled : settle (fun _ => false) s.ledger = some held
  tearing : s.tearing = tearing

variable {held : NetworkResource → Bool} {tearing : Bool}

theorem stable_accounts : Script.Stable HandlersRely (Accounts held tearing) := by
  rintro s s' ⟨live, ledger, tears⟩ accounts
  exact ⟨live.trans accounts.live, ledger ▸ accounts.settled, tears.trans accounts.tearing⟩

/-- What a script of the application does, whatever the handlers do meanwhile. -/
abbrev Does {α : Type} (script : NetworkScript α) (post : α → NetworkShared → Prop)
    (s : NetworkShared) : Prop :=
  Script.Ensures perform HandlersRely KeepsQuiet script post s

theorem does_leaves {made : NetworkCall} (leaves : made.leavesResources = true)
    {s : NetworkShared} (accounts : Accounts held tearing s) :
    Does (ask made) (fun _ => Accounts held tearing) s := by
  refine Script.ensures_ask stable_accounts ?_ accounts
  intro s outcome answer s' accounts taken
  obtain ⟨rely, handler, cleaningUp, connects⟩ := perform_frame leaves taken
  refine ⟨fun quiet => ⟨?_, ?_, ?_, connects.trans quiet.none⟩, stable_accounts s s' rely accounts⟩
  · rw [handler, rely.1]
    exact quiet.registered
  · rw [rely.1, rely.2.2, cleaningUp]
    exact quiet.flagged
  · rw [handler, cleaningUp]
    exact quiet.late

/-- A resource is acquired by a bring-up, before any flag of a cleanup. -/
theorem does_acquire (resource : NetworkResource) (free : held resource = false)
    {s : NetworkShared} (accounts : Accounts held false s) :
    Does (ask (.acquire resource))
      (fun acquired => Accounts (Function.update held resource acquired) false) s := by
  refine Script.ensures_ask stable_accounts ?_ accounts
  intro s outcome answer s' accounts taken
  cases outcome with
  | success acquired =>
      cases acquired with
      | false =>
          cases taken
          rw [Function.update_eq_self_iff.mpr free.symm]
          exact ⟨id, accounts⟩
      | true =>
          cases taken
          refine ⟨fun quiet => ⟨?_, ?_, quiet.late, quiet.none⟩, ?_, ?_, accounts.tearing⟩
          · intro run running
            have live := quiet.registered run running
            by_cases same : run.event.handler = resource <;>
              simp [NetworkShared.acquire, Function.update_apply, live]
          · intro tears
            cases accounts.tearing.symm.trans tears
          · simp [NetworkShared.acquire, accounts.live]
          · change settle _ (s.ledger ++ [.created resource]) = _
            rw [settle_append_of_eq accounts.settled, settle_created free, settle_nil]
  | _ => cases taken

/-- The handler that is unregistered is idle, so none runs that is not registered. -/
theorem does_release (resource : NetworkResource) (present : held resource = true)
    {s : NetworkShared} (accounts : Accounts held tearing s) :
    Does (ask (.release resource))
      (fun _ => Accounts (Function.update held resource false) tearing) s := by
  refine Script.ensures_ask stable_accounts ?_ accounts
  intro s outcome answer s' accounts taken
  obtain ⟨idle, rfl⟩ := perform_release taken
  refine ⟨fun quiet => ⟨?_, ?_, quiet.late, quiet.none⟩, ?_, ?_, accounts.tearing⟩
  · intro run running
    have differs : run.event.handler ≠ resource := by
      simpa [NetworkShared.running, show s.handler = some run from running] using idle
    simpa [NetworkShared.release, Function.update_of_ne differs] using
      quiet.registered run running
  · intro tears live
    refine quiet.flagged tears ?_
    by_cases same : NetworkResource.wifiHandler = resource
    · simp [NetworkShared.release, ← same] at live
    · simpa [NetworkShared.release, Function.update_of_ne same] using live
  · simp [NetworkShared.release, accounts.live]
  · change settle _ (s.ledger ++ [.givenUp resource]) = _
    rw [settle_append_of_eq accounts.settled, settle_givenUp present, settle_nil]

theorem does_releaseIf (resource : NetworkResource) {s : NetworkShared}
    (accounts : Accounts held tearing s) :
    Does (releaseIf (held resource) resource)
      (fun _ => Accounts (Function.update held resource false) tearing) s := by
  cases present : held resource with
  | true => exact does_release resource present accounts
  | false =>
      rw [Function.update_eq_self_iff.mpr present.symm]
      exact accounts

theorem does_setFlag {s : NetworkShared} (accounts : Accounts held tearing s) :
    Does (ask (.storeCleaningUp true)) (fun _ => Accounts held true) s := by
  refine Script.ensures_ask stable_accounts ?_ accounts
  intro s outcome answer s' accounts taken
  cases outcome <;> cases taken
  refine ⟨fun quiet => ⟨quiet.registered, fun _ _ => rfl, ?_, quiet.none⟩, accounts.live,
    accounts.settled, Bool.or_true _⟩
  intro run running afterFlag
  exact (quiet.late run running afterFlag).imp_right fun fresh => ⟨fresh.1, fresh.2.1, rfl⟩

/-- The flag is taken back only while no Wi-Fi handler is registered. -/
theorem does_clearFlag (unregistered : held .wifiHandler = false) {s : NetworkShared}
    (accounts : Accounts held tearing s) :
    Does (ask (.storeCleaningUp false)) (fun _ => Accounts held tearing) s := by
  refine Script.ensures_ask stable_accounts ?_ accounts
  intro s outcome answer s' accounts taken
  cases outcome <;> cases taken
  refine ⟨fun quiet => ⟨quiet.registered, ?_, ?_, quiet.none⟩, accounts.live, accounts.settled,
    (Bool.or_false _).trans accounts.tearing⟩
  · intro _ live
    rw [accounts.live, unregistered] at live
    cases live
  · intro run running afterFlag
    refine .inl ((quiet.late run running afterFlag).resolve_right fun fresh => ?_)
    have live := quiet.registered run running
    rw [fresh.2.1, accounts.live, unregistered] at live
    cases live

/-! ## The scripts of the application -/

theorem does_waitWithin (mask : EventBits) (clearOnExit : Bool)
    (start timeout maximumWaitMs : UInt32) {s : NetworkShared} (accounts : Accounts held tearing s) :
    Does (waitWithin mask clearOnExit start timeout maximumWaitMs)
      (fun _ => Accounts held tearing) s :=
  (does_leaves rfl accounts).bind fun _ _ accounts => does_leaves rfl accounts

theorem does_networkDeadlineRemainingMs (statics : NetworkStatics) {s : NetworkShared}
    (accounts : Accounts held tearing s) :
    Does (networkDeadlineRemainingMs statics) (fun _ => Accounts held tearing) s := by
  unfold networkDeadlineRemainingMs
  split
  · exact accounts
  · refine (does_leaves rfl accounts).bind fun now s accounts => ?_
    dsimp only
    split <;> exact accounts

theorem does_cleanupBudget (statics : NetworkStatics) {s : NetworkShared}
    (accounts : Accounts held tearing s) :
    Does (cleanupBudget statics) (fun _ => Accounts held tearing) s := by
  unfold cleanupBudget
  split
  · exact accounts
  · refine (does_networkDeadlineRemainingMs statics accounts).bind fun remaining s accounts => ?_
    split <;> exact accounts

theorem does_awaitReport (report : EventBits) (start budget : UInt32) {s : NetworkShared}
    (accounts : Accounts held tearing s) :
    Does (awaitReport report start budget) (fun _ => Accounts held tearing) s :=
  (does_waitWithin report false start budget budget accounts).bind fun _ _ accounts => accounts

theorem does_onlyIf {α : Type} (condition : Bool) {part : NetworkScript α} {otherwise : α}
    {s : NetworkShared} (accounts : Accounts held tearing s)
    (does : Does part (fun _ => Accounts held tearing) s) :
    Does (onlyIf condition part otherwise) (fun _ => Accounts held tearing) s := by
  cases condition with
  | true => exact does
  | false => exact accounts

theorem does_stopDriver (statics : NetworkStatics) (start budget : UInt32) {s : NetworkShared}
    (accounts : Accounts held tearing s) :
    Does (stopDriver statics start budget) (fun _ => Accounts held tearing) s := by
  refine Script.Ensures.bind (does_onlyIf _ accounts (does_leaves rfl accounts))
    fun wasAssociated s accounts => ?_
  refine Script.Ensures.bind (does_onlyIf _ accounts (does_leaves rfl accounts))
    fun disconnect s accounts => ?_
  refine Script.Ensures.bind (does_onlyIf _ accounts (does_awaitReport _ _ _ accounts))
    fun disconnectReported s accounts => ?_
  refine Script.Ensures.bind (does_onlyIf _ accounts (does_leaves rfl accounts))
    fun stop s accounts => ?_
  exact Script.Ensures.bind (does_onlyIf _ accounts (does_awaitReport _ _ _ accounts))
    fun stopReported s accounts => accounts

/-- Whatever the statics say is held is given back. -/
theorem does_releaseAll (statics : NetworkStatics) {s : NetworkShared}
    (accounts : Accounts statics.holds tearing s) :
    Does (releaseAll statics) (fun _ => Accounts (fun _ => false) tearing) s := by
  refine Script.Ensures.bind (does_releaseIf .wifiHandler accounts) fun _ s accounts => ?_
  refine Script.Ensures.bind (does_releaseIf .ipHandler accounts) fun _ s accounts => ?_
  refine Script.Ensures.bind (does_releaseIf .wifiDriver accounts) fun _ s accounts => ?_
  refine Script.Ensures.bind (does_releaseIf .stationNetif accounts) fun _ s accounts => ?_
  refine Script.Ensures.bind (does_releaseIf .eventLoop accounts) fun _ s accounts => ?_
  refine (does_releaseIf .eventGroup accounts).mono fun _ s accounts => ?_
  convert accounts using 1
  funext resource
  cases resource <;> rfl

theorem cleanedUp_holds (statics : NetworkStatics) :
    (cleanedUp statics).holds = fun _ => false := by
  funext resource
  cases resource <;> rfl

/-- A cleanup leaves nothing, and its flag stays noted until the next bring-up. -/
theorem does_networkCleanup (statics : NetworkStatics) {s : NetworkShared}
    (accounts : Accounts statics.holds tearing s) :
    Does (networkCleanup statics)
      (fun result s => result.2.holds = (fun _ => false) ∧ Accounts (fun _ => false) true s) s := by
  refine Script.Ensures.bind (does_leaves rfl accounts) fun start s accounts => ?_
  refine Script.Ensures.bind (does_cleanupBudget statics accounts) fun budget s accounts => ?_
  refine Script.Ensures.bind (does_setFlag accounts) fun _ s accounts => ?_
  refine Script.Ensures.bind (does_onlyIf _ accounts (does_leaves rfl accounts))
    fun _ s accounts => ?_
  refine Script.Ensures.bind (does_stopDriver statics start budget accounts)
    fun reports s accounts => ?_
  refine Script.Ensures.bind (does_releaseAll statics accounts) fun _ s accounts => ?_
  refine Script.Ensures.bind (does_leaves rfl accounts) fun _ s accounts => ?_
  refine Script.Ensures.bind (does_leaves rfl accounts) fun _ s accounts => ?_
  refine Script.Ensures.bind (does_clearFlag rfl accounts) fun _ s accounts => ?_
  refine Script.Ensures.bind (does_leaves rfl accounts) fun _ s accounts => ?_
  exact Script.Ensures.bind (does_onlyIf _ accounts (does_leaves rfl accounts))
    fun _ s accounts => ⟨cleanedUp_holds statics, accounts⟩

theorem Accounts.of_eq {held' : NetworkResource → Bool} {s : NetworkShared}
    (accounts : Accounts held tearing s) (same : ∀ resource, held resource = held' resource) :
    Accounts held' tearing s := by
  obtain rfl := funext same
  exact accounts

/-- Wherever the acquisitions end, the statics say how far they came. -/
theorem does_acquireAll (statics : NetworkStatics)
    (free : ∀ resource, resource ≠ .eventLoop → statics.holds resource = false)
    {s : NetworkShared} (accounts : Accounts statics.holds false s) :
    Does (acquireAll statics) (fun result => Accounts result.2.holds false) s := by
  obtain ⟨events, netif, ready, initialized, started, wifiHandler, ipHandler, session, start,
    deadline⟩ := statics
  obtain rfl : events = false := free .eventGroup (by decide)
  obtain rfl : netif = false := free .stationNetif (by decide)
  obtain rfl : initialized = false := free .wifiDriver (by decide)
  obtain rfl : wifiHandler = false := free .wifiHandler (by decide)
  obtain rfl : ipHandler = false := free .ipHandler (by decide)
  refine Script.Ensures.bind (does_acquire .eventGroup rfl accounts)
    fun events s accounts => ?_
  cases events with
  | false => exact accounts.of_eq fun resource => by cases resource <;> rfl
  | true =>
      refine Script.Ensures.bind (does_acquire .stationNetif rfl accounts)
        fun netif s accounts => ?_
      cases netif with
      | false => exact accounts.of_eq fun resource => by cases resource <;> rfl
      | true =>
          refine Script.Ensures.bind (does_acquire .wifiDriver rfl accounts)
            fun initialized s accounts => ?_
          cases initialized with
          | false => exact accounts.of_eq fun resource => by cases resource <;> rfl
          | true =>
              refine Script.Ensures.bind (does_acquire .wifiHandler rfl accounts)
                fun wifiHandler s accounts => ?_
              cases wifiHandler with
              | false => exact accounts.of_eq fun resource => by cases resource <;> rfl
              | true =>
                  refine Script.Ensures.bind (does_acquire .ipHandler rfl accounts)
                    fun ipHandler s accounts => ?_
                  cases ipHandler <;>
                    exact accounts.of_eq fun resource => by cases resource <;> rfl

theorem does_flashReady {s : NetworkShared} (accounts : Accounts held tearing s) :
    Does flashReady (fun _ => Accounts held tearing) s := by
  refine Script.Ensures.bind (does_leaves rfl accounts) fun err s accounts => ?_
  split
  · refine Script.Ensures.bind (does_leaves rfl accounts) fun erased s accounts => ?_
    cases erased with
    | false => exact accounts
    | true =>
        exact Script.Ensures.bind (does_leaves rfl accounts) fun err s accounts => accounts
  · exact accounts

theorem does_startStation (start overallDeadlineMs : UInt32) {s : NetworkShared}
    (accounts : Accounts held tearing s) :
    Does (startStation start overallDeadlineMs) (fun _ => Accounts held tearing) s := by
  refine Script.Ensures.bind (does_leaves rfl accounts) fun mode s accounts => ?_
  cases mode with
  | false => exact accounts
  | true =>
      refine Script.Ensures.bind (does_leaves rfl accounts) fun config s accounts => ?_
      cases config with
      | false => exact accounts
      | true =>
          refine Script.Ensures.bind (does_leaves rfl accounts) fun started s accounts => ?_
          cases started with
          | false => exact accounts
          | true =>
              refine Script.Ensures.bind (does_waitWithin _ _ _ _ _ accounts)
                fun bits s accounts => ?_
              split
              · exact accounts
              · exact Script.Ensures.bind (does_leaves rfl accounts) fun now s accounts => accounts

theorem does_bringUp (start overallDeadlineMs : UInt32) (statics : NetworkStatics)
    (free : ∀ resource, resource ≠ .eventLoop → statics.holds resource = false)
    {s : NetworkShared} (accounts : Accounts statics.holds false s) :
    Does (bringUp start overallDeadlineMs statics)
      (fun result => Accounts result.2.holds false) s := by
  refine Script.Ensures.bind (does_acquireAll statics free accounts) ?_
  rintro ⟨acquired, statics⟩ s accounts
  cases acquired with
  | false => exact accounts
  | true =>
      refine Script.Ensures.bind (does_startStation start overallDeadlineMs accounts) ?_
      rintro ⟨started, established⟩ s accounts
      exact accounts.of_eq fun resource => by cases resource <;> rfl

/-- A bring-up that does not come up has given back what it acquired. -/
theorem does_networkPrepare (overallDeadlineMs : UInt32) (statics : NetworkStatics)
    (down : statics.holds = fun _ => false) {s : NetworkShared}
    (accounts : Accounts (fun _ => false) false s) :
    Does (networkPrepare overallDeadlineMs statics)
      (fun result s => (result.1 ≠ 3 → result.2.holds = fun _ => false) ∧
        ∃ tearing, Accounts result.2.holds tearing s) s := by
  obtain ⟨events, netif, ready, initialized, started, wifiHandler, ipHandler, session, start,
    deadline⟩ := statics
  obtain rfl : events = false := congrFun down .eventGroup
  obtain rfl : netif = false := congrFun down .stationNetif
  have nothing : ∀ start : UInt32, NetworkStatics.holds ⟨false, false, false, false, false, false,
      false, false, start, overallDeadlineMs⟩ = fun _ => false := by
    intro start
    funext resource
    cases resource <;> rfl
  refine Script.Ensures.bind (does_leaves rfl accounts) fun start s accounts => ?_
  -- Nothing is acquired before the event loop, so these failures leave nothing.
  have fails : ∀ {s : NetworkShared}, Accounts (fun _ => false) false s →
      Does (pure ((0 : UInt32), (⟨false, false, false, false, false, false, false, false, start,
        overallDeadlineMs⟩ : NetworkStatics)))
        (fun result s => (result.1 ≠ 3 → result.2.holds = fun _ => false) ∧
          ∃ tearing, Accounts result.2.holds tearing s) s :=
    fun accounts => ⟨fun _ => nothing start, false, nothing start ▸ accounts⟩
  refine Script.Ensures.bind (does_leaves rfl accounts) fun _ s accounts => ?_
  refine Script.Ensures.bind (does_leaves rfl accounts) fun _ s accounts => ?_
  refine Script.Ensures.bind (does_clearFlag rfl accounts) fun _ s accounts => ?_
  refine Script.Ensures.bind (does_leaves rfl accounts) fun prepared s accounts => ?_
  cases prepared with
  | false => exact fails accounts
  | true =>
      refine Script.Ensures.bind (does_flashReady accounts) fun flash s accounts => ?_
      cases flash with
      | false => exact fails accounts
      | true =>
          refine Script.Ensures.bind (does_leaves rfl accounts) fun netif s accounts => ?_
          cases netif with
          | false => exact fails accounts
          | true =>
              refine Script.Ensures.bind (does_acquire .eventLoop rfl accounts)
                fun ready s accounts => ?_
              cases ready with
              | false => exact fails (accounts.of_eq fun resource => by cases resource <;> rfl)
              | true =>
                  refine Script.Ensures.bind (does_bringUp start overallDeadlineMs _
                    (fun resource differs => by cases resource <;> first | rfl | cases differs rfl)
                    (accounts.of_eq fun resource => by cases resource <;> rfl)) ?_
                  rintro ⟨established, statics⟩ s accounts
                  cases established with
                  | true => exact ⟨fun differs => absurd rfl differs, false, accounts⟩
                  | false =>
                      refine Script.Ensures.bind (does_networkCleanup statics accounts) ?_
                      rintro ⟨value, statics⟩ s ⟨empty, accounts⟩
                      exact ⟨fun _ => empty, true, accounts.of_eq (congrFun empty.symm)⟩

theorem does_networkReconnectWait (deadlineMs : UInt32) (statics : NetworkStatics)
    {s : NetworkShared} (accounts : Accounts held tearing s) :
    Does (networkReconnectWait deadlineMs statics) (fun _ => Accounts held tearing) s := by
  unfold networkReconnectWait
  split
  · exact accounts
  · refine Script.Ensures.bind (does_leaves rfl accounts) fun start s accounts => ?_
    refine Script.Ensures.bind (does_leaves rfl accounts) fun _ s accounts => ?_
    refine Script.Ensures.bind (does_leaves rfl accounts) fun _ s accounts => ?_
    refine Script.Ensures.bind (does_leaves rfl accounts) fun disconnects s accounts => ?_
    split
    · exact Script.Ensures.bind (does_leaves rfl accounts) fun _ s accounts => accounts
    · refine Script.Ensures.bind (does_waitWithin _ _ _ _ _ accounts)
        fun disconnected s accounts => ?_
      refine Script.Ensures.bind (does_leaves rfl accounts) fun _ s accounts => ?_
      split
      · exact accounts
      · refine Script.Ensures.bind (does_leaves rfl accounts) fun _ s accounts => ?_
        refine Script.Ensures.bind (does_leaves rfl accounts) fun connects s accounts => ?_
        split
        · exact accounts
        · refine Script.Ensures.bind (does_waitWithin _ _ _ _ _ accounts)
            fun connected s accounts => ?_
          split
          · exact accounts
          · refine Script.Ensures.bind (does_leaves rfl accounts) fun now s accounts => ?_
            split
            · exact accounts
            · refine Script.Ensures.bind (does_leaves rfl accounts) fun now s accounts => ?_
              split <;> exact accounts

/-! ## Runs -/

/-- A bring-up came up that has not been torn down since. -/
def needsCleanup : List NetworkReturn → Bool
  | [] => false
  | last :: before =>
      match last.function with
      | .prepare => decide (last.value = 3)
      | .reconnectWait => needsCleanup before
      | .cleanup => false

def NetworkLabel.isPrepare : NetworkLabel → Bool
  | .call .prepare _ => true
  | _ => false

/-- A bring-up that came up is torn down before the next one. -/
def CleansUpFirst (s : NetworkSystem) (label : NetworkLabel) : Prop :=
  label.isPrepare = true → needsCleanup s.returned = false

instance (s : NetworkSystem) (label : NetworkLabel) : Decidable (CleansUpFirst s label) :=
  inferInstanceAs (Decidable (_ → _))

/-- What a call of the application leaves, given the statics it began with. -/
structure Leaves (configured : Bool) (function : NetworkFunction) (statics : NetworkStatics)
    (result : UInt32 × NetworkStatics) (s : NetworkShared) : Prop where
  accounts : ∃ tearing, Accounts result.2.holds tearing s
  prepare : function = .prepare → result.1 ≠ 3 → result.2.holds = fun _ => false
  reconnectWait : function = .reconnectWait → result.2 = statics
  cleanup : function = .cleanup → result.2.holds = fun _ => false
  unconfigured : configured = false → result.2.holds = fun _ => false

theorem stable_leaves (configured : Bool) (function : NetworkFunction) (statics : NetworkStatics)
    (result : UInt32 × NetworkStatics) :
    Script.Stable HandlersRely (Leaves configured function statics result) :=
  fun s s' rely leaves =>
    { leaves with accounts := leaves.accounts.imp fun _ => stable_accounts s s' rely }

theorem does_body (configured : Bool) (statics : NetworkStatics) (deadlineMs : UInt32)
    (function : NetworkFunction)
    (down : function = .prepare → statics.holds = (fun _ => false) ∧ tearing = false)
    (unconfigured : configured = false → statics.holds = fun _ => false)
    {s : NetworkShared} (accounts : Accounts statics.holds tearing s) :
    Does (NetworkSystem.body configured statics deadlineMs function)
      (Leaves configured function statics) s := by
  cases configured with
  | false =>
      have empty := unconfigured rfl
      cases function <;>
        exact ⟨⟨tearing, accounts⟩, fun _ _ => empty, fun _ => rfl, fun _ => empty, fun _ => empty⟩
  | true =>
      cases function with
      | prepare =>
          obtain ⟨empty, rfl⟩ := down rfl
          refine (does_networkPrepare deadlineMs statics empty (empty ▸ accounts)).mono ?_
          exact fun result s left => ⟨left.2, fun _ => left.1, nofun, nofun, nofun⟩
      | reconnectWait =>
          exact Script.Ensures.bind (does_networkReconnectWait deadlineMs statics accounts)
            fun _ s accounts => ⟨⟨tearing, accounts⟩, nofun, fun _ => rfl, nofun, nofun⟩
      | cleanup =>
          refine (does_networkCleanup statics accounts).mono fun result s left => ?_
          exact ⟨⟨true, left.2.of_eq (congrFun left.1.symm)⟩, nofun, nofun, fun _ => left.1, nofun⟩

/-- Between its steps the system is balanced: at rest the statics state what is held, and
a call under way leaves them so. -/
structure Balanced (configured : Bool) (s : NetworkSystem) : Prop where
  quiet : Quiet s.shared
  atRest : s.app = none → ∃ tearing, Accounts s.statics.holds tearing s.shared
  down : needsCleanup s.returned = false → s.statics.holds = fun _ => false
  unconfigured : configured = false → s.statics.holds = fun _ => false
  busy : ∀ activity, s.app = some activity →
    Does activity.script (Leaves configured activity.function s.statics) s.shared

theorem balanced_initial (configured : Bool) : Balanced configured .initial where
  quiet := quiet_initial
  atRest := fun _ => ⟨false, funext fun resource => by cases resource <;> rfl,
    congrArg some (funext fun resource => by cases resource <;> rfl), rfl⟩
  down := fun _ => funext fun resource => by cases resource <;> rfl
  unconfigured := fun _ => funext fun resource => by cases resource <;> rfl
  busy := fun activity busy => by cases busy

/-- A handler's step disturbs no account. -/
theorem Balanced.handler {configured : Bool} {s : NetworkSystem} {shared : NetworkShared}
    (balanced : Balanced configured s)
    (kept : Quiet shared ∧ HandlersRely s.shared shared) :
    Balanced configured { s with shared } where
  quiet := kept.1
  atRest := fun atRest => (balanced.atRest atRest).imp fun _ => stable_accounts _ _ kept.2
  down := balanced.down
  unconfigured := balanced.unconfigured
  busy := fun activity busy =>
    (balanced.busy activity busy).of_rely HandlersRely.trans (stable_leaves configured _ _) kept.2

theorem Balanced.call {configured : Bool} {s s' : NetworkSystem} {function : NetworkFunction}
    {deadlineMs : UInt32} (balanced : Balanced configured s)
    (cleansUpFirst : CleansUpFirst s (.call function deadlineMs))
    (taken : s.call configured function deadlineMs = some s') : Balanced configured s' := by
  rw [NetworkSystem.call] at taken
  split at taken
  · rename_i free
    cases taken
    obtain ⟨tearing, accounts⟩ := balanced.atRest (Option.isNone_iff_eq_none.mp free)
    refine ⟨⟨balanced.quiet.registered, ?_, balanced.quiet.late, balanced.quiet.none⟩, nofun,
      balanced.down, balanced.unconfigured, ?_⟩
    · intro tears
      exact balanced.quiet.flagged (Bool.and_eq_true_iff.mp tears).1
    · rintro activity ⟨⟩
      refine does_body configured s.statics deadlineMs function ?_ balanced.unconfigured
        ⟨accounts.live, accounts.settled, rfl⟩
      rintro rfl
      exact ⟨balanced.down (cleansUpFirst rfl), by simp⟩
  · cases taken

theorem Balanced.stepApp {configured : Bool} {s s' : NetworkSystem} {outcome : Outcome}
    (balanced : Balanced configured s) (taken : s.stepApp outcome = some s') :
    Balanced configured s' := by
  cases busy : s.app with
  | none => simp [NetworkSystem.stepApp, busy] at taken
  | some activity =>
      obtain ⟨function, script⟩ := activity
      cases script with
      | done result => simp [NetworkSystem.stepApp, busy] at taken
      | call made next =>
          simp only [NetworkSystem.stepApp, busy, Option.map_eq_some_iff] at taken
          obtain ⟨⟨answer, shared⟩, performed, rfl⟩ := taken
          have step := (balanced.busy _ busy).step HandlersRely.refl performed
          exact ⟨step.1 balanced.quiet, nofun, balanced.down, balanced.unconfigured,
            fun activity busy => by cases busy; exact step.2⟩

theorem Balanced.finish {configured : Bool} {s s' : NetworkSystem}
    (balanced : Balanced configured s) (taken : s.finish = some s') : Balanced configured s' := by
  cases busy : s.app with
  | none => simp [NetworkSystem.finish, busy] at taken
  | some activity =>
      obtain ⟨function, script⟩ := activity
      cases script with
      | call made next => simp [NetworkSystem.finish, busy] at taken
      | done result =>
          simp only [NetworkSystem.finish, busy] at taken
          cases taken
          have leaves : Leaves configured function s.statics result s.shared :=
            balanced.busy _ busy
          refine ⟨balanced.quiet, fun _ => leaves.accounts, ?_, leaves.unconfigured, nofun⟩
          cases function with
          | prepare => exact fun down => leaves.prepare rfl (of_decide_eq_false down)
          | reconnectWait =>
              intro down
              rw [leaves.reconnectWait rfl]
              exact balanced.down down
          | cleanup => exact fun _ => leaves.cleanup rfl

theorem Balanced.next {configured : Bool} {s s' : NetworkSystem} {label : NetworkLabel}
    (balanced : Balanced configured s) (cleansUpFirst : CleansUpFirst s label)
    (taken : s.next configured label = some s') : Balanced configured s' := by
  cases label with
  | call function deadlineMs => exact balanced.call cleansUpFirst taken
  | step outcome => exact balanced.stepApp taken
  | finish => exact balanced.finish taken
  | event event =>
      obtain ⟨shared, began, rfl⟩ := Option.map_eq_some_iff.mp taken
      exact balanced.handler (beginEvent_quiet balanced.quiet began)
  | handler =>
      obtain ⟨shared, stepped, rfl⟩ := Option.map_eq_some_iff.mp taken
      exact balanced.handler (stepHandler_quiet balanced.quiet stepped)

theorem balanced_of_run {configured : Bool} {labels : List NetworkLabel} {s : NetworkSystem}
    (run : Run (NetworkSystem.next configured) CleansUpFirst .initial labels s) :
    Balanced configured s :=
  run.invariant (balanced_initial configured) fun balanced cleansUpFirst taken =>
    balanced.next cleansUpFirst taken

/-- The call that returned last is a cleanup, or a bring-up that returned 0. -/
def torndown (s : NetworkSystem) : Bool :=
  match s.returned with
  | [] => false
  | last :: _ => last.function = .cleanup ∨ last.function = .prepare ∧ last.value = 0

/-- Nothing is left after a bring-up that failed and after each cleanup, each resource was
given back as often as it was acquired and never while it was not held, and no handler
that began after a cleanup had set its flag asked the driver to connect. -/
theorem resources_balanced {configured : Bool} {labels : List NetworkLabel} {s : NetworkSystem}
    (run : Run (NetworkSystem.next configured) CleansUpFirst .initial labels s) :
    (s.app = none → torndown s = true →
      (∀ resource, s.shared.live resource = false) ∧
      settle (fun _ => false) s.shared.ledger = some (fun _ => false) ∧
      ∀ resource, s.shared.ledger.count (.created resource) =
        s.shared.ledger.count (.givenUp resource)) ∧
    s.shared.lateConnects = 0 := by
  have balanced := balanced_of_run run
  refine ⟨fun atRest down => ?_, balanced.quiet.none⟩
  obtain ⟨tearing, accounts⟩ := balanced.atRest atRest
  have empty : s.statics.holds = fun _ => false := by
    apply balanced.down
    cases returned : s.returned with
    | nil => rfl
    | cons last before =>
        simp only [torndown, returned, decide_eq_true_eq] at down
        cases down with
        | inl cleanup => simp [needsCleanup, cleanup]
        | inr failed => simp [needsCleanup, failed.1, failed.2]
  rw [empty] at accounts
  refine ⟨fun resource => congrFun accounts.live resource, accounts.settled, fun resource => ?_⟩
  simpa using count_of_settle resource s.shared.ledger accounts.settled

/-- A session that comes up, with a cleanup during which the driver reports. -/
def comesUpAndDown : List NetworkLabel :=
  NetworkSystem.comesUp ++
  [.call .cleanup 0, .step (.time 9000), .step .returns, .step .returns,
    .step (.success true), .step (.success true), .event (.wifi .staDisconnected),
    .handler, .handler, .step (.time 9001), .step .returns,
    .step (.success true), .event (.wifi .staStop), .handler, .step (.time 9002)] ++
  List.replicate 11 (.step .returns) ++ [.finish]

theorem resources_balanced_comesUpAndDown :
    ∃ s, Run (NetworkSystem.next true) CleansUpFirst .initial comesUpAndDown s ∧
      ((∀ resource, s.shared.live resource = false) ∧
        settle (fun _ => false) s.shared.ledger = some (fun _ => false) ∧
        ∀ resource, s.shared.ledger.count (.created resource) =
          s.shared.ledger.count (.givenUp resource)) ∧
      s.shared.lateConnects = 0 := by
  obtain ⟨s, run, seen⟩ := exists_run_of_exec
    (show (exec (NetworkSystem.next true) CleansUpFirst .initial comesUpAndDown).map (fun s =>
      s.app.isNone && torndown s) = some true by decide)
  obtain ⟨atRest, down⟩ := Bool.and_eq_true_iff.mp seen
  exact ⟨s, run, (resources_balanced run).1 (Option.isNone_iff_eq_none.mp atRest) down,
    (resources_balanced run).2⟩

end AxolotyEmbedded.Platform
