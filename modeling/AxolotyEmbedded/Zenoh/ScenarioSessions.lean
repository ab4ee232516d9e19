import AxolotyEmbedded.Zenoh.Scenario

/-!
The sessions of a scenario run. Every open that returned OK is closed once, except where
the second open or the subscribe fails after the first open: the jump to the summary
leaves the sessions opened so far behind.
-/
namespace AxolotyEmbedded.Zenoh

/-- The session an open that returned OK handed out. -/
def openedBy : Exchange ScenarioCall.Answer → Option FacadeHandle
  | ⟨.open _, answer⟩ =>
      let answer : Answered FacadeHandle := answer
      if answer.result = .ok then some answer.value else none
  | _ => none

/-- The session a close was given. -/
def closedBy : Exchange ScenarioCall.Answer → Option FacadeHandle
  | ⟨.close session, _⟩ => some session
  | _ => none

/-! ## Parts of the scenario -/

/-- What a part of the scenario does to the sessions: the ones it opened and closed, the
calls made up to its end, and its value. -/
structure SessionRun (α : Type) where
  opened : List FacadeHandle
  closed : List FacadeHandle
  counts : ScenarioCallKind → Nat
  value : α

variable {α β : Type} (answers : Environment ScenarioCall.Answer)

/-- The run of a part, after the calls that were made before it. -/
def sessions (script : Scenario α) (counts : ScenarioCallKind → Nat) : SessionRun α :=
  let ran := script.run ScenarioCall.kind answers counts
  ⟨ran.exchanges.filterMap openedBy, ran.exchanges.filterMap closedBy, ran.counts, ran.value⟩

theorem sessions_bind (first : Scenario α) (rest : α → Scenario β)
    (counts : ScenarioCallKind → Nat) :
    sessions answers (first >>= rest) counts =
      let before := sessions answers first counts
      let after := sessions answers (rest before.value) before.counts
      ⟨before.opened ++ after.opened, before.closed ++ after.closed, after.counts,
        after.value⟩ := by
  simp only [sessions, Script.run_bind, List.filterMap_append]

theorem sessions_pure (value : α) (counts : ScenarioCallKind → Nat) :
    sessions answers (pure value) counts = ⟨[], [], counts, value⟩ := rfl

/-- A part that neither opens, closes nor subscribes. -/
theorem counts_step (part : Step α) (counts : ScenarioCallKind → Nat) {other : ScenarioCallKind}
    (ne : other ≠ .step) : (sessions answers part.run counts).counts other = counts other :=
  Script.counts_run_lift _ _ (fun made => show (ScenarioCall.step made).kind ≠ other from ne.symm)
    part counts

@[simp] theorem opened_step (part : Step α) (counts : ScenarioCallKind → Nat) :
    (sessions answers part.run counts).opened = [] :=
  Script.filterMap_run_lift _ _ (fun _ _ => rfl) part counts

@[simp] theorem closed_step (part : Step α) (counts : ScenarioCallKind → Nat) :
    (sessions answers part.run counts).closed = [] :=
  Script.filterMap_run_lift _ _ (fun _ _ => rfl) part counts

/-- Such a part only hands on its value, and the counts of the other calls. -/
theorem sessions_step_bind (part : Step α) (rest : α → Scenario β)
    (counts : ScenarioCallKind → Nat) :
    ∃ value after, after .open = counts .open ∧ after .subscribe = counts .subscribe ∧
      sessions answers (part.run >>= rest) counts = sessions answers (rest value) after := by
  refine ⟨(sessions answers part.run counts).value, (sessions answers part.run counts).counts,
    counts_step answers part counts (by decide), counts_step answers part counts (by decide), ?_⟩
  rw [sessions_bind]
  simp only [opened_step, closed_step, List.nil_append]

/-- The answer to the n-th open. -/
def openAnswer (config : ScenarioConfig) (n : Nat) : Answered FacadeHandle :=
  answers n (.open (buildConfig config))

/-- The answer to the n-th subscribe. -/
def subscribeAnswer (session : FacadeHandle) (key : List UInt8) (n : Nat) :
    Answered FacadeHandle :=
  answers n (.subscribe session key)

theorem sessions_open (config : ScenarioConfig) (counts : ScenarioCallKind → Nat) :
    sessions answers (openSession (buildConfig config)) counts =
      let answer := openAnswer answers config (counts .open)
      ⟨if answer.result = .ok then [answer.value] else [], [],
        Function.update counts .open (counts .open + 1), answer⟩ := by
  have opened : [(⟨.open (buildConfig config), openAnswer answers config (counts .open)⟩ :
      Exchange ScenarioCall.Answer)].filterMap openedBy =
        if (openAnswer answers config (counts .open)).result = .ok then
          [(openAnswer answers config (counts .open)).value] else [] := by
    have seen : openedBy ⟨.open (buildConfig config), openAnswer answers config (counts .open)⟩ =
        if (openAnswer answers config (counts .open)).result = .ok then
          some (openAnswer answers config (counts .open)).value else none := rfl
    rw [List.filterMap_cons, seen]
    split <;> rename_i answered <;> split at answered <;> simp_all
  exact congrArg (fun seen => (⟨seen, [], _, _⟩ : SessionRun _)) opened

@[simp] theorem opened_close (session : FacadeHandle) (counts : ScenarioCallKind → Nat) :
    (sessions answers (closeSession session) counts).opened = [] := rfl

@[simp] theorem closed_close (session : FacadeHandle) (counts : ScenarioCallKind → Nat) :
    (sessions answers (closeSession session) counts).closed = [session] := rfl

theorem sessions_subscribe (session : FacadeHandle) (key : List UInt8)
    (counts : ScenarioCallKind → Nat) :
    sessions answers (subscribeSession session key) counts =
      ⟨[], [], Function.update counts .subscribe (counts .subscribe + 1),
        subscribeAnswer answers session key (counts .subscribe)⟩ := rfl

@[simp] theorem opened_failAt (environment : ScenarioEnvironment) (tally : StepTally)
    (step detail : String) (counts : ScenarioCallKind → Nat) :
    (sessions answers (failAt environment tally step detail) counts).opened = [] :=
  opened_step ..

@[simp] theorem closed_failAt (environment : ScenarioEnvironment) (tally : StepTally)
    (step detail : String) (counts : ScenarioCallKind → Nat) :
    (sessions answers (failAt environment tally step detail) counts).closed = [] :=
  closed_step ..

@[simp] theorem opened_closeCounted (session : FacadeHandle) (counts : ScenarioCallKind → Nat) :
    (sessions answers (closeCounted session) counts).opened = [] := by
  simp only [closeCounted, sessions_bind, opened_close]
  split <;> simp [sessions_bind, sessions_pure]

@[simp] theorem closed_closeCounted (session : FacadeHandle) (counts : ScenarioCallKind → Nat) :
    (sessions answers (closeCounted session) counts).closed = [session] := by
  simp only [closeCounted, sessions_bind, closed_close]
  split <;> simp [sessions_bind, sessions_pure]

@[simp] theorem opened_cleanShutdown (state : ScenarioState) (environment : ScenarioEnvironment)
    (tally : StepTally) (counts : ScenarioCallKind → Nat) :
    (sessions answers (cleanShutdown state environment tally) counts).opened = [] := by
  simp [cleanShutdown, sessions_bind]

@[simp] theorem closed_cleanShutdown (state : ScenarioState) (environment : ScenarioEnvironment)
    (tally : StepTally) (counts : ScenarioCallKind → Nat) :
    (sessions answers (cleanShutdown state environment tally) counts).closed =
      [state.publisher, state.subscriber] := by
  simp [cleanShutdown, sessions_bind]

/-- Each cycle closes the session it opened, and the loop ends where either call fails. -/
theorem closed_reconnectCycles (config : ScenarioConfig) (cycles : Nat) :
    ∀ counts : ScenarioCallKind → Nat,
      (sessions answers (reconnectCycles (buildConfig config) cycles) counts).closed =
        (sessions answers (reconnectCycles (buildConfig config) cycles) counts).opened := by
  induction cycles with
  | zero => exact fun _ => rfl
  | succ cycles ih =>
      intro counts
      simp only [reconnectCycles, sessions_bind, sessions_open]
      by_cases ok : (openAnswer answers config (counts .open)).result = .ok
      · simp only [ok, ne_eq, not_true_eq_false, if_false, if_true, sessions_bind, opened_step,
          closed_step, opened_close, closed_close]
        split
        · simp [sessions_bind, sessions_pure]
        · simp [sessions_bind, ih]
      · simp [ok, sessions_bind, sessions_pure]

/-- After the subscribe the two sessions are closed, and the reconnects close their own. -/
theorem closed_afterSubscribe (bounds : ScenarioBounds) (config : ScenarioConfig)
    (environment : ScenarioEnvironment) (state : ScenarioState) (tally : StepTally)
    (counts : ScenarioCallKind → Nat) :
    (sessions answers (afterSubscribe bounds config environment state tally) counts).closed =
      state.publisher :: state.subscriber ::
        (sessions answers (afterSubscribe bounds config environment state tally) counts).opened := by
  simp [afterSubscribe, repeatedReconnect, sessions_bind, closed_reconnectCycles]

/-! ## The early exits -/

theorem sessions_afterSecondOpen (bounds : ScenarioBounds) (config : ScenarioConfig)
    (environment : ScenarioEnvironment) (state : ScenarioState) (tally : StepTally)
    (counts : ScenarioCallKind → Nat) :
    let ran := sessions answers (afterSecondOpen bounds config environment state tally) counts
    if (subscribeAnswer answers state.subscriber state.key (counts .subscribe)).result = .ok then
      ran.closed = state.publisher :: state.subscriber :: ran.opened
    else ran.opened = [] ∧ ran.closed = [] := by
  dsimp only
  rw [afterSecondOpen]
  obtain ⟨tally, counts', -, subscribes, ran⟩ := sessions_step_bind answers (do
    diagnosticsAdd .sessionOpens
    record tally environment "open_publisher" .pass "second session opened") (fun tally => do
      let subscription ← subscribeSession state.subscriber state.key
      let state := { state with subscription := subscription.value }
      if subscription.result = .ok then afterSubscribe bounds config environment state tally
      else failAt environment tally "subscribe" "the subscription was not declared") counts
  rw [ran, sessions_bind, sessions_subscribe, subscribes]
  simp only [List.nil_append]
  split
  · exact closed_afterSubscribe ..
  · exact ⟨opened_failAt .., closed_failAt ..⟩

theorem sessions_afterFirstOpen (bounds : ScenarioBounds) (config : ScenarioConfig)
    (environment : ScenarioEnvironment) (state : ScenarioState) (tally : StepTally)
    (counts : ScenarioCallKind → Nat) :
    let ran := sessions answers (afterFirstOpen bounds config environment state tally) counts
    let second := openAnswer answers config (counts .open)
    if second.result = .ok then
      if (subscribeAnswer answers state.subscriber state.key (counts .subscribe)).result = .ok then
        ∃ reconnected, ran.opened = second.value :: reconnected ∧
          ran.closed = second.value :: state.subscriber :: reconnected
      else ran.opened = [second.value] ∧ ran.closed = []
    else ran.opened = [] ∧ ran.closed = [] := by
  dsimp only
  rw [afterFirstOpen]
  obtain ⟨tally, counts', opens, subscribes, ran⟩ := sessions_step_bind answers (do
    diagnosticsAdd .sessionOpens
    let tally ← record tally environment "cold_boot" .pass "first session opened"
    sessionStateStep state environment tally) (fun tally => do
      let publisher ← openSession (buildConfig config)
      let state := { state with publisher := publisher.value }
      if publisher.result = .ok then afterSecondOpen bounds config environment state tally
      else failAt environment tally "open_publisher" "the second open did not return OK") counts
  rw [ran, sessions_bind, sessions_open, opens]
  generalize openAnswer answers config (counts .open) = second
  simp only [List.nil_append]
  by_cases ok : second.result = .ok
  · have rest := sessions_afterSecondOpen answers bounds config environment
      { state with publisher := second.value } tally
      (Function.update counts' .open (counts .open + 1))
    simp only [Function.update_of_ne (show ScenarioCallKind.subscribe ≠ .open by decide),
      subscribes] at rest
    simp only [if_pos ok, List.singleton_append]
    split at rest
    · rename_i subscribed
      rw [if_pos subscribed, rest]
      exact ⟨_, rfl, rfl⟩
    · rename_i refused
      rw [if_neg refused, rest.1, rest.2]
      exact ⟨rfl, rfl⟩
  · simp only [if_neg ok, List.nil_append, opened_failAt, closed_failAt, and_self]

/-- The sessions of a run whose arguments are accepted. -/
theorem sessions_scenarioChecked (bounds : ScenarioBounds) (config : ScenarioConfig)
    (environment : ScenarioEnvironment) (key : List UInt8) :
    let ran := sessions answers (scenarioChecked bounds config environment key) fun _ => 0
    let first := openAnswer answers config 0
    let second := openAnswer answers config 1
    if first.result = .ok then
      if second.result = .ok then
        if (subscribeAnswer answers first.value key 0).result = .ok then
          ∃ reconnected, ran.opened = first.value :: second.value :: reconnected ∧
            ran.closed = second.value :: first.value :: reconnected
        else ran.opened = [first.value, second.value] ∧ ran.closed = []
      else ran.opened = [first.value] ∧ ran.closed = []
    else ran.opened = [] ∧ ran.closed = [] := by
  dsimp only
  rw [scenarioChecked]
  obtain ⟨_, counts, opens, subscribes, ran⟩ := sessions_step_bind answers diagnosticsReset
    (fun _ => do
      let subscriber ← openSession (buildConfig config)
      let state : ScenarioState := ⟨subscriber.value, 0, 0, key⟩
      let tally : StepTally := ⟨0, 0, 0⟩
      if subscriber.result = .ok then afterFirstOpen bounds config environment state tally
      else failAt environment tally "cold_boot" "the first open did not return OK") fun _ => 0
  rw [ran, sessions_bind, sessions_open, opens]
  generalize openAnswer answers config 0 = first
  simp only [List.nil_append]
  by_cases ok : first.result = .ok
  · have rest := sessions_afterFirstOpen answers bounds config environment
      ⟨first.value, 0, 0, key⟩ ⟨0, 0, 0⟩ (Function.update counts .open 1)
    simp only [Function.update_of_ne (show ScenarioCallKind.subscribe ≠ .open by decide),
      Function.update_self, subscribes] at rest
    simp only [if_pos ok, List.singleton_append, Nat.zero_add]
    split at rest
    · rename_i opened
      rw [if_pos opened]
      split at rest
      · rename_i subscribed
        obtain ⟨reconnected, opened, closed⟩ := rest
        rw [if_pos subscribed, opened, closed]
        exact ⟨_, rfl, rfl⟩
      · rename_i refused
        rw [if_neg refused, rest.1, rest.2]
        exact ⟨rfl, rfl⟩
    · rename_i refused
      rw [if_neg refused, rest.1, rest.2]
      exact ⟨rfl, rfl⟩
  · simp only [if_neg ok, List.nil_append, opened_failAt, closed_failAt, and_self]

/-! ## Whole runs -/

/-- The sessions that were closed are those that were opened, each as often. -/
def SessionsClosed (exchanges : List (Exchange ScenarioCall.Answer)) : Prop :=
  (exchanges.filterMap closedBy).Perm (exchanges.filterMap openedBy)

/-- The runs of accepted arguments whose first open returns OK, and whose second open or
subscribe does not. -/
def LeavesSessions (bounds : ScenarioBounds) (config : Option ScenarioConfig)
    (environment : Option ScenarioEnvironment) : Prop :=
  ∃ config' environment' key, config = some config' ∧ environment = some environment' ∧
    acceptedKey bounds config' environment' = some key ∧
    (openAnswer answers config' 0).result = .ok ∧
    ((openAnswer answers config' 1).result ≠ .ok ∨
      (subscribeAnswer answers (openAnswer answers config' 0).value key 0).result ≠ .ok)

/-- The exchanges of a run of the scenario. -/
def scenarioExchanges (bounds : ScenarioBounds) (config : Option ScenarioConfig)
    (environment : Option ScenarioEnvironment) : List (Exchange ScenarioCall.Answer) :=
  ((zenohCarrierScenarioRun bounds config environment).run ScenarioCall.kind answers
    fun _ => 0).exchanges

/-- A run of accepted arguments closes what it opened exactly when it is not cut short. -/
theorem sessionsClosed_checked (bounds : ScenarioBounds) (config : ScenarioConfig)
    (environment : ScenarioEnvironment) (key : List UInt8) :
    let ran := sessions answers (scenarioChecked bounds config environment key) fun _ => 0
    ran.closed.Perm ran.opened ↔ ¬ ((openAnswer answers config 0).result = .ok ∧
      ((openAnswer answers config 1).result ≠ .ok ∨
        (subscribeAnswer answers (openAnswer answers config 0).value key 0).result ≠ .ok)) := by
  have ends := sessions_scenarioChecked answers bounds config environment key
  dsimp only at ends ⊢
  split at ends
  · rename_i first
    split at ends
    · rename_i second
      split at ends
      · rename_i subscribed
        obtain ⟨reconnected, opened, closed⟩ := ends
        rw [opened, closed]
        simp only [first, second, subscribed, ne_eq, not_true_eq_false, or_self, and_false,
          not_false_eq_true, iff_true]
        exact .swap ..
      · rename_i refused
        rw [ends.1, ends.2]
        simp [first, refused]
    · rename_i refused
      rw [ends.1, ends.2]
      simp [first, refused]
  · rename_i refused
    rw [ends.1, ends.2]
    simp [refused]

theorem sessionsClosed_accepted {bounds : ScenarioBounds} {config : ScenarioConfig}
    {environment : ScenarioEnvironment} {key : List UInt8}
    (accepted : acceptedKey bounds config environment = some key) :
    SessionsClosed (scenarioExchanges answers bounds (some config) (some environment)) ↔
      ¬ ((openAnswer answers config 0).result = .ok ∧
        ((openAnswer answers config 1).result ≠ .ok ∨
          (subscribeAnswer answers (openAnswer answers config 0).value key 0).result ≠ .ok)) := by
  simp only [scenarioExchanges, zenohCarrierScenarioRun, accepted]
  exact sessionsClosed_checked answers bounds config environment key

/-- Every session that an open handed out has been closed once when the scenario returns,
whatever its calls return, exactly when the run does not leave for the summary between the
first open and the subscribe. -/
theorem sessionsClosed_iff (bounds : ScenarioBounds) (config : Option ScenarioConfig)
    (environment : Option ScenarioEnvironment) :
    SessionsClosed (scenarioExchanges answers bounds config environment) ↔
      ¬ LeavesSessions answers bounds config environment := by
  have refused : SessionsClosed ((pure 64 : Scenario Int).run ScenarioCall.kind answers
      fun _ => 0).exchanges := .nil
  cases config with
  | none =>
      refine iff_of_true refused ?_
      rintro ⟨_, _, _, given, -⟩
      cases given
  | some config =>
      cases environment with
      | none =>
          refine iff_of_true refused ?_
          rintro ⟨_, _, _, -, given, -⟩
          cases given
      | some environment =>
          cases accepted : acceptedKey bounds config environment with
          | none =>
              simp only [scenarioExchanges, zenohCarrierScenarioRun, accepted]
              refine iff_of_true refused ?_
              rintro ⟨_, _, _, given, given', other, -⟩
              cases given
              cases given'
              rw [accepted] at other
              cases other
          | some key =>
              refine (sessionsClosed_accepted answers accepted).trans
                (not_congr ⟨fun cut => ⟨_, _, _, rfl, rfl, accepted, cut⟩, ?_⟩)
              rintro ⟨_, _, _, given, given', other, cut⟩
              cases given
              cases given'
              rw [accepted] at other
              cases other
              exact cut

/-! ## A second open that fails -/

def plainAnswer : (made : StepCall) → made.Answer
  | .state _ => (⟨.ok, .opened⟩ : Answered SessionState)
  | .connectedRouterCount _ | .queueDepth .. | .droppedFrameCount .. =>
      (⟨.ok, 0⟩ : Answered (BitVec 32))
  | .publish .. | .unsubscribe .. => ZenohResult.ok
  | .poll .. => (⟨.queueEmpty, 0, blankMemory⟩ : Polled)
  | .diagnosticsWriteJson _ => (none : Option (List UInt8))
  | .setRouterAvailable _ => true
  | .readResource _ => (none : Option (BitVec 32))
  | .diagnosticsReset | .diagnosticsAdd _ | .setActiveSubscriptions _ | .emitJsonl _ | .delayMs _
  | .loopback .. => ()

/-- The first open hands out a session, and every later one fails. -/
def oneSession : Environment ScenarioCall.Answer := fun n made =>
  match made with
  | .open _ => if n = 0 then (⟨.ok, 1⟩ : Answered FacadeHandle) else ⟨.transportError, 0⟩
  | .subscribe .. => (⟨.ok, 1⟩ : Answered FacadeHandle)
  | .close _ => ZenohResult.ok
  | .step made => plainAnswer made

def hostEnvironment : ScenarioEnvironment := ⟨true, true, true, true, true, 0⟩

def hostConfig : ScenarioConfig := ⟨none, 0, some fun _ => 0x61, 1, 5, 8⟩

def hostBounds : ScenarioBounds := ⟨⟨128, 256, 2048⟩, 16⟩

/-- The session of the first open is never closed. -/
theorem not_sessionsClosed_oneSession :
    ¬ SessionsClosed (scenarioExchanges oneSession hostBounds (some hostConfig)
      (some hostEnvironment)) := by
  have accepted : acceptedKey hostBounds hostConfig hostEnvironment = some [0x61] := rfl
  rw [sessionsClosed_accepted oneSession accepted]
  exact fun uncut => uncut ⟨rfl, .inl (by decide)⟩

end AxolotyEmbedded.Zenoh
