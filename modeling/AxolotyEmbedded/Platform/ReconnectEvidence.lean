import AxolotyEmbedded.Platform.NetworkBootstrap

/-!
What a `reconnect_wait` that returns 3 has seen. Its evidence is `IP_BIT`, which it clears
once, before it asks the driver to disconnect: the bit stands for a recovery as long as no
address is announced between the clear and the disconnect.
-/
namespace AxolotyEmbedded.Platform
open Transition

/-- The station was disconnected and got an address after that. -/
def Evidence (handled : List NetworkEvent) : Prop :=
  [.wifi .staDisconnected, .staGotIp].Sublist handled

instance (handled : List NetworkEvent) : Decidable (Evidence handled) :=
  inferInstanceAs (Decidable (List.Sublist _ _))

theorem Evidence.grow {handled handled' : List NetworkEvent} (evidence : Evidence handled)
    (grown : handled <+: handled') : Evidence handled' :=
  List.Sublist.trans evidence grown.sublist

theorem evidence_gotIp {handled : List NetworkEvent}
    (disconnected : .wifi .staDisconnected ∈ handled) :
    Evidence (handled ++ [NetworkEvent.staGotIp]) :=
  (List.singleton_sublist.mpr disconnected).append (.refl [NetworkEvent.staGotIp])

/-! ## The handlers -/

/-- `IP_BIT` is set by the last operation of a handler of STA_GOT_IP only. -/
def SetsIpLast (event : NetworkEvent) : HandlerScript Unit → Prop
  | .done _ => True
  | .call made next =>
      (∀ mask, made = .setBits mask → mask.ip = true →
        event = .staGotIp ∧ ∀ answer, next answer = .done ()) ∧
      ∀ answer, SetsIpLast event (next answer)

variable {event : NetworkEvent}

theorem setsIpLast_setBits {mask : EventBits} (other : mask.ip = false) :
    SetsIpLast event (askHandler (.setBits mask)) := by
  refine ⟨?_, fun _ => trivial⟩
  rintro mask ⟨⟩ ip
  cases other.symm.trans ip

theorem setsIpLast_ask_bind {made : HandlerCall} (silent : ∀ mask, made ≠ .setBits mask)
    {rest : HandlerAnswer made → HandlerScript Unit}
    (sets : ∀ answer, SetsIpLast event (rest answer)) :
    SetsIpLast event (askHandler made >>= rest) :=
  ⟨fun mask set => absurd set (silent mask), sets⟩

theorem setsIpLast_networkDisconnected : SetsIpLast event networkDisconnected := by
  refine setsIpLast_ask_bind (by simp) fun forced => ?_
  cases forced with
  | true => exact setsIpLast_setBits rfl
  | false =>
      refine setsIpLast_ask_bind (by simp) fun retryCount => ?_
      split
      · exact setsIpLast_ask_bind (by simp) fun _ => ⟨nofun, fun _ => trivial⟩
      · exact setsIpLast_setBits rfl

theorem setsIpLast_networkWifiBranch (id : WifiEvent) (cleaningUp : Bool) :
    SetsIpLast event (networkWifiBranch id cleaningUp) := by
  unfold networkWifiBranch
  split
  · split
    · exact setsIpLast_setBits rfl
    · trivial
  · split
    · exact ⟨nofun, fun _ => trivial⟩
    · split
      · exact setsIpLast_networkDisconnected
      · trivial

theorem setsIpLast_run (event : NetworkEvent) : SetsIpLast event event.run := by
  cases event with
  | staGotIp =>
      exact setsIpLast_ask_bind (by simp) fun _ => ⟨fun _ _ _ => ⟨rfl, fun _ => rfl⟩, fun _ => trivial⟩
  | wifi id =>
      simp only [NetworkEvent.run, networkWifiEvent]
      split
      · exact setsIpLast_setBits rfl
      · exact setsIpLast_ask_bind (by simp) fun cleaningUp => setsIpLast_networkWifiBranch id cleaningUp

/-- Since the call cleared `IP_BIT`, it was set on evidence. -/
def Fresh (s : NetworkShared) : Prop :=
  s.cleared = true ∧ (s.bits.ip = true → Evidence s.handled)

/-- What the handlers do to the evidence. -/
def EvidenceRely (s s' : NetworkShared) : Prop :=
  s.handled <+: s'.handled ∧ (Fresh s → Fresh s')

theorem EvidenceRely.refl (s : NetworkShared) : EvidenceRely s s := ⟨List.prefix_refl _, id⟩

theorem EvidenceRely.trans (a b c : NetworkShared) (first : EvidenceRely a b)
    (second : EvidenceRely b c) : EvidenceRely a c :=
  ⟨first.1.trans second.1, second.2 ∘ first.2⟩

/-- A handler that runs sets `IP_BIT` last, if at all. -/
def HandlersSetIpLast (s : NetworkShared) : Prop :=
  ∀ run, s.handler = some run → SetsIpLast run.event run.script

/-- The address is announced while the call has cleared the bit and seen no disconnect. -/
def NetworkShared.announcesEarly (s : NetworkShared) : Bool :=
  s.cleared && s.handler.any (·.event = .staGotIp) &&
    !s.handled.contains (.wifi .staDisconnected)

theorem performHandler_evidence (afterFlag : Bool) (s : NetworkShared) (made : HandlerCall) :
    (performHandler afterFlag s made).2.handled = s.handled ∧
      (performHandler afterFlag s made).2.cleared = s.cleared ∧
      ((performHandler afterFlag s made).2.bits.ip = true →
        s.bits.ip = true ∨ ∃ mask, made = .setBits mask ∧ mask.ip = true) := by
  cases made with
  | setBits mask => simp [performHandler, EventBits.union]
  | _ => exact ⟨rfl, rfl, .inl⟩

theorem stepHandler_evidence {s s' : NetworkShared} (last : HandlersSetIpLast s)
    (taken : s.stepHandler = some s') (timely : s.announcesEarly = false) :
    HandlersSetIpLast s' ∧ EvidenceRely s s' := by
  obtain ⟨event, made, next, afterFlag, runs, outcome⟩ :=
    NetworkShared.stepHandler_eq_some taken
  obtain ⟨handled, cleared, ip⟩ := performHandler_evidence afterFlag s made
  obtain ⟨sets, rest⟩ := last _ runs
  cases outcome with
  | inl ends =>
      obtain ⟨-, rfl⟩ := ends
      have grown : s.handled <+: s.handled ++ [event] := List.prefix_append ..
      refine ⟨nofun, by rw [handled]; exact grown, fun fresh => ⟨cleared.trans fresh.1, ?_⟩⟩
      intro set
      rw [handled]
      cases ip set with
      | inl before => exact Evidence.grow (fresh.2 before) grown
      | inr now =>
          obtain ⟨mask, rfl, address⟩ := now
          obtain ⟨rfl, -⟩ := sets mask rfl address
          refine evidence_gotIp ?_
          simpa [NetworkShared.announcesEarly, runs, fresh.1] using timely
  | inr goesOn =>
      obtain ⟨further, rfl⟩ := goesOn
      refine ⟨?_, handled.symm ▸ List.prefix_refl s.handled, fun fresh =>
        ⟨cleared.trans fresh.1, ?_⟩⟩
      · rintro run ⟨⟩
        exact rest _
      · intro set
        rw [handled]
        refine fresh.2 ((ip set).resolve_right ?_)
        rintro ⟨mask, rfl, address⟩
        exact further () ((sets mask rfl address).2 _)

theorem beginEvent_evidence {s s' : NetworkShared} {event : NetworkEvent}
    (taken : s.beginEvent event = some s') : HandlersSetIpLast s' ∧ EvidenceRely s s' := by
  obtain ⟨-, -, rfl⟩ := NetworkShared.beginEvent_eq_some taken
  refine ⟨?_, List.prefix_refl _, id⟩
  rintro run ⟨⟩
  exact setsIpLast_run event

/-! ## The call -/

/-- What a script of the application sees, whatever the handlers do meanwhile. -/
abbrev Sees {α : Type} (script : NetworkScript α) (post : α → NetworkShared → Prop)
    (s : NetworkShared) : Prop :=
  Script.Ensures perform EvidenceRely (fun _ _ => True) script post s

theorem stable_fresh : Script.Stable EvidenceRely Fresh := fun _ _ rely => rely.2

theorem stable_evidence : Script.Stable EvidenceRely fun s => Evidence s.handled :=
  fun _ _ rely evidence => evidence.grow rely.1

/-- A call of the application handles no event, and sets no bit. -/
theorem perform_evidence {made : NetworkCall} {outcome : Outcome} {answer : NetworkAnswer made}
    {s s' : NetworkShared} (taken : perform made outcome s = some (answer, s')) :
    s'.handled = s.handled ∧ s'.handler = s.handler ∧ (s.cleared = true → s'.cleared = true) ∧
      (s'.bits.ip = true → s.bits.ip = true) := by
  cases made with
  | acquire resource =>
      cases outcome with
      | success acquired =>
          cases acquired with
          | false =>
              cases taken
              exact ⟨rfl, rfl, id, id⟩
          | true =>
              cases taken
              refine ⟨rfl, rfl, id, fun ip => ?_⟩
              by_cases group : resource = .eventGroup
              · simp [NetworkShared.acquire, group, EventBits.none] at ip
              · simpa [NetworkShared.acquire, group] using ip
      | _ => cases taken
  | release resource =>
      obtain ⟨-, rfl⟩ := perform_release taken
      exact ⟨rfl, rfl, id, id⟩
  | clearBits mask =>
      cases outcome with
      | returns =>
          cases taken
          exact ⟨rfl, rfl, fun cleared => by simp [cleared], fun ip => (Bool.and_eq_true_iff.mp ip).1⟩
      | _ => cases taken
  | waitBits mask clearOnExit milliseconds =>
      cases outcome with
      | returns =>
          cases clearOnExit with
          | false =>
              cases taken
              exact ⟨rfl, rfl, id, id⟩
          | true =>
              cases taken
              exact ⟨rfl, rfl, id, fun ip => (Bool.and_eq_true_iff.mp ip).1⟩
      | _ => cases taken
  | _ =>
      cases outcome <;> cases taken
      exact ⟨rfl, rfl, id, id⟩

theorem fresh_of_perform {made : NetworkCall} {outcome : Outcome} {answer : NetworkAnswer made}
    {s s' : NetworkShared} (fresh : Fresh s) (taken : perform made outcome s = some (answer, s')) :
    Fresh s' := by
  obtain ⟨handled, -, cleared, ip⟩ := perform_evidence taken
  exact ⟨cleared fresh.1, fun set => handled ▸ fresh.2 (ip set)⟩

theorem sees_ask {made : NetworkCall} {s : NetworkShared} (fresh : Fresh s) :
    Sees (ask made) (fun _ => Fresh) s :=
  Script.ensures_ask stable_fresh (fun fresh taken => ⟨trivial, fresh_of_perform fresh taken⟩) fresh

/-- An answer with `IP_BIT` comes from a state with evidence. -/
theorem sees_waitWithin (mask : EventBits) (clearOnExit : Bool)
    (start timeout maximumWaitMs : UInt32) {s : NetworkShared} (fresh : Fresh s) :
    Sees (waitWithin mask clearOnExit start timeout maximumWaitMs)
      (fun bits s => Fresh s ∧ (bits.ip = true → Evidence s.handled)) s := by
  refine Script.Ensures.bind (sees_ask fresh) fun now s fresh => ?_
  refine Script.ensures_ask stable_fresh ?_ fresh
  intro s outcome answer s' fresh taken
  refine ⟨trivial, fresh_of_perform fresh taken, ?_⟩
  cases outcome with
  | returns =>
      cases taken
      exact fresh.2
  | _ => cases taken

theorem sees_any {made : NetworkCall} {s : NetworkShared} :
    Sees (ask made) (fun _ _ => True) s :=
  fun _ _ _ _ _ _ => ⟨trivial, trivial⟩

theorem sees_evidence {made : NetworkCall} {s : NetworkShared} (evidence : Evidence s.handled) :
    Sees (ask made) (fun _ s => Evidence s.handled) s := by
  refine Script.ensures_ask stable_evidence ?_ evidence
  intro s outcome answer s' evidence taken
  rw [(perform_evidence taken).1]
  exact ⟨trivial, evidence⟩

/-- A call that returns 3 has seen the evidence; the clear makes the bit fresh. -/
theorem sees_networkReconnectWait (deadlineMs : UInt32) (statics : NetworkStatics)
    (s : NetworkShared) :
    Sees (networkReconnectWait deadlineMs statics)
      (fun value s => value = 3 → Evidence s.handled) s := by
  have fails : ∀ {s : NetworkShared}, Sees (pure (0 : UInt32))
      (fun value s => value = 3 → Evidence s.handled) s := by
    intro s three
    cases three
  unfold networkReconnectWait
  split
  · exact fails
  · refine Script.Ensures.bind sees_any fun start s _ => ?_
    have clears : Sees (ask (.clearBits (EventBits.wifiFailBit.union .ipBit)))
        (fun _ => Fresh) s := by
      intro s' _ outcome answer s'' taken
      cases outcome with
      | returns =>
          cases taken
          exact ⟨trivial, Bool.or_true _, fun ip => by simp [EventBits.diff, EventBits.union,
            EventBits.ipBit, EventBits.wifiFailBit] at ip⟩
      | _ => cases taken
    refine Script.Ensures.bind clears fun _ s fresh => ?_
    refine Script.Ensures.bind (sees_ask fresh) fun _ s fresh => ?_
    refine Script.Ensures.bind (sees_ask fresh) fun disconnects s fresh => ?_
    split
    · exact Script.Ensures.bind (sees_ask fresh) fun _ s fresh => fails
    · refine Script.Ensures.bind (sees_waitWithin _ _ _ _ _ fresh)
        fun disconnected s fresh => ?_
      refine Script.Ensures.bind (sees_ask fresh.1) fun _ s fresh => ?_
      split
      · exact fails
      · refine Script.Ensures.bind (sees_ask fresh) fun _ s fresh => ?_
        refine Script.Ensures.bind (sees_ask fresh) fun connects s fresh => ?_
        split
        · exact fails
        · refine Script.Ensures.bind (sees_waitWithin _ _ _ _ _ fresh)
            fun connected s fresh => ?_
          split
          · exact fails
          · rename_i address
            have evidence : Evidence s.handled := fresh.2 (by
              simpa [EventBits.meets, EventBits.ipBit, EventBits.none] using address)
            refine Script.Ensures.bind (sees_evidence evidence) fun now s evidence => ?_
            split
            · exact fails
            · refine Script.Ensures.bind (sees_evidence evidence) fun now s evidence => ?_
              split
              · exact fails
              · exact fun _ => evidence

/-! ## Runs -/

/-- While a `reconnect_wait` runs, no address is announced between its clear and the first
disconnect handled since it began. -/
def AnnouncesAfterDisconnect (s : NetworkSystem) (label : NetworkLabel) : Prop :=
  label = .handler → s.app.any (·.function = .reconnectWait) = true →
    s.shared.announcesEarly = false

instance (s : NetworkSystem) (label : NetworkLabel) :
    Decidable (AnnouncesAfterDisconnect s label) :=
  inferInstanceAs (Decidable (_ → _ → _))

/-- A call that returned 3 has its evidence, and one under way will have it. -/
structure Evidenced (s : NetworkSystem) : Prop where
  last : HandlersSetIpLast s.shared
  returned : ∀ call ∈ s.returned, call.function = .reconnectWait → call.value = 3 →
    Evidence call.handled
  busy : ∀ activity, s.app = some activity → activity.function = .reconnectWait →
    Sees activity.script (fun result s => result.1 = 3 → Evidence s.handled) s.shared

theorem evidenced_initial : Evidenced .initial := ⟨nofun, nofun, nofun⟩

theorem Evidenced.handler {s : NetworkSystem} {shared : NetworkShared} (evidenced : Evidenced s)
    (last : HandlersSetIpLast shared)
    (rely : s.app.any (·.function = .reconnectWait) = true → EvidenceRely s.shared shared) :
    Evidenced { s with shared } where
  last := last
  returned := evidenced.returned
  busy := by
    intro activity busy waits
    refine (evidenced.busy activity busy waits).of_rely EvidenceRely.trans ?_ (rely ?_)
    · exact fun result s s' rely shows three => (shows three).grow rely.1
    · simp [show s.app = some activity from busy, waits]

/-- Without a wait under way the handlers set the bit last all the same. -/
theorem stepHandler_last {s s' : NetworkShared} (last : HandlersSetIpLast s)
    (taken : s.stepHandler = some s') : HandlersSetIpLast s' := by
  obtain ⟨event, made, next, afterFlag, runs, outcome⟩ :=
    NetworkShared.stepHandler_eq_some taken
  cases outcome with
  | inl ends =>
      obtain ⟨-, rfl⟩ := ends
      exact nofun
  | inr goesOn =>
      obtain ⟨-, rfl⟩ := goesOn
      rintro run ⟨⟩
      exact (last _ runs).2 _

theorem Evidenced.call {configured : Bool} {s s' : NetworkSystem} {function : NetworkFunction}
    {deadlineMs : UInt32} (evidenced : Evidenced s)
    (taken : s.call configured function deadlineMs = some s') : Evidenced s' := by
  rw [NetworkSystem.call] at taken
  split at taken
  · cases taken
    refine ⟨evidenced.last, evidenced.returned, ?_⟩
    rintro activity ⟨⟩ waits
    obtain rfl : function = .reconnectWait := waits
    cases configured with
    | false => exact fun three => by cases three
    | true =>
        exact Script.Ensures.bind (sees_networkReconnectWait deadlineMs s.statics _)
          fun value s shows => shows
  · cases taken

theorem Evidenced.stepApp {s s' : NetworkSystem} {outcome : Outcome} (evidenced : Evidenced s)
    (taken : s.stepApp outcome = some s') : Evidenced s' := by
  cases busy : s.app with
  | none => simp [NetworkSystem.stepApp, busy] at taken
  | some activity =>
      obtain ⟨function, script⟩ := activity
      cases script with
      | done result => simp [NetworkSystem.stepApp, busy] at taken
      | call made next =>
          simp only [NetworkSystem.stepApp, busy, Option.map_eq_some_iff] at taken
          obtain ⟨⟨answer, shared⟩, performed, rfl⟩ := taken
          refine ⟨?_, evidenced.returned, ?_⟩
          · intro run running
            rw [(perform_evidence performed).2.1] at running
            exact evidenced.last run running
          · rintro activity ⟨⟩ waits
            exact ((evidenced.busy _ busy waits).step EvidenceRely.refl performed).2

theorem Evidenced.finish {s s' : NetworkSystem} (evidenced : Evidenced s)
    (taken : s.finish = some s') : Evidenced s' := by
  cases busy : s.app with
  | none => simp [NetworkSystem.finish, busy] at taken
  | some activity =>
      obtain ⟨function, script⟩ := activity
      cases script with
      | call made next => simp [NetworkSystem.finish, busy] at taken
      | done result =>
          simp only [NetworkSystem.finish, busy] at taken
          cases taken
          refine ⟨evidenced.last, ?_, nofun⟩
          intro call member waits three
          cases List.mem_cons.mp member with
          | inl now =>
              subst now
              exact evidenced.busy _ busy waits three
          | inr before => exact evidenced.returned call before waits three

theorem Evidenced.next {configured : Bool} {s s' : NetworkSystem} {label : NetworkLabel}
    (evidenced : Evidenced s) (timely : AnnouncesAfterDisconnect s label)
    (taken : s.next configured label = some s') : Evidenced s' := by
  cases label with
  | call function deadlineMs => exact evidenced.call taken
  | step outcome => exact evidenced.stepApp taken
  | finish => exact evidenced.finish taken
  | event event =>
      obtain ⟨shared, began, rfl⟩ := Option.map_eq_some_iff.mp taken
      obtain ⟨last, rely⟩ := beginEvent_evidence began
      exact evidenced.handler last fun _ => rely
  | handler =>
      obtain ⟨shared, stepped, rfl⟩ := Option.map_eq_some_iff.mp taken
      exact evidenced.handler (stepHandler_last evidenced.last stepped) fun waits =>
        (stepHandler_evidence evidenced.last stepped (timely rfl waits)).2

/-- Where no address is announced between a call's clear and the disconnect, a call that
returned 3 saw a disconnect and an address after it. -/
theorem reconnect_evidence {configured : Bool} {labels : List NetworkLabel} {s : NetworkSystem}
    (run : Run (NetworkSystem.next configured) AnnouncesAfterDisconnect .initial labels s) :
    ∀ call ∈ s.returned, call.function = .reconnectWait → call.value = 3 →
      Evidence call.handled := by
  have evidenced : Evidenced s := run.invariant evidenced_initial
    fun evidenced timely taken => evidenced.next timely taken
  exact evidenced.returned

/-- A `reconnect_wait` after a bring-up: `early` is what the handlers do after its clear and
before the disconnect, `late` what they do once it has asked to connect. -/
def reconnects (early late : List NetworkLabel) : List NetworkLabel :=
  NetworkSystem.comesUp ++
  [.call .reconnectWait 10000, .step (.time 2000), .step .returns] ++ early ++
  [.step .returns, .step (.success true), .event (.wifi .staDisconnected), .handler, .handler,
    .handler, .step (.time 2001), .step .returns, .step .returns, .step .returns,
    .step (.success true)] ++ late ++
  [.step (.time 2600), .step .returns, .step (.time 2600), .step (.time 2600), .finish]

def getsAddress : List NetworkLabel := [.event .staGotIp, .handler, .handler]

theorem reconnect_evidence_recovered :
    ∃ s, Run (NetworkSystem.next true) AnnouncesAfterDisconnect .initial
        (reconnects [] getsAddress) s ∧
      ∃ call ∈ s.returned, call.value = 3 ∧ Evidence call.handled := by
  obtain ⟨s, run, seen⟩ := exists_run_of_exec
    (show (exec (NetworkSystem.next true) AnnouncesAfterDisconnect .initial
      (reconnects [] getsAddress)).map (fun s => s.returned.any fun call =>
        call.function = .reconnectWait ∧ call.value = 3) = some true by decide)
  obtain ⟨call, member, met⟩ := List.any_eq_true.mp seen
  obtain ⟨waits, three⟩ := of_decide_eq_true met
  exact ⟨s, run, call, member, three, reconnect_evidence run call member waits three⟩

/-- An address announced after the clear and before the disconnect stands for a recovery
that did not happen. -/
theorem not_reconnect_evidence :
    ¬ ∀ labels s, Run (NetworkSystem.next true) unguarded .initial labels s →
      ∀ call ∈ s.returned, call.function = .reconnectWait → call.value = 3 →
        Evidence call.handled := by
  intro holds
  obtain ⟨s, run, seen⟩ := exists_run_of_exec
    (show (exec (NetworkSystem.next true) unguarded .initial
      (reconnects getsAddress [])).map (fun s => s.returned.any fun call =>
        decide (call.function = .reconnectWait ∧ call.value = 3 ∧ ¬ Evidence call.handled)) =
          some true by decide)
  obtain ⟨call, member, met⟩ := List.any_eq_true.mp seen
  obtain ⟨waits, three, without⟩ := of_decide_eq_true met
  exact without (holds _ s run call member waits three)

end AxolotyEmbedded.Platform
