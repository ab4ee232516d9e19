import AxolotyEmbedded.Zenoh.Facade
import AxolotyEmbedded.Zenoh.Handles

/-!
What the calls of the facade leave behind. Over any run the objects of zenoh-pico that
are held are those behind the open sessions and the occupied subscriber slots; a call
that does not return OK undoes all it did, and a close frees its session slot.
-/
namespace AxolotyEmbedded.Zenoh

/-! ## What the registries own -/

/-- The owned objects behind the open sessions and the occupied slots. -/
def Registry.owned (registry : Registry) : OwnedObject → Bool
  | .session session => (registry.sessions session).state = .opened
  | .subscriber slot => (registry.record slot).queue.isSome
  | _ => false

/-- A session that is not open holds no queue. -/
def Registry.ClosedFree (registry : Registry) : Prop :=
  ∀ slot : Slot, (registry.sessions slot.1).state ≠ .opened → (registry.record slot).queue = none

/-- The same sessions are open and the same slots are occupied. -/
structure SameOccupancy (before after : Registry) : Prop where
  state : ∀ session, (after.sessions session).state = (before.sessions session).state
  occupied : ∀ slot, (after.record slot).queue.isSome = (before.record slot).queue.isSome

theorem SameOccupancy.owned {before after : Registry} (same : SameOccupancy before after) :
    after.owned = before.owned := by
  funext object
  cases object with
  | session session => simp only [Registry.owned, same.state]
  | subscriber slot => exact same.occupied slot
  | config | key | payload | encoding | closure => rfl

theorem SameOccupancy.closedFree {before after : Registry} (same : SameOccupancy before after)
    (free : before.ClosedFree) : after.ClosedFree := by
  intro slot closed
  rw [same.state] at closed
  have empty := same.occupied slot
  rw [free slot closed] at empty
  exact Option.isNone_iff_eq_none.mp (by simpa using empty)

theorem SameOccupancy.refl (registry : Registry) : SameOccupancy registry registry :=
  ⟨fun _ => rfl, fun _ => rfl⟩

/-! ## Sessions -/

/-- The stores of a successful `zenoh_pico_session_reserve`. -/
def Registry.reserveSession (registry : Registry) (session : Fin 4) : Registry :=
  registry.setSession session { registry.sessions session with
    state := .opened, sessionIndex := BitVec.ofNat 32 session }

/-- A session reserve finds no slot, or opens one that was not open. -/
theorem Registry.sessionReserve_cases (registry : Registry) :
    registry.sessionReserve = (registry, none) ∨
      ∃ session, (registry.sessions session).state ≠ .opened ∧
        registry.sessionReserve = (registry.reserveSession session, some session) := by
  unfold sessionReserve
  split
  · rename_i session found
    exact .inr ⟨session, by simpa using List.find?_some found, rfl⟩
  · exact .inl rfl

@[simp] theorem Registry.record_reserveSession (registry : Registry) (session : Fin 4)
    (slot : Slot) : (registry.reserveSession session).record slot = registry.record slot :=
  registry.record_setSession (by rfl) slot

theorem Registry.state_reserveSession_self (registry : Registry) (session : Fin 4) :
    ((registry.reserveSession session).sessions session).state = .opened := by
  simp [reserveSession, setSession]

theorem Registry.state_reserveSession_of_ne (registry : Registry) {session other : Fin 4}
    (ne : other ≠ session) :
    ((registry.reserveSession session).sessions other).state = (registry.sessions other).state := by
  simp [reserveSession, setSession, Function.update_of_ne ne]

theorem Registry.owned_reserveSession (registry : Registry) (session : Fin 4) :
    (registry.reserveSession session).owned =
      Function.update registry.owned (.session session) true := by
  funext object
  cases object with
  | session other =>
      by_cases same : other = session
      · subst same
        simp [owned, state_reserveSession_self]
      · have differs : OwnedObject.session other ≠ .session session := by simpa using same
        simp [owned, state_reserveSession_of_ne _ same, Function.update_of_ne differs]
  | subscriber slot =>
      have differs : OwnedObject.subscriber slot ≠ .session session := by simp
      simp only [owned, Function.update_of_ne differs, record_reserveSession]
  | config | key | payload | encoding | closure => rfl

/-- Releasing a session closes it and frees its slots. -/
theorem Registry.sessionRelease_spec (registry : Registry) (session : Fin 4) :
    ((registry.sessionRelease session).sessions session).state = .closed ∧
      (∀ other, other ≠ session →
        ((registry.sessionRelease session).sessions other).state = (registry.sessions other).state) ∧
      (∀ index, ((registry.sessionRelease session).record (session, index)).queue = none) ∧
      ∀ slot : Slot, slot.1 ≠ session →
        (registry.sessionRelease session).record slot = registry.record slot := by
  obtain ⟨released, freed⟩ := releasedIn_foldl session (List.finRange 8) registry
  refine ⟨by simp [sessionRelease, setState, setSession], fun other ne => ?_, fun index => ?_,
    fun slot ne => ?_⟩
  · rw [← released.state other]
    simp [sessionRelease, setState, setSession, Function.update_of_ne ne]
  · rw [sessionRelease, record_setState]
    exact freed index (List.mem_finRange _)
  · rw [sessionRelease, record_setState]
    exact released.others slot ne

/-- A session that was reserved for nothing is closed again without a trace. -/
theorem Registry.sameOccupancy_sessionRelease {registry : Registry} {session : Fin 4}
    (closed : (registry.sessions session).state ≠ .opened) (free : registry.ClosedFree) :
    SameOccupancy registry ((registry.reserveSession session).sessionRelease session) := by
  obtain ⟨state, otherState, freed, otherRecords⟩ :=
    (registry.reserveSession session).sessionRelease_spec session
  constructor
  · intro other
    by_cases same : other = session
    · rw [same, state]
      cases before : (registry.sessions session).state with
      | closed => rfl
      | opened => exact absurd before closed
    · rw [otherState other same, state_reserveSession_of_ne _ same]
  · rintro ⟨other, slot⟩
    by_cases same : other = session
    · rw [same, freed slot, free (session, slot) closed]
    · rw [otherRecords (other, slot) same, record_reserveSession]

theorem ownership_insertConfig (config : ZenohConfig) (answers : OpenAnswers) :
    (insertConfig config answers).2.flatMap ZenohCall.ownership = [] := by
  by_cases mode : answers.insertMode = 0
  · by_cases connects : 0 < config.connectEndpointLength
    · by_cases endpoint : answers.insertEndpoint = 0 <;>
        simp [insertConfig, mode, connects, endpoint, ZenohCall.ownership]
    · simp [insertConfig, mode, connects, ZenohCall.ownership]
  · simp [insertConfig, mode, ZenohCall.ownership]

/-- Opening a reserved session creates its session object or nothing. -/
theorem openReserved_cases {held : OwnedObject → Bool} (config : ZenohConfig)
    (answers : OpenAnswers) (registry : Registry) (session : Fin 4)
    (noConfig : held .config = false) (noSession : held (.session session) = false) :
    let after := openReserved config answers registry session
    (after.result = .transportError ∧ after.registry = registry.sessionRelease session ∧
        after.output = some none ∧ settle held after.ownership = some held) ∨
      (after.result = .ok ∧ after.registry = registry ∧ after.output = some (some session) ∧
        settle held after.ownership =
          some (Function.update held (.session session) true)) := by
  have inserts := ownership_insertConfig config answers
  unfold openReserved
  dsimp only
  split
  · rename_i failed
    exact .inl ⟨rfl, rfl, rfl, by
      simp [FacadeOutcome.ownership, ZenohCall.ownership, createdUnlessNegative, failed]⟩
  · rename_i created
    split
    · exact .inl ⟨rfl, rfl, rfl, by
        simp [FacadeOutcome.ownership, inserts, ZenohCall.ownership, createdUnlessNegative, created,
          settle_created_givenUp noConfig]⟩
    · split
      · rename_i failed
        exact .inl ⟨rfl, rfl, rfl, by
          simp [FacadeOutcome.ownership, inserts, ZenohCall.ownership, createdUnlessNegative,
            created, failed, settle_created_givenUp noConfig]⟩
      · rename_i opened
        split
        · exact .inl ⟨rfl, rfl, rfl, by
            simp [FacadeOutcome.ownership, inserts, ZenohCall.ownership, createdUnlessNegative,
              created, opened, settle_created_givenUp noConfig, settle_created_givenUp noSession]⟩
        · exact .inr ⟨rfl, rfl, rfl, by
            simp [FacadeOutcome.ownership, inserts, ZenohCall.ownership, createdUnlessNegative,
              created, opened, settle_created_givenUp noConfig, settle_created noSession]⟩

/-! ## Calls that do not return OK -/

/-- What a call leaves when it undoes all it did: the same open sessions and occupied slots,
a null handle where the caller gave storage for one, and no object of its own. -/
structure FacadeOutcome.Restored {Handle : Type} (null : Handle) (before : Registry)
    (output : Option Handle) (after : FacadeOutcome Handle) : Prop where
  occupancy : SameOccupancy before after.registry
  output : after.output = output.map fun _ => null
  objects : settle before.owned after.ownership = some before.owned
  dropped : ∀ object, after.ownership.count (.created object) =
    after.ownership.count (.givenUp object)

/-- What every call keeps: the objects held are those the registries own. -/
structure FacadeOutcome.Accounted {Handle : Type} (before : Registry)
    (after : FacadeOutcome Handle) : Prop where
  objects : settle before.owned after.ownership = some after.registry.owned
  closedFree : after.registry.ClosedFree

variable {Handle : Type} {null : Handle} {before : Registry} {output : Option Handle}
  {after : FacadeOutcome Handle}

theorem FacadeOutcome.Restored.of_settled (occupancy : SameOccupancy before after.registry)
    (nulled : after.output = output.map fun _ => null)
    (objects : settle before.owned after.ownership = some before.owned) :
    after.Restored null before output where
  occupancy := occupancy
  output := nulled
  objects := objects
  dropped object := Nat.add_left_cancel (count_of_settle object _ objects)

/-- A call that returned at a check of its arguments. -/
theorem FacadeOutcome.Restored.of_refused (registry : after.registry = before)
    (nulled : after.output = output.map fun _ => null) (calls : after.calls = []) :
    after.Restored null before output := by
  refine .of_settled (registry ▸ .refl _) nulled ?_
  rw [FacadeOutcome.ownership, calls]
  rfl

theorem FacadeOutcome.Restored.accounted (restored : after.Restored null before output)
    (free : before.ClosedFree) : after.Accounted before where
  objects := by rw [restored.occupancy.owned, restored.objects]
  closedFree := restored.occupancy.closedFree free

/-- An open undoes all it did, or opens one session. -/
theorem axolotyZenohOpen_cases (bounds : FacadeBounds) {registry : Registry}
    (free : registry.ClosedFree) (config : Option ZenohConfig) (output : Option (Option (Fin 4)))
    (answers : OpenAnswers) :
    let after := axolotyZenohOpen bounds registry config output answers
    after.Restored none registry output ∨ (after.result = .ok ∧ after.Accounted registry) := by
  unfold axolotyZenohOpen
  dsimp only
  split
  · exact .inl (.of_refused rfl rfl rfl)
  · exact .inl (.of_refused rfl rfl rfl)
  split
  · exact .inl (.of_refused rfl rfl rfl)
  split
  · exact .inl (.of_refused rfl rfl rfl)
  rename_i config _ _
  rcases registry.sessionReserve_cases with full | ⟨session, closed, reserved⟩
  · rw [full]
    exact .inl (.of_refused rfl rfl rfl)
  · rw [reserved]
    have noSession : registry.owned (.session session) = false := by simp [Registry.owned, closed]
    rcases openReserved_cases config answers (registry.reserveSession session) session rfl
      noSession with ⟨-, released, nulled, settled⟩ | ⟨ok, opened, -, settled⟩
    · have occupancy := Registry.sameOccupancy_sessionRelease closed free
      rw [← released] at occupancy
      exact .inl (.of_settled occupancy nulled settled)
    · refine .inr ⟨ok, ?_, ?_⟩
      · dsimp only
        rw [settled, opened, registry.owned_reserveSession]
      · dsimp only
        rw [opened]
        intro slot stays
        rw [Registry.record_reserveSession]
        apply free
        intro open'
        by_cases same : slot.1 = session
        · exact stays (same ▸ registry.state_reserveSession_self session)
        · exact stays (by rw [registry.state_reserveSession_of_ne same, open'])

/-- The ways a publish ends. The put takes the payload and the encoding with it. -/
theorem ownership_publishChecked (answers : PublishAnswers) (session : Fin 4)
    (key payload : List UInt8) :
    let events := (publishChecked answers session key payload).2.flatMap ZenohCall.ownership
    events = [] ∨ events = [.created .key, .givenUp .key] ∨
      events = [.created .key, .created .payload, .givenUp .key, .givenUp .payload] ∨
      events = [.created .key, .created .payload, .created .encoding, .givenUp .payload,
        .givenUp .encoding, .givenUp .key] := by
  unfold publishChecked
  dsimp only
  split
  · rename_i failed
    exact .inl (by simp [ZenohCall.ownership, createdUnlessNegative, failed])
  rename_i keyMade
  split
  · rename_i failed
    exact .inr (.inl (by simp [ZenohCall.ownership, createdUnlessNegative, keyMade, failed]))
  rename_i payloadMade
  have payloadCreated : ZenohCall.ownership (if payload = [] then .bytesEmpty
      else .bytesCopyFromBuf payload answers.bytesCopyFromBuf) = [.created .payload] := by
    by_cases empty : payload = []
    · simp [empty, ZenohCall.ownership]
    · have made : ¬ answers.bytesCopyFromBuf < 0 := fun failed => payloadMade ⟨empty, failed⟩
      simp [empty, ZenohCall.ownership, createdUnlessNegative, made]
  split
  · rename_i failed
    refine .inr (.inr (.inl ?_))
    simp only [List.flatMap_append, List.flatMap_cons, List.flatMap_nil, payloadCreated]
    simp [ZenohCall.ownership, createdUnlessNegative, keyMade, failed]
  · rename_i encodingMade
    refine .inr (.inr (.inr ?_))
    simp only [List.flatMap_append, List.flatMap_cons, List.flatMap_nil, payloadCreated]
    simp [ZenohCall.ownership, createdUnlessNegative, keyMade, encodingMade]

/-- A publish drops what it created, whatever it returns. -/
theorem settle_publishChecked {held : OwnedObject → Bool} (answers : PublishAnswers)
    (session : Fin 4) (key payload : List UInt8) (noKey : held .key = false)
    (noPayload : held .payload = false) (noEncoding : held .encoding = false) :
    settle held ((publishChecked answers session key payload).2.flatMap ZenohCall.ownership) =
      some held := by
  rcases ownership_publishChecked answers session key payload with
    events | events | events | events
  · rw [events, settle_nil]
  · rw [events, settle_created_givenUp noKey, settle_nil]
  · rw [events]
    simp only [settle, noKey, noPayload, Function.update_apply]
    refine congrArg some (funext fun object => ?_)
    cases object <;> simp [noKey, noPayload]
  · rw [events]
    simp only [settle, noKey, noPayload, noEncoding, Function.update_apply]
    refine congrArg some (funext fun object => ?_)
    cases object <;> simp [noKey, noPayload, noEncoding]

/-- A publish touches no registry, and drops what it created. -/
theorem axolotyZenohPublish_restored (bounds : FacadeBounds) (registry : Registry)
    (session : SessionPointer) (key : Option Memory) (keyLength : Nat) (payload : Option Memory)
    (payloadLength : Nat) (answers : PublishAnswers) :
    (axolotyZenohPublish bounds registry session key keyLength payload payloadLength answers).Restored
      () registry none := by
  unfold axolotyZenohPublish
  split
  · exact .of_refused rfl rfl rfl
  split
  · exact .of_refused rfl rfl rfl
  split
  · exact .of_refused rfl rfl rfl
  split
  · exact .of_refused rfl rfl rfl
  split
  · exact .of_refused rfl rfl rfl
  exact .of_settled (.refl _) rfl (settle_publishChecked _ _ _ _ rfl rfl rfl)

theorem Registry.owned_reserveSlot (registry : Registry) (slot : Slot) :
    (registry.reserveSlot slot).owned =
      Function.update registry.owned (.subscriber slot) true := by
  funext object
  cases object with
  | subscriber other =>
      by_cases same : other = slot
      · subst same
        simp [owned, record_reserveSlot_self]
      · have differs : OwnedObject.subscriber other ≠ .subscriber slot := by simpa using same
        simp [owned, record_reserveSlot_of_ne _ same, Function.update_of_ne differs]
  | session session =>
      have differs : OwnedObject.session session ≠ .subscriber slot := by simp
      simp only [owned, Function.update_of_ne differs, state_reserveSlot]
  | config | key | payload | encoding | closure => rfl

/-- A slot that was reserved for nothing is free again. -/
theorem Registry.sameOccupancy_subscriptionRelease {registry : Registry} {slot : Slot}
    (free : (registry.record slot).queue = none) :
    SameOccupancy registry ((registry.reserveSlot slot).subscriptionRelease slot) := by
  constructor
  · intro session
    rw [state_subscriptionRelease, state_reserveSlot]
  · intro other
    by_cases same : other = slot
    · rw [same, record_subscriptionRelease_self, free]
    · rw [record_subscriptionRelease_of_ne _ same, record_reserveSlot_of_ne _ same]

/-- The ways a subscribe to a reserved slot ends. -/
theorem subscribeReserved_ends (answers : SubscribeAnswers) (registry : Registry)
    (handle : BitVec 32) (slot : Slot) (key : List UInt8) :
    let after := subscribeReserved answers registry handle slot key
    (after.result = .transportError ∧ after.registry = registry.subscriptionRelease slot ∧
        after.output = some 0 ∧ (after.ownership = [] ∨ after.ownership =
          [.created .key, .created .closure, .givenUp .closure, .givenUp .key])) ∨
      (after.result = .ok ∧ after.registry = registry ∧ after.output = some handle ∧
        after.ownership = [.created .key, .created .closure, .givenUp .closure,
          .created (.subscriber slot), .givenUp .key]) := by
  unfold subscribeReserved
  dsimp only
  split
  · rename_i failed
    exact .inl ⟨rfl, rfl, rfl, .inl (by
      simp [FacadeOutcome.ownership, ZenohCall.ownership, createdUnlessNegative, failed])⟩
  rename_i keyMade
  split
  · rename_i failed
    exact .inl ⟨rfl, rfl, rfl, .inr (by
      simp [FacadeOutcome.ownership, ZenohCall.ownership, createdUnlessNegative, keyMade, failed])⟩
  · rename_i declared
    exact .inr ⟨rfl, rfl, rfl, by
      simp [FacadeOutcome.ownership, ZenohCall.ownership, createdUnlessNegative, keyMade, declared]⟩

/-- Subscribing to a reserved slot creates its subscriber object or nothing. -/
theorem subscribeReserved_cases {held : OwnedObject → Bool} (answers : SubscribeAnswers)
    (registry : Registry) (handle : BitVec 32) (slot : Slot) (key : List UInt8)
    (noKey : held .key = false) (noClosure : held .closure = false)
    (noSubscriber : held (.subscriber slot) = false) :
    let after := subscribeReserved answers registry handle slot key
    (after.result = .transportError ∧ after.registry = registry.subscriptionRelease slot ∧
        after.output = some 0 ∧ settle held after.ownership = some held) ∨
      (after.result = .ok ∧ after.registry = registry ∧ after.output = some handle ∧
        settle held after.ownership =
          some (Function.update held (.subscriber slot) true)) := by
  rcases subscribeReserved_ends answers registry handle slot key with
    ⟨failed, released, nulled, events | events⟩ | ⟨ok, taken, given, events⟩
  · exact .inl ⟨failed, released, nulled, by rw [events, settle_nil]⟩
  · refine .inl ⟨failed, released, nulled, ?_⟩
    have noClosure' : Function.update held .key true .closure = false := noClosure
    rw [events, settle_created noKey, settle_created_givenUp noClosure', ← settle_created noKey,
      settle_created_givenUp noKey, settle_nil]
  · refine .inr ⟨ok, taken, given, ?_⟩
    rw [events]
    simp only [settle, noKey, noClosure, noSubscriber, Function.update_apply]
    refine congrArg some (funext fun object => ?_)
    cases object <;> simp [Function.update_apply, noKey, noClosure]

/-- A subscribe undoes all it did, or occupies one slot. -/
theorem axolotyZenohSubscribe_cases (bounds : FacadeBounds) {registry : Registry}
    (free : registry.ClosedFree) (session : SessionPointer) (key : Option Memory)
    (keyLength : Nat) (output : Option (BitVec 32)) (answers : SubscribeAnswers) :
    let after := axolotyZenohSubscribe bounds registry session key keyLength output answers
    after.Restored 0 registry output ∨ (after.result = .ok ∧ after.Accounted registry) := by
  unfold axolotyZenohSubscribe
  dsimp only
  split
  · exact .inl (.of_refused rfl rfl rfl)
  · exact .inl (.of_refused rfl rfl rfl)
  rename_i session _
  split
  · exact .inl (.of_refused rfl rfl rfl)
  rename_i opened
  split
  · exact .inl (.of_refused rfl rfl rfl)
  split
  · exact .inl (.of_refused rfl rfl rfl)
  rename_i key _
  rcases registry.subscriptionReserve_cases (some session) true answers.allocated with
    ⟨result, refused⟩ | ⟨known, index, same, -, allocated, -, found⟩
  · rw [refused]
    exact .inl (.of_refused rfl rfl rfl)
  · cases same
    rw [allocated, registry.subscriptionReserve_of_free (not_not.mp opened) found]
    have empty := registry.queue_of_freeSlot found
    have noSubscriber : registry.owned (.subscriber (session, index)) = false := by
      simp [Registry.owned, empty]
    rcases subscribeReserved_cases answers (registry.reserveSlot (session, index)) _
      (session, index) (key.bytes keyLength) rfl rfl noSubscriber with
      ⟨-, released, nulled, settled⟩ | ⟨ok, taken, -, settled⟩
    · have occupancy := Registry.sameOccupancy_subscriptionRelease empty
      rw [← released] at occupancy
      exact .inl (.of_settled occupancy nulled settled)
    · refine .inr ⟨ok, ?_, ?_⟩
      · dsimp only
        rw [settled, taken, registry.owned_reserveSlot]
      · dsimp only
        rw [taken]
        intro slot stays
        rw [Registry.state_reserveSlot] at stays
        have ne : slot ≠ (session, index) := by
          rintro rfl
          exact opened stays
        rw [registry.record_reserveSlot_of_ne ne]
        exact free slot stays

/-! ## Removing subscriptions -/

theorem Registry.record_removeSubscription_self (registry : Registry) (slot : Slot) :
    ((removeSubscription registry slot).1.record slot).queue = none := by
  simp [removeSubscription, record_subscriptionRelease_self]

theorem releasedIn_removeSubscription (registry : Registry) (slot : Slot) :
    Registry.ReleasedIn slot.1 registry (removeSubscription registry slot).1 where
  generation other := by
    by_cases same : other = slot
    · simp [same, removeSubscription, Registry.record_subscriptionRelease_self,
        Registry.subscriptionDeactivate]
    · simp [removeSubscription, Registry.record_subscriptionRelease_of_ne _ same,
        Registry.subscriptionDeactivate, Registry.record_setRecord_of_ne _ _ same]
  others other ne := by
    have differs : other ≠ slot := fun same => ne (by rw [same])
    simp [removeSubscription, Registry.record_subscriptionRelease_of_ne _ differs,
      Registry.subscriptionDeactivate, Registry.record_setRecord_of_ne _ _ differs]
  stillFree other free := by
    by_cases same : other = slot
    · rw [same, Registry.record_removeSubscription_self]
    · simp [removeSubscription, Registry.record_subscriptionRelease_of_ne _ same,
        Registry.subscriptionDeactivate, Registry.record_setRecord_of_ne _ _ same, free]
  state other := by simp [removeSubscription, Registry.subscriptionDeactivate]
  sessionIndex other := by simp [removeSubscription, Registry.subscriptionDeactivate]

theorem owned_removeSubscription (registry : Registry) (slot : Slot) :
    (removeSubscription registry slot).1.owned =
      Function.update registry.owned (.subscriber slot) false := by
  funext object
  cases object with
  | subscriber other =>
      by_cases same : other = slot
      · subst same
        simp [Registry.owned, registry.record_removeSubscription_self]
      · have differs : OwnedObject.subscriber other ≠ .subscriber slot := by simpa using same
        simp [Registry.owned, removeSubscription, Registry.record_subscriptionRelease_of_ne _ same,
          Registry.subscriptionDeactivate, Registry.record_setRecord_of_ne _ _ same,
          Function.update_of_ne differs]
  | session session =>
      have differs : OwnedObject.session session ≠ .subscriber slot := by simp
      simp only [Registry.owned, Function.update_of_ne differs,
        (releasedIn_removeSubscription registry slot).state]
  | config | key | payload | encoding | closure => rfl

/-- Removing the subscription of an occupied slot gives up its subscriber object. -/
theorem settle_removeSubscription {registry : Registry} {slot : Slot}
    (occupied : (registry.record slot).queue.isSome = true) :
    settle registry.owned ((removeSubscription registry slot).2.flatMap ZenohCall.ownership) =
      some (removeSubscription registry slot).1.owned := by
  have present : registry.owned (.subscriber slot) = true := occupied
  rw [owned_removeSubscription]
  simp [removeSubscription, ZenohCall.ownership, settle_givenUp present]

/-- The loop of a close removes every subscription of the session. -/
theorem removeHeld_foldl (session : Fin 4) (held : OwnedObject → Bool) (indexes : List (Fin 8)) :
    ∀ state : Registry × List ZenohCall,
      settle held (state.2.flatMap ZenohCall.ownership) = some state.1.owned →
        let after := indexes.foldl (fun state index => removeHeld state (session, index)) state
        Registry.ReleasedIn session state.1 after.1 ∧
          (∀ index ∈ indexes, (after.1.record (session, index)).queue = none) ∧
          settle held (after.2.flatMap ZenohCall.ownership) = some after.1.owned := by
  induction indexes with
  | nil =>
      exact fun state settled => ⟨⟨fun _ => rfl, fun _ _ => rfl, fun _ free => free,
        fun _ => rfl, fun _ => rfl⟩, by simp, settled⟩
  | cons head rest ih =>
      intro state settled
      cases occupied : (state.1.record (session, head)).queue.isSome with
      | false =>
          have kept : removeHeld state (session, head) = state := by simp [removeHeld, occupied]
          obtain ⟨released, freed, settled'⟩ := ih state settled
          simp only [List.foldl_cons, kept]
          refine ⟨released, fun index mem => ?_, settled'⟩
          cases mem with
          | head => exact released.stillFree _ (Option.isNone_iff_eq_none.mp (by simpa using occupied))
          | tail _ mem => exact freed index mem
      | true =>
          have removed : removeHeld state (session, head) =
              ((removeSubscription state.1 (session, head)).1,
                state.2 ++ (removeSubscription state.1 (session, head)).2) := by
            simp [removeHeld, occupied]
          have first : settle held (((removeHeld state (session, head)).2).flatMap
              ZenohCall.ownership) = some (removeHeld state (session, head)).1.owned := by
            rw [removed]
            simp only [List.flatMap_append]
            rw [settle_append_of_eq settled, settle_removeSubscription occupied]
          obtain ⟨released, freed, settled'⟩ := ih _ first
          simp only [List.foldl_cons]
          refine ⟨?_, fun index mem => ?_, settled'⟩
          · rw [removed] at released ⊢
            exact (releasedIn_removeSubscription state.1 (session, head)).trans released
          · cases mem with
            | head =>
                refine released.stillFree _ ?_
                rw [removed]
                exact state.1.record_removeSubscription_self _
            | tail _ mem => exact freed index mem

/-- Releasing a session whose slots are free gives up its session object only. -/
theorem Registry.owned_sessionRelease {registry : Registry} {session : Fin 4}
    (free : ∀ index, (registry.record (session, index)).queue = none) :
    (registry.sessionRelease session).owned =
      Function.update registry.owned (.session session) false := by
  obtain ⟨state, otherState, freed, otherRecords⟩ := registry.sessionRelease_spec session
  funext object
  cases object with
  | session other =>
      by_cases same : other = session
      · simp [owned, same, state]
      · have differs : OwnedObject.session other ≠ .session session := by simpa using same
        simp [owned, otherState other same, Function.update_of_ne differs]
  | subscriber slot =>
      have differs : OwnedObject.subscriber slot ≠ .session session := by simp
      rw [Function.update_of_ne differs]
      obtain ⟨other, index⟩ := slot
      by_cases same : other = session
      · simp [owned, same, freed index, free index]
      · simp [owned, otherRecords (other, index) same]
  | config | key | payload | encoding | closure => rfl

/-! ## Reuse -/

/-- Some subscriptions reserved in a row in one session. -/
def Registry.reserved (session : Fin 4) : Nat → Registry → Registry
  | 0, registry => registry
  | count + 1, registry =>
      ((reserved session count registry).subscriptionReserve (some session) true true).1

/-- An open session whose first `count` slots are occupied. -/
structure Registry.Filled (registry : Registry) (session : Fin 4) (count : Nat) : Prop where
  opened : (registry.sessions session).state = .opened
  occupied : ∀ index : Fin 8,
    (registry.record (session, index)).queue.isSome = decide (index.val < count)

theorem Registry.Filled.freeSlot {registry : Registry} {session : Fin 4} (index : Fin 8)
    (filled : registry.Filled session index.val) : registry.freeSlot session = some index := by
  have first : ∀ index : Fin 8,
      (List.finRange 8).find? (fun other => !decide (other.val < index.val)) = some index := by
    decide
  rw [Registry.freeSlot, ← first index]
  congr 1
  funext other
  rw [← filled.occupied other, Option.not_isSome]

theorem Registry.Filled.next {registry : Registry} {session : Fin 4} (index : Fin 8)
    (filled : registry.Filled session index.val) :
    (registry.reserveSlot (session, index)).Filled session (index.val + 1) where
  opened := by rw [state_reserveSlot, filled.opened]
  occupied other := by
    by_cases same : other = index
    · simp [same, record_reserveSlot_self]
    · have differs : (session, other) ≠ (session, index) := by simpa using same
      have unequal : other.val ≠ index.val := fun eq => same (Fin.ext eq)
      rw [record_reserveSlot_of_ne _ differs, filled.occupied other, decide_eq_decide]
      omega

theorem Registry.filled_reserved {registry : Registry} {session : Fin 4}
    (filled : registry.Filled session 0) :
    ∀ count ≤ 8, (registry.reserved session count).Filled session count := by
  intro count
  induction count with
  | zero => exact fun _ => filled
  | succ count ih =>
      intro within
      have before := ih (by omega)
      let index : Fin 8 := ⟨count, by omega⟩
      have found := Registry.Filled.freeSlot index before
      rw [reserved, subscriptionReserve_of_free _ before.opened found]
      exact Registry.Filled.next index before

/-- A session slot that can be used again: a session reserve finds a slot, and once this
one is reserved again, eight subscriptions in a row take its eight subscriber slots. -/
structure Registry.Reusable (registry : Registry) (session : Fin 4) : Prop where
  found : ∃ next, registry.sessionReserve = (registry.reserveSession next, some next)
  taken : ∀ index : Fin 8, ∃ handle after,
    ((registry.reserveSession session).reserved session index).subscriptionReserve
      (some session) true true = (after, .ok (handle, (session, index)))

theorem Registry.reusable_of_free {registry : Registry} {session : Fin 4}
    (closed : (registry.sessions session).state = .closed)
    (free : ∀ index, (registry.record (session, index)).queue = none) :
    registry.Reusable session where
  found := by
    unfold sessionReserve
    cases found : (List.finRange 4).find?
        fun session => (registry.sessions session).state ≠ .opened with
    | some next => exact ⟨next, rfl⟩
    | none =>
        have opened := List.find?_eq_none.mp found session (List.mem_finRange _)
        simp [closed] at opened
  taken index := by
    have empty : (registry.reserveSession session).Filled session 0 :=
      ⟨registry.state_reserveSession_self session, fun other => by simp [free other]⟩
    have filled := filled_reserved empty index.val (by omega)
    exact ⟨_, _, subscriptionReserve_of_free _ filled.opened (filled.freeSlot index)⟩

/-! ## A close of an open session -/

/-- What a close of an open session leaves. -/
structure FacadeOutcome.Closed (before : Registry) (session : Fin 4) (closed : Int)
    (after : FacadeOutcome Unit) : Prop where
  result : after.result = if closed = 0 then .ok else .transportError
  state : (after.registry.sessions session).state = .closed
  free : ∀ index, (after.registry.record (session, index)).queue = none
  reusable : after.registry.Reusable session
  otherState : ∀ other, other ≠ session →
    (after.registry.sessions other).state = (before.sessions other).state
  otherRecords : ∀ slot : Slot, slot.1 ≠ session →
    after.registry.record slot = before.record slot
  objects : settle before.owned after.ownership = some after.registry.owned

theorem axolotyZenohClose_closed {registry : Registry} {session : Fin 4}
    (opened : (registry.sessions session).state = .opened) (closed : Int) :
    (axolotyZenohClose registry (.slot session) closed).Closed registry session closed := by
  obtain ⟨released, freed, settled⟩ :=
    removeHeld_foldl session registry.owned (List.finRange 8) (registry, []) rfl
  have free := fun index => freed index (List.mem_finRange index)
  simp only [axolotyZenohClose, zenohPicoSessionIndex, opened, ne_eq, not_true_eq_false, if_false]
  generalize (List.finRange 8).foldl (fun state index => removeHeld state (session, index))
    (registry, []) = removed at released freed settled free
  obtain ⟨state, otherState, freed', otherRecords⟩ := removed.1.sessionRelease_spec session
  have present : removed.1.owned (.session session) = true := by
    simp [Registry.owned, released.state, opened]
  exact {
    result := rfl
    state := state
    free := freed'
    reusable := Registry.reusable_of_free state freed'
    otherState := fun other ne => by rw [otherState other ne, released.state]
    otherRecords := fun slot ne => by rw [otherRecords slot ne, released.others slot ne]
    objects := by
      simp only [FacadeOutcome.ownership, List.flatMap_append]
      rw [settle_append_of_eq settled, Registry.owned_sessionRelease free]
      simp [ZenohCall.ownership, settle_givenUp present] }

theorem FacadeOutcome.Closed.accounted {before : Registry} {session : Fin 4} {closed : Int}
    {after : FacadeOutcome Unit} (done : after.Closed before session closed)
    (free : before.ClosedFree) : after.Accounted before where
  objects := done.objects
  closedFree slot stays := by
    obtain ⟨other, index⟩ := slot
    by_cases same : other = session
    · rw [same]
      exact done.free index
    · rw [done.otherState other same] at stays
      rw [done.otherRecords (other, index) same]
      exact free (other, index) stays

/-- A close refuses the session it is given, or closes it. -/
theorem axolotyZenohClose_cases (registry : Registry) (session : SessionPointer) (closed : Int) :
    (axolotyZenohClose registry session closed).Restored () registry none ∨
      ∃ known, session = .slot known ∧ (axolotyZenohClose registry session closed).Closed
        registry known closed := by
  cases session with
  | null | foreign => exact .inl (.of_refused rfl rfl rfl)
  | slot known =>
      cases state : (registry.sessions known).state with
      | closed =>
          have refused : axolotyZenohClose registry (.slot known) closed =
              ⟨.notOpen, registry, none, []⟩ := by
            simp [axolotyZenohClose, zenohPicoSessionIndex, state]
          rw [refused]
          exact .inl (.of_refused rfl rfl rfl)
      | opened => exact .inr ⟨known, rfl, axolotyZenohClose_closed state closed⟩

/-! ## Runs of the facade -/

/-- The calls that may change the registries, with all that the environment answers. -/
inductive FacadeCall where
  | open (config : Option ZenohConfig) (output : Option (Option (Fin 4))) (answers : OpenAnswers)
  | close (session : SessionPointer) (closed : Int)
  | publish (session : SessionPointer) (key : Option Memory) (keyLength : Nat)
      (payload : Option Memory) (payloadLength : Nat) (answers : PublishAnswers)
  | subscribe (session : SessionPointer) (key : Option Memory) (keyLength : Nat)
      (output : Option (BitVec 32)) (answers : SubscribeAnswers)
  | unsubscribe (session : SessionPointer) (subscription : BitVec 32)

/-- The registries after a call, and the calls of zenoh-pico it made. -/
def FacadeCall.step (bounds : FacadeBounds) (registry : Registry) :
    FacadeCall → Registry × List ZenohCall
  | .open config output answers =>
      let after := axolotyZenohOpen bounds registry config output answers
      (after.registry, after.calls)
  | .close session closed =>
      let after := axolotyZenohClose registry session closed
      (after.registry, after.calls)
  | .publish session key keyLength payload payloadLength answers =>
      let after := axolotyZenohPublish bounds registry session key keyLength payload payloadLength
        answers
      (after.registry, after.calls)
  | .subscribe session key keyLength output answers =>
      let after := axolotyZenohSubscribe bounds registry session key keyLength output answers
      (after.registry, after.calls)
  | .unsubscribe session subscription =>
      let after := axolotyZenohUnsubscribe registry session subscription
      (after.registry, after.calls)

/-- The registries after some calls, and the calls of zenoh-pico they made. -/
def afterCalls (bounds : FacadeBounds) (calls : List FacadeCall) : Registry × List ZenohCall :=
  calls.foldl (fun state call =>
    let (registry, made) := call.step bounds state.1
    (registry, state.2 ++ made)) (.initial, [])

theorem afterCalls_snoc (bounds : FacadeBounds) (calls : List FacadeCall) (call : FacadeCall) :
    afterCalls bounds (calls ++ [call]) =
      ((call.step bounds (afterCalls bounds calls).1).1,
        (afterCalls bounds calls).2 ++ (call.step bounds (afterCalls bounds calls).1).2) := by
  simp [afterCalls]

theorem axolotyZenohUnsubscribe_accounted {registry : Registry} (free : registry.ClosedFree)
    (session : SessionPointer) (subscription : BitVec 32) :
    (axolotyZenohUnsubscribe registry session subscription).Accounted registry := by
  have refused : ∀ result, FacadeOutcome.Accounted registry
      (⟨result, registry, none, []⟩ : FacadeOutcome Unit) := fun _ => ⟨rfl, free⟩
  unfold axolotyZenohUnsubscribe
  split
  · exact refused _
  split
  · exact refused _
  · rename_i slot resolved
    obtain ⟨-, opened, -, -, -, occupied, -, -⟩ := Registry.subscriptionResolve_eq_ok.mp resolved
    have released := releasedIn_removeSubscription registry slot
    refine ⟨settle_removeSubscription occupied, fun other stays => ?_⟩
    dsimp only at stays ⊢
    rw [released.state] at stays
    exact released.stillFree other (free other stays)

theorem FacadeCall.step_accounted (bounds : FacadeBounds) {registry : Registry}
    (free : registry.ClosedFree) (call : FacadeCall) :
    settle registry.owned ((call.step bounds registry).2.flatMap ZenohCall.ownership) =
        some (call.step bounds registry).1.owned ∧
      (call.step bounds registry).1.ClosedFree := by
  cases call with
  | «open» config output answers =>
      rcases axolotyZenohOpen_cases bounds free config output answers with restored | ⟨-, kept⟩
      · exact ⟨(restored.accounted free).objects, (restored.accounted free).closedFree⟩
      · exact ⟨kept.objects, kept.closedFree⟩
  | close session closed =>
      rcases axolotyZenohClose_cases registry session closed with restored | ⟨known, -, done⟩
      · exact ⟨(restored.accounted free).objects, (restored.accounted free).closedFree⟩
      · exact ⟨done.objects, (done.accounted free).closedFree⟩
  | publish session key keyLength payload payloadLength answers =>
      have kept := (axolotyZenohPublish_restored bounds registry session key keyLength payload
        payloadLength answers).accounted free
      exact ⟨kept.objects, kept.closedFree⟩
  | subscribe session key keyLength output answers =>
      rcases axolotyZenohSubscribe_cases bounds free session key keyLength output answers with
        restored | ⟨-, kept⟩
      · exact ⟨(restored.accounted free).objects, (restored.accounted free).closedFree⟩
      · exact ⟨kept.objects, kept.closedFree⟩
  | unsubscribe session subscription =>
      have kept := axolotyZenohUnsubscribe_accounted free session subscription
      exact ⟨kept.objects, kept.closedFree⟩

/-- Over a whole run the objects held are those behind the open sessions and the occupied
slots: nothing else is left, and nothing was given up twice. -/
theorem afterCalls_settled (bounds : FacadeBounds) (calls : List FacadeCall) :
    settle Registry.initial.owned ((afterCalls bounds calls).2.flatMap ZenohCall.ownership) =
        some (afterCalls bounds calls).1.owned ∧
      (afterCalls bounds calls).1.ClosedFree := by
  induction calls using List.reverseRecOn with
  | nil => exact ⟨rfl, fun _ _ => rfl⟩
  | append_singleton calls call ih =>
      obtain ⟨settled, free⟩ := ih
      obtain ⟨settled', free'⟩ := call.step_accounted bounds free
      rw [afterCalls_snoc]
      refine ⟨?_, free'⟩
      rw [List.flatMap_append, settle_append_of_eq settled, settled']

/-- What the calls of the facade leave of registries they are made on. -/
structure FacadeContract (bounds : FacadeBounds) (registry : Registry) : Prop where
  opens : ∀ config output answers,
    (axolotyZenohOpen bounds registry config output answers).result ≠ .ok →
      (axolotyZenohOpen bounds registry config output answers).Restored none registry output
  subscribes : ∀ session key keyLength output answers,
    (axolotyZenohSubscribe bounds registry session key keyLength output answers).result ≠ .ok →
      (axolotyZenohSubscribe bounds registry session key keyLength output answers).Restored 0
        registry output
  publishes : ∀ session key keyLength payload payloadLength answers,
    (axolotyZenohPublish bounds registry session key keyLength payload payloadLength
      answers).Restored () registry none
  closes : ∀ session, (registry.sessions session).state = .opened → ∀ closed,
    (axolotyZenohClose registry (.slot session) closed).Closed registry session closed

/-- After any run of the facade, a call that does not return OK undoes all it did, and a
close leaves its session slot closed and free. -/
theorem facadeContract_afterCalls (bounds : FacadeBounds) (calls : List FacadeCall) :
    FacadeContract bounds (afterCalls bounds calls).1 where
  opens config output answers failed :=
    (axolotyZenohOpen_cases bounds (afterCalls_settled bounds calls).2 config output
      answers).resolve_right fun opened => failed opened.1
  subscribes session key keyLength output answers failed :=
    (axolotyZenohSubscribe_cases bounds (afterCalls_settled bounds calls).2 session key keyLength
      output answers).resolve_right fun subscribed => failed subscribed.1
  publishes := axolotyZenohPublish_restored bounds _
  closes _ opened closed := axolotyZenohClose_closed opened closed

end AxolotyEmbedded.Zenoh
