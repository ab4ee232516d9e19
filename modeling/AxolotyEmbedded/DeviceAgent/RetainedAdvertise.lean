import AxolotyEmbedded.DeviceAgent.AgentExchange

/-!
Role A sends the Advertise it encoded before the loop as long as no frame makes it
encode a Resolve over the two buffers while the Advertise branch stays open. It stays
open for the whole exchange when a last will is tested, and after a Resolve that Core
rejects.
-/
namespace AxolotyEmbedded.DeviceAgent
open Transition

variable {core : Core} {run : Exchange} {turn : Turn}

/-- The topic and the payload `prepareAgentMessage` encodes for the Advertise. -/
def encodedAdvertise (endpoint : Endpoint core) (platform : Platform) :
    Option (List UInt8 × List UInt8) :=
  match MessageSequence.prepareAgentMessage endpoint .roleA .advertise platform with
  | (_, none) => none
  | (endpoint, some (topicLength, payloadLength)) =>
      some (endpoint.topic.bytes topicLength.toNat, endpoint.payload.bytes payloadLength.toNat)

/-- What the network setup has reached when it starts the sequence. -/
def reached (scenario : DeviceAgentScenario) : AgentExchangeResult :=
  {.wifi, .ip, .connected, .subscribed, .reconnected} ∪
    if scenario = .brokerRestart then {.brokerReconnected} else ∅

namespace Endpoint

/-- Role A accepts the frame as a Discover and gets as far as the Resolve encoder. -/
def EncodesResolve (s : Endpoint core) (inbound : Inbound) : Prop :=
  ∃ message ∈ core.validated inbound.topic inbound.payload,
    core.eventType message = .discover ∧
      (s.phase4AgentA.dispatch message (phase4NowMS inbound.nowMicroseconds)).2 = .discover ∧
      ((core.correlationIdLevel message).bind core.parseUUID).isSome ∧
      ((phase4NamedObjectSource core inbound.platform).bind (core.decode .resolve)).isSome

/-- Core accepts the Resolve. -/
def Responds (s : Endpoint core) (inbound : Inbound) : Prop :=
  (s.receiveStaticAgentMessage .roleA inbound).2.1 = .response

instance (s : Endpoint core) (inbound : Inbound) : Decidable (s.EncodesResolve inbound) :=
  inferInstanceAs (Decidable (∃ message ∈ core.validated inbound.topic inbound.payload, _))

instance (s : Endpoint core) (inbound : Inbound) : Decidable (s.Responds inbound) :=
  inferInstanceAs (Decidable (_ = _))

theorem associationAction_cases (result : StaticDeviceDispatchResult) :
    associationAction result ≠ .response ∧ associationAction result ≠ .resolved := by
  cases result <;> exact ⟨by decide, by decide⟩

/-- Without a Resolve to encode a Discover leaves the buffers and asks for no response. -/
theorem answerDiscover_of_not_encodes {dispatched : Endpoint core} {message : core.Message}
    {result : StaticDeviceDispatchResult} {platform : Platform}
    (silent : result = .discover → ((core.correlationIdLevel message).bind core.parseUUID).isSome →
      (phase4NamedObjectSource core platform).bind (core.decode .resolve) = none) :
    let answered := dispatched.answerDiscover message result platform
    answered.1.topic = dispatched.topic ∧ answered.1.payload = dispatched.payload ∧
      answered.2.1 ≠ .response := by
  simp only [answerDiscover]
  split
  · exact ⟨rfl, rfl, by simp⟩
  · rename_i accepted
    cases correlated : (core.correlationIdLevel message).bind core.parseUUID with
    | none => exact ⟨rfl, rfl, by simp⟩
    | some correlationId =>
        have source := silent (not_not.mp accepted) (by rw [correlated, Option.isSome_some])
        simp [preparePhase4Message, phase4EncodeSource, source]

theorem answerDiscover_ne_resolved (dispatched : Endpoint core) (message : core.Message)
    (result : StaticDeviceDispatchResult) (platform : Platform) :
    (dispatched.answerDiscover message result platform).2.1 ≠ .resolved := by
  simp only [answerDiscover]
  split
  · simp
  · cases (core.correlationIdLevel message).bind core.parseUUID with
    | none => simp
    | some correlationId =>
        dsimp only
        split <;> simp

/-- Without a Resolve to encode a frame leaves role A's buffers and asks for no response. -/
theorem receive_of_not_encodes {s : Endpoint core} {inbound : Inbound}
    (silent : ¬s.EncodesResolve inbound) :
    let received := s.receiveStaticAgentMessage .roleA inbound
    received.1.topic = s.topic ∧ received.1.payload = s.payload ∧ received.2.1 ≠ .response := by
  simp only [receiveStaticAgentMessage]
  cases valid : core.validated inbound.topic inbound.payload with
  | none => exact ⟨rfl, rfl, by simp⟩
  | some message =>
      dsimp only
      cases kind : core.eventType message with
      | discover =>
          apply answerDiscover_of_not_encodes
          intro accepted correlated
          by_contra decoded
          exact silent ⟨message, valid, kind, accepted, correlated,
            Option.isSome_iff_ne_none.mpr decoded⟩
      | associate => exact ⟨rfl, rfl, (associationAction_cases _).1⟩
      | ioValue =>
          refine ⟨rfl, rfl, ?_⟩
          dsimp only
          split <;> simp
      | advertise | deadvertise | resolve | other => exact ⟨rfl, rfl, by simp⟩

/-- Only role B resolves. -/
theorem receive_ne_resolved (s : Endpoint core) (inbound : Inbound) :
    (s.receiveStaticAgentMessage .roleA inbound).2.1 ≠ .resolved := by
  simp only [receiveStaticAgentMessage]
  cases core.validated inbound.topic inbound.payload with
  | none => simp
  | some message =>
      dsimp only
      cases core.eventType message with
      | discover => apply answerDiscover_ne_resolved
      | associate => exact (associationAction_cases _).2
      | ioValue =>
          dsimp only
          split <;> simp
      | advertise | deadvertise | resolve | other => simp

end Endpoint

namespace MessageSequence
variable {s t u : MessageSequence core} {encoded : Option (List UInt8 × List UInt8)} {nowMS : Nat}

/-- The turn's frame leaves the retained Advertise alone, or the Advertise branch is
closed once it has been handled. -/
def Retains (run : Exchange) (s : MessageSequence core) (turn : Turn) : Prop :=
  run.role = .roleA → turn.polled = 1 → s.endpoint.EncodesResolve turn.inbound →
    run.scenario ≠ .lastWill ∧
      (.discovered ∈ s.result ∨ s.endpoint.Responds turn.inbound)

instance (s : MessageSequence core) (turn : Turn) : Decidable (s.Retains run turn) :=
  inferInstanceAs (Decidable (_ → _ → _ → _ ∧ (_ ∨ _)))

/-- The Advertise branch can still be taken. -/
def AdvertiseOpen (run : Exchange) (s : MessageSequence core) : Prop :=
  run.scenario = .lastWill ∨ .discovered ∉ s.result

/-! ## What a turn leaves alone -/

/-- From `s` to `t` no Advertise is sent and what is known of the Advertise stays. -/
structure Continues (s t : MessageSequence core) : Prop where
  topicLength : t.advertisedTopicLength = s.advertisedTopicLength
  payloadLength : t.advertisedPayloadLength = s.advertisedPayloadLength
  prepared : t.advertisementPrepared = s.advertisementPrepared
  sent : ∀ {topic payload}, .publish .advertise topic payload ∈ t.effects →
    .publish .advertise topic payload ∈ s.effects
  grows : s.result ⊆ t.result

namespace Continues

theorem refl (s : MessageSequence core) : Continues s s :=
  ⟨rfl, rfl, rfl, id, subset_rfl⟩

theorem trans (first : Continues s t) (second : Continues t u) : Continues s u where
  topicLength := second.topicLength.trans first.topicLength
  payloadLength := second.payloadLength.trans first.payloadLength
  prepared := second.prepared.trans first.prepared
  sent := first.sent ∘ second.sent
  grows := first.grows.trans second.grows

theorem gain (s : MessageSequence core) (bit : ExchangeBit) : Continues s (s.gain bit) :=
  ⟨rfl, rfl, rfl, id, Finset.subset_insert ..⟩

theorem did (s : MessageSequence core) {effect : Effect}
    (other : ∀ topic payload, effect ≠ .publish .advertise topic payload) :
    Continues s (s.did effect) where
  topicLength := rfl
  payloadLength := rfl
  prepared := rfl
  sent := fun {topic payload} sent => by
    rcases List.mem_append.mp sent with before | here
    · exact before
    · exact absurd (List.mem_singleton.mp here).symm (other topic payload)
  grows := subset_rfl

theorem publishAgentMessage (s : MessageSequence core) (cause : Publication)
    (other : cause ≠ .advertise) (topicLength payloadLength accepted : Int) :
    Continues s (s.publishAgentMessage cause topicLength payloadLength accepted).1 := by
  rw [MessageSequence.publishAgentMessage]
  split
  · apply did
    intro _ _ same
    cases same
    exact other rfl
  · exact refl s

end Continues

theorem publishAgentMessage_endpoint (s : MessageSequence core) (cause : Publication)
    (topicLength payloadLength accepted : Int) :
    (s.publishAgentMessage cause topicLength payloadLength accepted).1.endpoint = s.endpoint := by
  rw [publishAgentMessage]
  split <;> rfl

theorem publishAgentMessage_result (s : MessageSequence core) (cause : Publication)
    (topicLength payloadLength accepted : Int) :
    (s.publishAgentMessage cause topicLength payloadLength accepted).1.result = s.result := by
  rw [publishAgentMessage]
  split <;> rfl

theorem advertise_frame (run : Exchange) (nowMS : Nat) (accepted : Int)
    (s : MessageSequence core) :
    (s.advertise run nowMS accepted).endpoint = s.endpoint ∧
      s.result ⊆ (s.advertise run nowMS accepted).result := by
  have sent : (s.sendAdvertise accepted).1.endpoint = s.endpoint ∧
      (s.sendAdvertise accepted).1.result = s.result := by
    rw [sendAdvertise]
    split
    · exact ⟨publishAgentMessage_endpoint .., publishAgentMessage_result ..⟩
    · exact ⟨rfl, rfl⟩
  simp only [advertise]
  split
  · split
    · split <;> simp [did, gain, sent]
    · split <;> simp [gain, sent]
  · exact ⟨rfl, subset_rfl⟩

/-- What a frame does is decided before the Advertise branch is taken. -/
theorem Retains.sent (retains : s.Retains run turn) (nowMicroseconds : Int) (nowMS : Nat)
    (accepted : Int) :
    ((s.expire run nowMicroseconds).advertise run nowMS accepted).Retains run turn := by
  intro role polled encodes
  have frame := advertise_frame run nowMS accepted s
  simp only [expire, role] at encodes ⊢
  rw [frame.1] at encodes ⊢
  exact (retains role polled encodes).imp_right (Or.imp_left fun found => frame.2 found)

/-- Handling an action sends no Advertise and prepares nothing. -/
theorem handleAgentMessage_frame (run : Exchange) (turn : Turn) (action : StaticAgentAction)
    (lengths : Int × Int) (s : MessageSequence core) :
    Continues s (s.handleAgentMessage run turn action lengths).1 ∧
      (s.handleAgentMessage run turn action lengths).1.endpoint = s.endpoint := by
  cases action with
  | response =>
      cases role : run.role with
      | roleB =>
          simp only [handleAgentMessage, role]
          split
          · exact ⟨(Continues.gain s _).trans (.did _ (by simp)), rfl⟩
          · have published := Continues.publishAgentMessage (s.gain .advertised) .response
              (by decide) lengths.1 lengths.2 turn.responseAccepted
            have kept := publishAgentMessage_endpoint (s.gain .advertised) .response lengths.1
              lengths.2 turn.responseAccepted
            dsimp only
            split
            · exact ⟨((Continues.gain s _).trans published).trans (.gain _ _), kept⟩
            · exact ⟨(Continues.gain s _).trans published, kept⟩
      | roleA =>
          simp only [handleAgentMessage, role]
          have published := Continues.publishAgentMessage (s.gain .discovered) .response
            (by decide) lengths.1 lengths.2 turn.responseAccepted
          have kept := publishAgentMessage_endpoint (s.gain .discovered) .response lengths.1
            lengths.2 turn.responseAccepted
          split
          · exact ⟨(((Continues.gain s _).trans published).trans (.gain _ _)).trans
              (.did _ (by simp)), kept⟩
          · exact ⟨(Continues.gain s _).trans published, kept⟩
  | resolved | deadvertised => exact ⟨.gain s _, rfl⟩
  | actorAssociated =>
      simp only [handleAgentMessage]
      have copied (actorRoute : Memory) (actorRouteLength : Int) :
          Continues s { s with actorRoute, actorRouteLength } :=
        ⟨rfl, rfl, rfl, id, subset_rfl⟩
      split
      · exact ⟨.refl s, rfl⟩
      · split
        · exact ⟨copied _ _, rfl⟩
        · split
          · exact ⟨(copied _ _).trans (.did _ (by simp)), rfl⟩
          · exact ⟨copied _ _, rfl⟩
  | actorDisassociated =>
      simp only [handleAgentMessage]
      split
      · exact ⟨(Continues.did s (by simp)).trans ⟨rfl, rfl, rfl, id, subset_rfl⟩, rfl⟩
      · exact ⟨.refl s, rfl⟩
  | ioValueDelivered | ignored | rejected => exact ⟨.refl s, rfl⟩

/-- Role A finds a peer before it resolves one. -/
theorem handleAgentMessage_discovered (role : run.role = .roleA) {action : StaticAgentAction}
    (unresolved : action ≠ .resolved) {lengths : Int × Int}
    (before : .resolved ∈ s.result → .discovered ∈ s.result)
    (resolved : .resolved ∈ (s.handleAgentMessage run turn action lengths).1.result) :
    .discovered ∈ (s.handleAgentMessage run turn action lengths).1.result := by
  by_cases response : action = .response
  · rw [response] at resolved ⊢
    simp only [handleAgentMessage, role] at resolved ⊢
    split <;> simp [gain, did, publishAgentMessage_result]
  · have same : .resolved ∈ s.result := by
      cases action with
      | response => exact absurd rfl response
      | resolved => exact absurd rfl unresolved
      | deadvertised => simpa [handleAgentMessage, gain] using resolved
      | actorAssociated =>
          simp only [handleAgentMessage] at resolved
          split at resolved
          · exact resolved
          · split at resolved
            · exact resolved
            · split at resolved <;> exact resolved
      | actorDisassociated =>
          simp only [handleAgentMessage] at resolved
          split at resolved <;> exact resolved
      | ioValueDelivered | ignored | rejected => exact resolved
    exact (handleAgentMessage_frame run turn action lengths s).1.grows (before same)

theorem received_continues (run : Exchange) (turn : Turn) (s : MessageSequence core) :
    Continues s (s.received run turn).1 := by
  have handled := (handleAgentMessage_frame run turn
    (s.endpoint.receiveStaticAgentMessage run.role turn.inbound).2.1
    (((s.endpoint.receiveStaticAgentMessage run.role turn.inbound).2.2.getD (0, 0)).1,
      ((s.endpoint.receiveStaticAgentMessage run.role turn.inbound).2.2.getD (0, 0)).2)
    { s with endpoint := (s.endpoint.receiveStaticAgentMessage run.role turn.inbound).1 }).1
  exact ⟨handled.topicLength, handled.payloadLength, handled.prepared, handled.sent, handled.grows⟩

theorem received_endpoint (run : Exchange) (turn : Turn) (s : MessageSequence core) :
    (s.received run turn).1.endpoint =
      (s.endpoint.receiveStaticAgentMessage run.role turn.inbound).1 :=
  (handleAgentMessage_frame ..).2

theorem received_discovered (role : run.role = .roleA)
    (before : .resolved ∈ s.result → .discovered ∈ s.result)
    (resolved : .resolved ∈ (s.received run turn).1.result) :
    .discovered ∈ (s.received run turn).1.result := by
  refine handleAgentMessage_discovered role ?_ before resolved
  rw [role]
  apply Endpoint.receive_ne_resolved

/-- A response from role A means that it has found its peer. -/
theorem received_of_responds (role : run.role = .roleA)
    (responds : s.endpoint.Responds turn.inbound) :
    .discovered ∈ (s.received run turn).1.result := by
  rw [Endpoint.Responds] at responds
  simp only [received, role, responds, handleAgentMessage]
  split <;> simp [gain, did, publishAgentMessage_result]

/-! ## The invariant -/

/-- While the Advertise branch is open the buffers hold the Advertise that was encoded. -/
structure Retained (run : Exchange) (encoded : Option (List UInt8 × List UInt8))
    (s : MessageSequence core) : Prop where
  sent : ∀ {topic payload}, .publish .advertise topic payload ∈ s.effects →
    encoded = some (topic, payload)
  held : run.role = .roleA → s.AdvertiseOpen run → s.advertisementPrepared = true →
    encoded = some (s.endpoint.topic.bytes s.advertisedTopicLength.toNat,
      s.endpoint.payload.bytes s.advertisedPayloadLength.toNat)
  discovered : run.role = .roleA → .resolved ∈ s.result → .discovered ∈ s.result

namespace Retained

theorem start (run : Exchange) (endpoint : Endpoint core) (actorRoute : Memory)
    (platform : Platform) (scenario : DeviceAgentScenario) :
    Retained run (encodedAdvertise endpoint platform)
      (start run endpoint actorRoute platform (reached scenario)) where
  sent := by simp [MessageSequence.start]
  held role _ prepared := by
    simp only [MessageSequence.start, role, encodedAdvertise] at prepared ⊢
    split
    · rename_i failed
      rw [failed] at prepared
      cases prepared
    · rename_i encoded
      rw [encoded]
      rfl
  discovered _ resolved := by
    simp only [MessageSequence.start, reached] at resolved
    split at resolved <;> simp at resolved

/-- A part of a turn that sends no Advertise. -/
theorem of_continues (inv : Retained run encoded s) (continues : Continues s t)
    (buffers : run.role = .roleA → t.AdvertiseOpen run →
      t.endpoint.topic = s.endpoint.topic ∧ t.endpoint.payload = s.endpoint.payload)
    (discovered : run.role = .roleA → .resolved ∈ t.result → .discovered ∈ t.result) :
    Retained run encoded t where
  sent := fun sent => inv.sent (continues.sent sent)
  held role opened prepared := by
    have before : s.AdvertiseOpen run := opened.imp_right fun fresh found =>
      fresh (continues.grows found)
    rw [(buffers role opened).1, (buffers role opened).2, continues.topicLength,
      continues.payloadLength]
    exact inv.held role before (continues.prepared ▸ prepared)
  discovered := discovered

theorem gain (inv : Retained run encoded s) {bit : ExchangeBit} (other : .resolved ≠ bit) :
    Retained run encoded (s.gain bit) :=
  inv.of_continues (.gain s bit) (fun _ _ => ⟨rfl, rfl⟩) fun role resolved =>
    Finset.mem_insert_of_mem (inv.discovered role (Finset.mem_of_mem_insert_of_ne resolved other))

theorem did (inv : Retained run encoded s) {effect : Effect}
    (other : ∀ topic payload, effect ≠ .publish .advertise topic payload) :
    Retained run encoded (s.did effect) :=
  inv.of_continues (.did s other) (fun _ _ => ⟨rfl, rfl⟩) inv.discovered

/-- A part of a turn that changes no more than its own variables. -/
theorem of_same (inv : Retained run encoded s) (endpoint : t.endpoint = s.endpoint)
    (topicLength : t.advertisedTopicLength = s.advertisedTopicLength)
    (payloadLength : t.advertisedPayloadLength = s.advertisedPayloadLength)
    (prepared : t.advertisementPrepared = s.advertisementPrepared)
    (result : t.result = s.result) (effects : t.effects = s.effects) : Retained run encoded t :=
  inv.of_continues
    ⟨topicLength, payloadLength, prepared, fun sent => effects ▸ sent, result ▸ subset_rfl⟩
    (fun _ _ => by rw [endpoint]; exact ⟨rfl, rfl⟩)
    fun role resolved => result ▸ inv.discovered role (result ▸ resolved)

theorem expire (inv : Retained run encoded s) (nowMicroseconds : Int) :
    Retained run encoded (s.expire run nowMicroseconds) := by
  rw [MessageSequence.expire]
  cases role : run.role with
  | roleA => exact inv
  | roleB =>
      refine inv.of_continues ⟨rfl, rfl, rfl, id, subset_rfl⟩ ?_ inv.discovered
      intro roleA
      cases role.symm.trans roleA

/-- What is sent is what the buffers hold. -/
theorem sendAdvertise (inv : Retained run encoded s) (role : run.role = .roleA)
    (opened : s.AdvertiseOpen run) (accepted : Int) :
    Retained run encoded (s.sendAdvertise accepted).1 := by
  rw [MessageSequence.sendAdvertise]
  split
  · rename_i prepared
    rw [publishAgentMessage]
    split
    · exact {
        sent := fun sent => by
          rcases List.mem_append.mp sent with before | here
          · exact inv.sent before
          · cases List.mem_singleton.mp here
            exact inv.held role opened prepared
        held := inv.held
        discovered := inv.discovered }
    · exact inv
  · exact inv

theorem advertise (inv : Retained run encoded s) (nowMS : Nat) (accepted : Int) :
    Retained run encoded (s.advertise run nowMS accepted) := by
  simp only [MessageSequence.advertise]
  split
  · rename_i due
    have sent := inv.sendAdvertise due.1 due.2.1 accepted
    split
    · split
      · exact ((sent.gain (by decide)).did (by simp)).of_same rfl rfl rfl rfl rfl rfl
      · exact (sent.did (by simp)).of_same rfl rfl rfl rfl rfl rfl
    · split
      · exact (sent.gain (by decide)).of_same rfl rfl rfl rfl rfl rfl
      · exact sent.of_same rfl rfl rfl rfl rfl rfl
  · exact inv

theorem receive (inv : Retained run encoded s) (retains : s.Retains run turn) :
    Retained run encoded (s.receive run turn) := by
  rw [MessageSequence.receive]
  split
  · rename_i polled
    have frame := received_continues run turn s
    refine inv.of_continues ⟨frame.topicLength, frame.payloadLength, frame.prepared, frame.sent,
      frame.grows⟩ ?_ fun role => received_discovered role (inv.discovered role)
    intro role opened
    dsimp only
    rw [received_endpoint, role]
    have silent : ¬s.endpoint.EncodesResolve turn.inbound := by
      intro encodes
      obtain ⟨scenario, closed⟩ := retains role polled encodes
      have fresh := opened.resolve_left scenario
      rcases closed with found | responds
      · exact fresh (frame.grows found)
      · exact fresh (received_of_responds role responds)
    have kept := Endpoint.receive_of_not_encodes silent
    exact ⟨kept.1, kept.2.1⟩
  · split
    · exact (inv.gain (by decide)).of_same rfl rfl rfl rfl rfl rfl
    · split
      · exact inv.of_same rfl rfl rfl rfl rfl rfl
      · exact inv

/-- A Deadvertise is encoded only after a Resolve outside the last-will scenario. -/
theorem deadvertise (inv : Retained run encoded s) (nowMS : Nat) :
    Retained run encoded (s.deadvertise run nowMS turn) := by
  rw [MessageSequence.deadvertise]
  split
  · rename_i due
    have closed (endpoint : Endpoint core) : Retained run encoded { s with endpoint } := by
      refine inv.of_continues ⟨rfl, rfl, rfl, id, subset_rfl⟩ ?_ inv.discovered
      intro role opened
      exact absurd (inv.discovered role due.2.1) (opened.resolve_left due.2.2.1)
    split
    · exact inv.of_same rfl rfl rfl rfl rfl rfl
    · split
      · split
        · exact closed _
        · rename_i endpoint topicLength payloadLength _
          have published := Continues.publishAgentMessage { s with endpoint } .deadvertise
            (by decide) topicLength payloadLength turn.deadvertiseAccepted
          have sent := (closed endpoint).of_continues published
            (fun _ _ => by rw [publishAgentMessage_endpoint]; exact ⟨rfl, rfl⟩)
            (by rw [publishAgentMessage_result]; exact inv.discovered)
          dsimp only
          split
          · exact (sent.gain (by decide)).of_same rfl rfl rfl rfl rfl rfl
          · exact sent
      · exact inv
  · exact inv

theorem conclude (inv : Retained run encoded s) (nowMS : Nat) :
    Retained run encoded (s.conclude run nowMS) := by
  simp only [MessageSequence.conclude]
  split
  · exact inv.of_same rfl rfl rfl rfl rfl rfl
  · split
    · exact inv
    · exact inv.did (by simp)

theorem next (inv : Retained run encoded s) (retains : s.Retains run turn)
    (taken : s.next run turn = some t) : Retained run encoded t := by
  rw [MessageSequence.next] at taken
  split at taken
  · cases taken
    apply conclude
    apply deadvertise
    apply receive
    · exact (inv.expire _).advertise _ _
    · exact retains.sent _ _ _
  · cases taken

end Retained
/-- In a run whose turns retain the Advertise, role A sends what it encoded. -/
theorem retained_of_run (run : Exchange) (endpoint : Endpoint core) (actorRoute : Memory)
    (platform : Platform) {turns : List Turn}
    (steps : Run (next run) (Retains run)
      (start run endpoint actorRoute platform (reached run.scenario)) turns t) :
    ∀ topic payload, .publish .advertise topic payload ∈ t.effects →
      encodedAdvertise endpoint platform = some (topic, payload) := by
  have retained : Retained run (encodedAdvertise endpoint platform) t :=
    steps.invariant (.start run endpoint actorRoute platform run.scenario)
      fun inv retains taken => inv.next retains taken
  exact fun _ _ sent => retained.sent sent

/-! ## A Core for the `coaty/3` frames of the static agents -/

def hexDigit (n : Nat) : UInt8 := UInt8.ofNat (if n < 10 then 0x30 + n else 0x57 + n)

def uuidText (id : UUID16) : List UInt8 :=
  (List.range 32).flatMap fun i =>
    (if i = 8 ∨ i = 12 ∨ i = 16 ∨ i = 20 then staticString "-" else []) ++
      [hexDigit ((id.toNat >>> (4 * (31 - i))) % 16)]

def hexValue (digit : UInt8) : Nat := if digit < 0x3A then digit.toNat - 0x30 else digit.toNat - 0x57

def parseUuidText (bytes : List UInt8) : Option UUID16 :=
  if bytes.length = 36 then
    some (BitVec.ofNat 128
      ((bytes.filter (· ≠ 0x2D)).foldl (fun value digit => 16 * value + hexValue digit) 0))
  else none

def eventName : WireEventType → List UInt8
  | .advertise => staticString "ADV"
  | .deadvertise => staticString "DAD"
  | .discover => staticString "DSC"
  | .resolve => staticString "RSV"
  | .associate => staticString "ASC"
  | .ioValue => staticString "IOV"
  | .other => staticString "UPD"

def levelText : TopicLevel → List UInt8
  | .wirePrefix => staticString "coaty/3/"
  | .wireNamespace name => name ++ staticString "/"
  | .eventType kind none => eventName kind ++ staticString "/"
  | .eventType kind (some filter) => eventName kind ++ staticString ":" ++ filter ++ staticString "/"
  | .sourceId id => uuidText id
  | .correlationId id => staticString "/" ++ uuidText id

/-- Bytes that do not fit are not written. -/
def appended (writer : Writer) (bytes : List UInt8) : Writer × Bool :=
  if writer.position + bytes.length ≤ writer.capacity then
    ({ writer with
      buffer := fun offset =>
        if offset < writer.position then writer.buffer offset
        else bytes.getD (offset - writer.position) (writer.buffer offset)
      position := writer.position + bytes.length }, true)
  else (writer, false)

/-- One session whose processor accepts every event. -/
def acceptingCore : Core where
  Message := List (List UInt8) × List UInt8
  Frame := Unit
  WireData := List UInt8
  Operation := Unit
  Processor := Unit
  jsonCore := true
  maxTopicLength := 256
  maxPayloadSize := 2048
  validated topic payload :=
    let levels := topic.splitOn 0x2F
    if levels.take 2 = [staticString "coaty", staticString "3"] ∧ 5 ≤ levels.length then
      some (levels, payload)
    else none
  eventType message :=
    let kind := (message.1.getD 3 []).takeWhile (· ≠ 0x3A)
    ([.advertise, .deadvertise, .discover, .resolve, .associate, .ioValue].find?
      fun eventType => eventName eventType = kind).getD .other
  eventTypeFilter message :=
    let filter := (message.1.getD 3 []).dropWhile (· ≠ 0x3A)
    if filter = [] then none else some filter.tail
  correlationIdLevel message := message.1[5]?
  frame _ := some ()
  parseUUID := parseUuidText
  write level writer := appended writer (levelText level)
  decode _ source := some source
  encode value writer := appended writer value
  object _ _ := none
  uuidArray _ _ := none
  capable _ := true
  operation _ _ _ _ _ := some ()
  processOutbound _ _ _ := ((), .accepted)
  processInbound _ _ _ := ((), .accepted, [.deliver .other])
  expire _ _ := ((), false)
  copyActorRoute _ _ memory _ := (memory, none)

/-- Both agents after a reset. -/
def resetEndpoint : Endpoint acceptingCore where
  phase4AgentA := ⟨StaticDeviceAgent.agentAId, false, ()⟩
  phase4AgentB := ⟨StaticDeviceAgent.agentBId, false, ()⟩
  topic := fun _ => 0
  payload := fun _ => 0

def atMicroseconds (now : Int) : Platform where
  nowMicroseconds := now
  deviceDisplayName _ := (4, Memory.ofList (staticString "axo1"))

/-- A turn at a time, with what the poll returns and every send accepted. -/
def polling (now polled : Int) (topic payload : List UInt8) : Turn where
  loopMicroseconds := now
  nowMicroseconds := now
  expireMicroseconds := now
  advertiseAccepted := 1
  polled := polled
  inbound := ⟨topic, payload, now, atMicroseconds now⟩
  responseAccepted := 1
  routeMicroseconds := now
  deadvertisePlatform := atMicroseconds now
  deadvertiseAccepted := 1

/-- Role B's Discover, for the correlation of the static agents. -/
def discovering (now : Int) : Turn :=
  polling now 1 (staticString "coaty/3/axoloty-embedded/DSC/32400000-0000-4000-8000-00000000000b/32400000-0000-4000-8000-000000000004")
    (staticString "\x7b\"objectTypes\":[\"coaty.test.Device\"]\x7d")

def idleAt (now : Int) : Turn := polling now 0 [] []

def advertisedTopics (t : MessageSequence core) : List (List UInt8) :=
  t.effects.filterMap fun
    | .publish .advertise topic _ => some topic
    | _ => none

theorem exists_of_mem_advertisedTopics {topic : List UInt8} (sent : topic ∈ t.advertisedTopics) :
    ∃ payload, .publish .advertise topic payload ∈ t.effects := by
  obtain ⟨effect, inside, named⟩ := List.mem_filterMap.mp sent
  split at named <;> cases named
  exact ⟨_, inside⟩

def encodedTopic : List UInt8 :=
  staticString "coaty/3/axoloty-embedded/ADV:coaty.test.Device/32400000-0000-4000-8000-000000000001"

/-- Two Advertises, and the second after the peer's Discover has been answered. -/
theorem retained_of_run_discovered : ∃ t : MessageSequence acceptingCore,
    .discovered ∈ t.result ∧ t.advertisedTopics = [encodedTopic, encodedTopic] ∧
      ∀ topic payload, .publish .advertise topic payload ∈ t.effects →
        encodedAdvertise resetEndpoint (atMicroseconds 0) = some (topic, payload) := by
  let run : Exchange := ⟨.roleA, .exchange, 90000⟩
  obtain ⟨t, steps, seen⟩ := exists_run_of_exec
    (show (exec (next run) (Retains run)
      (start run resetEndpoint (fun _ => 0) (atMicroseconds 0) (reached run.scenario))
      [idleAt 0, idleAt 2000000, discovering 3000000]).map (fun t =>
        decide (.discovered ∈ t.result ∧ t.advertisedTopics = [encodedTopic, encodedTopic]))
          = some true by decide +kernel)
  obtain ⟨discovered, sent⟩ := of_decide_eq_true seen
  exact ⟨t, discovered, sent, retained_of_run run resetEndpoint _ _ steps⟩

/-- With a last will to test, the next Advertise is the start of the Resolve. -/
theorem advertise_overwritten :
    ¬∀ (core : Core) (run : Exchange) (endpoint : Endpoint core) (actorRoute : Memory)
        (platform : Platform) (turns : List Turn) (t : MessageSequence core),
      Run (next run) unguarded (start run endpoint actorRoute platform (reached run.scenario))
        turns t →
      ∀ topic payload, .publish .advertise topic payload ∈ t.effects →
        encodedAdvertise endpoint platform = some (topic, payload) := by
  intro holds
  let run : Exchange := ⟨.roleA, .lastWill, 90000⟩
  have other : (encodedAdvertise resetEndpoint (atMicroseconds 0)).map Prod.fst =
      some encodedTopic := by decide +kernel
  obtain ⟨t, steps, seen⟩ := exists_run_of_exec
    (show (exec (next run) unguarded
      (start run resetEndpoint (fun _ => 0) (atMicroseconds 0) (reached run.scenario))
      [discovering 0, idleAt 1000000]).map (fun t =>
        decide (∃ topic ∈ t.advertisedTopics, topic ≠ encodedTopic)) = some true by decide +kernel)
  obtain ⟨topic, sent, ne⟩ := of_decide_eq_true seen
  obtain ⟨payload, effect⟩ := exists_of_mem_advertisedTopics sent
  rw [holds _ _ _ _ _ _ _ steps _ _ effect] at other
  exact ne (Option.some.inj other)

end MessageSequence
end AxolotyEmbedded.DeviceAgent
