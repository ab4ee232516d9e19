import AxolotyEmbedded.DeviceAgent.RetainedAdvertise
import Mathlib.Data.Finset.Basic

/-!
The actor route of an exchange. Core's processor holds the current route of the local actor,
the exchange a copy of a route and its length, and the carrier a filter for each route it
accepted. An update subscribes the new route and forgets the old one, and the answers of
the carrier are dropped.
-/
namespace AxolotyEmbedded.DeviceAgent
open Transition

variable {core : Core} {run : Exchange}

/-! ## Core's actor routes -/

/-- The change of a local actor's route that an inbound frame reports. -/
def reportedChange (actor : UUID16) : ProcessorOutcome → List ProtocolAction →
    Option AssociationChange
  | .accepted, .associationChanged change key :: actions =>
      if (ProtocolAction.associationChanged change key :: actions).any
        (StaticDeviceAgent.delivers actor) then some change else none
  | _, _ => none

/-- How a change moves the one current route. -/
def RouteChanges (before after : Option (List UInt8)) : Option AssociationChange → Prop
  | none => after = before
  | some .established => before = none ∧ after ≠ none
  | some .updated => ∃ old new, before = some old ∧ after = some new ∧ new ≠ old
  | some .removed => before ≠ none ∧ after = none

/-- What is assumed of Core's processor: an actor has at most one current route, which only
an Associate frame changes, as it reports, and `copyActorRoute` copies no other route. -/
structure ActorRoutes (core : Core) where
  current : core.Processor → UUID16 → Option (List UInt8)
  outbound : ∀ processor operation nowMS actor,
    current (core.processOutbound processor operation nowMS).1 actor = current processor actor
  expired : ∀ processor nowMS actor,
    current (core.expire processor nowMS).1 actor = current processor actor
  kept : ∀ processor message frame nowMS actor, core.frame message = some frame →
    core.eventType message ≠ .associate →
      current (core.processInbound processor frame nowMS).1 actor = current processor actor
  associated : ∀ processor message frame nowMS actor, core.frame message = some frame →
    core.eventType message = .associate →
      let (processor', outcome, actions) := core.processInbound processor frame nowMS
      RouteChanges (current processor actor) (current processor' actor)
        (reportedChange actor outcome actions)
  copied : ∀ processor actor memory capacity length,
    (core.copyActorRoute processor actor memory capacity).2 = some length → 0 < length →
      length ≤ capacity → current processor actor =
        some ((core.copyActorRoute processor actor memory capacity).1.bytes length.toNat)

/-! ## One agent -/

variable (routes : ActorRoutes core)

namespace StaticDeviceAgent

/-- The current route of the agent's actor. -/
def route (agent : StaticDeviceAgent core) : Option (List UInt8) :=
  routes.current agent.processor agent.actorId

theorem route_encode (agent : StaticDeviceAgent core) (value : core.WireData)
    (eventType : WireEventType) (correlationId : Option UUID16) (nowMS : UInt32)
    (topicBuffer : Memory) (topicCapacity : Nat) (payloadBuffer : Memory) (payloadCapacity : Nat)
    (recordWithProcessor : Bool) :
    (agent.encode value eventType correlationId nowMS topicBuffer topicCapacity payloadBuffer
      payloadCapacity recordWithProcessor).1.route routes = agent.route routes := by
  rw [encode]
  split
  · rfl
  · split
    · rfl
    · dsimp only
      split
      · rfl
      · split
        · rfl
        · split
          · rfl
          · exact routes.outbound ..

/-- The change an inbound frame reports to the agent. -/
def change (agent : StaticDeviceAgent core) (message : core.Message) (nowMS : UInt32) :
    Option AssociationChange :=
  match core.frame message with
  | none => none
  | some frame =>
      let (_, outcome, actions) := core.processInbound agent.processor frame nowMS
      reportedChange agent.actorId outcome actions

/-- What a frame that is read makes of the agent. -/
theorem dispatch_agent (agent : StaticDeviceAgent core) (message : core.Message) (nowMS : UInt32)
    {frame : core.Frame} (framed : core.frame message = some frame)
    (plain : ¬ (core.eventType message = .discover ∧
      (core.eventTypeFilter message).any (· ≠ deviceFilter) = true)) :
    (agent.dispatch message nowMS).1.agentId = agent.agentId ∧
      (agent.dispatch message nowMS).1.processor =
        (core.processInbound agent.processor frame nowMS).1 := by
  rcases answered : core.processInbound agent.processor frame nowMS with
    ⟨processor, outcome, actions⟩
  simp only [dispatch, if_neg plain, framed, answered]
  cases outcome with
  | ignored | duplicate | correlationMismatch | deadlineExpired | rejected => exact ⟨rfl, rfl⟩
  | accepted =>
      cases actions with
      | nil => exact ⟨rfl, rfl⟩
      | cons action actions =>
          cases action with
          | associationChanged change key => cases change <;> exact ⟨rfl, rfl⟩
          | deliver _ | publish | externalRouteActivated | externalRouteDeactivated =>
              dsimp only
              split <;> exact ⟨rfl, rfl⟩

theorem route_dispatch_kept (agent : StaticDeviceAgent core) (message : core.Message)
    (nowMS : UInt32) (other : core.eventType message ≠ .associate) :
    (agent.dispatch message nowMS).1.route routes = agent.route routes := by
  by_cases filtered : core.eventType message = .discover ∧
      (core.eventTypeFilter message).any (· ≠ deviceFilter) = true
  · rw [dispatch, if_pos filtered]
  · cases framed : core.frame message with
    | none =>
        simp only [dispatch, if_neg filtered, framed]
    | some frame =>
        obtain ⟨agentId, processor⟩ := dispatch_agent agent message nowMS framed filtered
        rw [route, actorId, agentId, processor]
        exact routes.kept _ _ _ _ _ framed other

/-- An Associate changes the route as it reports, and is told apart by its change. -/
theorem dispatch_associate (agent : StaticDeviceAgent core) (message : core.Message)
    (nowMS : UInt32) (associate : core.eventType message = .associate) :
    let dispatched := agent.dispatch message nowMS
    RouteChanges (agent.route routes) (dispatched.1.route routes) (agent.change message nowMS) ∧
      (dispatched.2 = .ioActorAssociated ↔ agent.change message nowMS = some .established ∨
        agent.change message nowMS = some .updated) ∧
      (dispatched.2 = .ioActorDisassociated ↔ agent.change message nowMS = some .removed) := by
  have plain : ¬ (core.eventType message = .discover ∧
      (core.eventTypeFilter message).any (· ≠ deviceFilter) = true) := by
    simp [associate]
  intro dispatched
  cases framed : core.frame message with
  | none =>
      have malformed : dispatched = (agent, .malformed) := by
        simp only [dispatched, dispatch, if_neg plain, framed]
      simp [malformed, change, framed, RouteChanges]
  | some frame =>
      have associated := routes.associated agent.processor message frame nowMS agent.actorId framed
        associate
      obtain ⟨agentId, processor⟩ := dispatch_agent agent message nowMS framed plain
      refine ⟨?_, ?_⟩
      · rw [show dispatched.1.route routes =
          routes.current (core.processInbound agent.processor frame nowMS).1 agent.actorId by
            rw [route, actorId, agentId, processor, ← actorId]]
        simp only [change, framed]
        exact associated
      · rcases answered : core.processInbound agent.processor frame nowMS with
          ⟨processor, outcome, actions⟩
        simp only [dispatched, dispatch, change, framed, associate, answered]
        cases outcome with
        | ignored | duplicate | correlationMismatch | deadlineExpired | rejected =>
            simp [reportedChange]
        | accepted =>
            cases actions with
            | nil => simp [reportedChange]
            | cons action actions =>
                cases action with
                | deliver _ | publish | externalRouteActivated | externalRouteDeactivated =>
                    simp [reportedChange]
                | associationChanged change key =>
                    have sameActor : ({ agent with processor } : StaticDeviceAgent core).actorId =
                      agent.actorId := rfl
                    simp only [reportedChange, sameActor]
                    generalize List.any _ (delivers agent.actorId) = delivered
                    cases change <;> cases delivered <;> simp

end StaticDeviceAgent

/-! ## Both agents -/

namespace Endpoint

/-- The current route of the actor of a role. -/
def route (s : Endpoint core) (role : DeviceAgentRole) : Option (List UInt8) :=
  (s.agent role).route routes

/-- The change of that route an inbound Associate reports. -/
def change (s : Endpoint core) (role : DeviceAgentRole) (inbound : Inbound) :
    Option AssociationChange :=
  match core.validated inbound.topic inbound.payload with
  | none => none
  | some message =>
      if core.eventType message = .associate then
        (s.agent role).change message (phase4NowMS inbound.nowMicroseconds)
      else none

@[simp] theorem agent_setAgent (s : Endpoint core) (role : DeviceAgentRole)
    (agent : StaticDeviceAgent core) : (s.setAgent role agent).agent role = agent := by
  cases role <;> rfl

theorem route_phase4EncodeSource (s : Endpoint core) (role : DeviceAgentRole)
    (eventType : WireEventType) (correlationId : Option UUID16) (source : Option (List UInt8))
    (platform : Platform) (recordWithProcessor : Bool) :
    (s.phase4EncodeSource role eventType correlationId source platform
      recordWithProcessor).1.route routes role = s.route routes role := by
  rw [phase4EncodeSource]
  split
  · rfl
  · rename_i value _
    have encoded := StaticDeviceAgent.route_encode routes (s.agent role) value eventType
      correlationId (phase4NowMS platform.nowMicroseconds) s.topic core.maxTopicLength s.payload
      core.maxPayloadSize recordWithProcessor
    cases role <;> exact encoded

theorem route_preparePhase4Message (s : Endpoint core) (role : DeviceAgentRole)
    (kind : StaticAgentMessageKind) (responseCorrelationId : Option UUID16) (platform : Platform) :
    (s.preparePhase4Message role kind responseCorrelationId platform).1.route routes role =
      s.route routes role := by
  cases role with
  | roleA =>
      cases kind with
      | discover => rfl
      | advertise | resolve | deadvertise => exact route_phase4EncodeSource ..
  | roleB =>
      cases kind with
      | discover => exact route_phase4EncodeSource ..
      | advertise | resolve | deadvertise => rfl

theorem answerDiscover_route (dispatched : Endpoint core) (message : core.Message)
    (result : StaticDeviceDispatchResult) (platform : Platform) :
    let answered := dispatched.answerDiscover message result platform
    answered.1.route routes .roleA = dispatched.route routes .roleA ∧
      answered.2.1 ≠ .actorAssociated ∧ answered.2.1 ≠ .actorDisassociated := by
  simp only [answerDiscover]
  split
  · exact ⟨rfl, by simp, by simp⟩
  · split
    · exact ⟨rfl, by simp, by simp⟩
    · refine ⟨route_preparePhase4Message .., ?_⟩
      split <;> simp

theorem answerAdvertise_route (dispatched : Endpoint core) (result : StaticDeviceDispatchResult)
    (platform : Platform) :
    let answered := dispatched.answerAdvertise result platform
    answered.1.route routes .roleB = dispatched.route routes .roleB ∧
      answered.2.1 ≠ .actorAssociated ∧ answered.2.1 ≠ .actorDisassociated := by
  simp only [answerAdvertise]
  split
  · exact ⟨rfl, by simp, by simp⟩
  · refine ⟨route_preparePhase4Message .., ?_⟩
    split <;> simp

theorem associationAction_iff (result : StaticDeviceDispatchResult) :
    (associationAction result = .actorAssociated ↔ result = .ioActorAssociated) ∧
      (associationAction result = .actorDisassociated ↔ result = .ioActorDisassociated) := by
  cases result <;> decide

/-- What a received frame makes of the current route, and how the action tells it. -/
structure Tells (before after : Option (List UInt8)) (change : Option AssociationChange)
    (action : StaticAgentAction) : Prop where
  changes : RouteChanges before after change
  associated : action = .actorAssociated ↔ change = some .established ∨ change = some .updated
  disassociated : action = .actorDisassociated ↔ change = some .removed

theorem Tells.kept {before after : Option (List UInt8)} {action : StaticAgentAction}
    (same : after = before)
    (other : action ≠ .actorAssociated ∧ action ≠ .actorDisassociated) :
    Tells before after none action :=
  ⟨same, by simp [other.1], by simp [other.2]⟩

theorem receive_tells (s : Endpoint core) (role : DeviceAgentRole) (inbound : Inbound) :
    let received := s.receiveStaticAgentMessage role inbound
    Tells (s.route routes role) (received.1.route routes role) (s.change role inbound)
      received.2.1 := by
  intro received
  cases read : core.validated inbound.topic inbound.payload with
  | none =>
      have rejected : received = (s, .rejected, none) := by
        simp only [received, receiveStaticAgentMessage, read]
      rw [rejected, change, read]
      exact .kept rfl (by simp)
  | some message =>
      have dispatched : ((s.setAgent role ((s.agent role).dispatch message
          (phase4NowMS inbound.nowMicroseconds)).1).route routes role) =
            ((s.agent role).dispatch message (phase4NowMS inbound.nowMicroseconds)).1.route routes := by
        rw [route, agent_setAgent]
      by_cases associate : core.eventType message = .associate
      · obtain ⟨changes, associated, disassociated⟩ := StaticDeviceAgent.dispatch_associate routes
          (s.agent role) message (phase4NowMS inbound.nowMicroseconds) associate
        have answer : received = (s.setAgent role ((s.agent role).dispatch message
            (phase4NowMS inbound.nowMicroseconds)).1, associationAction ((s.agent role).dispatch
              message (phase4NowMS inbound.nowMicroseconds)).2, none) := by
          cases role <;> simp only [received, receiveStaticAgentMessage, read, associate]
        rw [answer, change, read]
        simp only [if_pos associate, dispatched]
        exact ⟨changes, (associationAction_iff _).1.trans associated,
          (associationAction_iff _).2.trans disassociated⟩
      · have kept := StaticDeviceAgent.route_dispatch_kept routes (s.agent role) message
          (phase4NowMS inbound.nowMicroseconds) associate
        have unchanged : s.change role inbound = none := by
          rw [change, read]
          exact if_neg associate
        rw [unchanged]
        have whole := dispatched.trans kept
        cases role with
        | roleA =>
            cases kind : core.eventType message with
            | associate => exact absurd kind associate
            | discover =>
                have answered := answerDiscover_route routes (s.setAgent .roleA
                  ((s.agent .roleA).dispatch message (phase4NowMS inbound.nowMicroseconds)).1) message
                  ((s.agent .roleA).dispatch message (phase4NowMS inbound.nowMicroseconds)).2
                  inbound.platform
                simp only [received, receiveStaticAgentMessage, read, kind]
                exact .kept (answered.1.trans whole) answered.2
            | ioValue =>
                simp only [received, receiveStaticAgentMessage, read, kind]
                refine .kept whole ?_
                split <;> simp
            | advertise | deadvertise | resolve | other =>
                simp only [received, receiveStaticAgentMessage, read, kind]
                exact .kept rfl (by simp)
        | roleB =>
            cases kind : core.eventType message with
            | associate => exact absurd kind associate
            | advertise =>
                have answered := answerAdvertise_route routes (s.setAgent .roleB
                  ((s.agent .roleB).dispatch message (phase4NowMS inbound.nowMicroseconds)).1)
                  ((s.agent .roleB).dispatch message (phase4NowMS inbound.nowMicroseconds)).2
                  inbound.platform
                simp only [received, receiveStaticAgentMessage, read, kind]
                exact .kept (answered.1.trans whole) answered.2
            | resolve | deadvertise | ioValue =>
                simp only [received, receiveStaticAgentMessage, read, kind]
                refine .kept whole ?_
                split <;> simp
            | discover | other =>
                simp only [received, receiveStaticAgentMessage, read, kind]
                exact .kept rfl (by simp)

end Endpoint

/-! ## The carrier's filters -/

/-- Where the route is kept: the processor's current one, the exchange's length and copy, and
the filters the carrier holds for the exchange. -/
structure RouteView where
  route : Option (List UInt8)
  length : Int
  recorded : List UInt8
  held : Finset (List UInt8)

/-- The carrier holds at most the current route, and the exchange takes a route for
subscribed exactly where the carrier holds it. -/
structure RouteView.Follows (v : RouteView) : Prop where
  current : ∀ filter ∈ v.held, v.route = some filter
  recorded : 0 < v.length → v.recorded ∈ v.held
  kept : ∀ filter ∈ v.held, 0 < v.length ∧ v.recorded = filter

/-- What one frame makes of a view. `copies` says whether a copy of the new route is made,
and `accepted` is the answer of the carrier. -/
structure RouteView.Handles (copies : Prop) (accepted : Int) (change : Option AssociationChange)
    (v w : RouteView) : Prop where
  changes : RouteChanges v.route w.route change
  quiet : change = none → w = v
  subscribes : change = some .established ∨ change = some .updated → copies →
    0 < w.length ∧ w.route = some w.recorded ∧
      w.held = if accepted ≠ 0 then insert w.recorded v.held else v.held
  uncopied : change = some .established ∨ change = some .updated → ¬ copies →
    w.length = v.length ∧ w.held = v.held
  unsubscribes : change = some .removed → 0 < v.length →
    w.length = 0 ∧ w.held = if accepted ≠ 0 then v.held.erase v.recorded else v.held
  untouched : change = some .removed → ¬ 0 < v.length → w.length = v.length ∧ w.held = v.held

/-- A frame makes a call of the carrier: it copies a new route, or removes a recorded one. -/
def CallsCarrier (copies : Prop) (length : Int) : Option AssociationChange → Prop
  | none => False
  | some .established | some .updated => copies
  | some .removed => 0 < length

/-- The carrier holds no route when one is updated, and accepts the call of the frame. -/
def RouteMet (copies : Prop) (accepted : Int) (change : Option AssociationChange) (length : Int)
    (held : Finset (List UInt8)) : Prop :=
  (change = some .updated → held = ∅) ∧ (CallsCarrier copies length change → accepted ≠ 0)

namespace RouteView
variable {copies : Prop} {accepted : Int} {change : Option AssociationChange} {v w : RouteView}

theorem Follows.length_le (follows : v.Follows) (empty : v.held = ∅) : ¬ 0 < v.length := by
  intro positive
  have member := follows.recorded positive
  rw [empty] at member
  exact Finset.notMem_empty _ member

theorem follows_empty (length : ¬ 0 < v.length) (empty : v.held = ∅) : v.Follows := by
  refine ⟨?_, fun positive => absurd positive length, ?_⟩
  · rw [empty]
    exact fun _ member => absurd member (Finset.notMem_empty _)
  · rw [empty]
    exact fun _ member => absurd member (Finset.notMem_empty _)

theorem follows_singleton (length : 0 < v.length) (route : v.route = some v.recorded)
    (held : v.held = {v.recorded}) : v.Follows := by
  refine ⟨?_, fun _ => held ▸ Finset.mem_singleton_self _, ?_⟩
  · intro filter member
    rw [held, Finset.mem_singleton] at member
    rw [member, route]
  · intro filter member
    rw [held, Finset.mem_singleton] at member
    exact ⟨length, member.symm⟩

theorem Follows.held_eq (follows : v.Follows) (positive : 0 < v.length) : v.held = {v.recorded} :=
  Finset.eq_singleton_iff_unique_mem.mpr ⟨follows.recorded positive, fun filter member =>
    (follows.kept filter member).2.symm⟩

theorem Follows.held_empty (follows : v.Follows) (length : ¬ 0 < v.length) : v.held = ∅ :=
  Finset.eq_empty_of_forall_notMem fun filter member => length (follows.kept filter member).1

/-- Subscribing the new route, with nothing held before. -/
theorem Handles.follows_subscribed (handles : v.Handles copies accepted change w)
    (associated : change = some .established ∨ change = some .updated) (empty : v.held = ∅)
    (follows : v.Follows) : w.Follows ↔ (copies → accepted ≠ 0) := by
  by_cases copy : copies
  · obtain ⟨positive, route, held⟩ := handles.subscribes associated copy
    by_cases answer : accepted ≠ 0
    · refine iff_of_true (follows_singleton positive route ?_) fun _ => answer
      rw [held, if_pos answer, empty]
      rfl
    · refine iff_of_false (fun after => ?_) fun given => answer (given copy)
      refine after.length_le ?_ positive
      rw [held, if_neg answer, empty]
  · obtain ⟨length, held⟩ := handles.uncopied associated copy
    refine iff_of_true (follows_empty ?_ (held.trans empty)) fun made => absurd made copy
    rw [length]
    exact follows.length_le empty

/-- A frame keeps the view right exactly where the step is met. -/
theorem Handles.follows_iff (handles : v.Handles copies accepted change w) (follows : v.Follows) :
    w.Follows ↔ RouteMet copies accepted change v.length v.held := by
  rcases change with _ | change
  · rw [handles.quiet rfl]
    exact iff_of_true follows ⟨fun impossible => (by cases impossible), fun impossible => impossible.elim⟩
  · cases change with
    | established =>
        have empty : v.held = ∅ := Finset.eq_empty_of_forall_notMem fun filter member => by
          have absent := handles.changes.1
          rw [follows.current filter member] at absent
          cases absent
        rw [handles.follows_subscribed (.inl rfl) empty follows]
        exact ⟨fun answered => ⟨fun impossible => (by cases impossible), answered⟩, fun met => met.2⟩
    | updated =>
        by_cases empty : v.held = ∅
        · rw [handles.follows_subscribed (.inr rfl) empty follows]
          exact ⟨fun answered => ⟨fun _ => empty, answered⟩, fun met => met.2⟩
        · refine iff_of_false (fun after => ?_) fun met => empty (met.1 rfl)
          obtain ⟨old, new, before, now, differs⟩ := handles.changes
          obtain ⟨filter, member⟩ := Finset.nonempty_iff_ne_empty.mpr empty
          have stays : filter ∈ w.held := by
            by_cases copy : copies
            · obtain ⟨-, -, held⟩ := handles.subscribes (.inr rfl) copy
              rw [held]
              split
              · exact Finset.mem_insert_of_mem member
              · exact member
            · rw [(handles.uncopied (.inr rfl) copy).2]
              exact member
          have current := after.current filter stays
          rw [now] at current
          rw [follows.current filter member] at before
          exact differs ((Option.some.inj current).trans (Option.some.inj before))
    | removed =>
        by_cases positive : 0 < v.length
        · obtain ⟨length, held⟩ := handles.unsubscribes rfl positive
          by_cases answer : accepted ≠ 0
          · refine iff_of_true (follows_empty (by omega) ?_)
              ⟨fun impossible => (by cases impossible), fun _ => answer⟩
            rw [held, if_pos answer, follows.held_eq positive]
            simp
          · refine iff_of_false (fun after => ?_) fun met => answer (met.2 positive)
            rw [if_neg answer] at held
            have current := after.current _ (held ▸ follows.recorded positive)
            rw [handles.changes.2] at current
            cases current
        · obtain ⟨length, held⟩ := handles.untouched rfl positive
          refine iff_of_true (follows_empty (by omega) (held.trans (follows.held_empty positive)))
            ⟨fun impossible => (by cases impossible), fun called => absurd called positive⟩

end RouteView

/-! ## The sequence and the carrier -/

/-- The filters after one effect of the sequence, where the carrier answers a call so. -/
def carried (accepted : Int) (held : Finset (List UInt8)) : Effect → Finset (List UInt8)
  | .subscribe route _ => if accepted ≠ 0 then insert route held else held
  | .unsubscribe route _ => if accepted ≠ 0 then held.erase route else held
  | .publish .. | .exchangeMilestone _ | .delay _ => held

/-- One turn, with the carrier's answer to the call it makes for the actor route. -/
structure RouteTurn extends Turn where
  routeAccepted : Int

/-- The sequence, with the actor-route filters the carrier holds for it. -/
structure RouteState (core : Core) where
  sequence : MessageSequence core
  held : Finset (List UInt8)

namespace RouteState

def next (run : Exchange) (s : RouteState core) (turn : RouteTurn) : Option (RouteState core) :=
  (s.sequence.next run turn.toTurn).map fun t =>
    ⟨t, (t.effects.drop s.sequence.effects.length).foldl (carried turn.routeAccepted) s.held⟩

def view (run : Exchange) (s : RouteState core) : RouteView where
  route := s.sequence.endpoint.route routes run.role
  length := s.sequence.actorRouteLength
  recorded := s.sequence.actorRoute.bytes s.sequence.actorRouteLength.toNat
  held := s.held

/-- The agents when the frame of a turn is received. -/
def receiver (run : Exchange) (s : RouteState core) (turn : RouteTurn) : Endpoint core :=
  (s.sequence.expire run turn.expireMicroseconds).endpoint

/-- The change that the frame of a turn reports. -/
def change (run : Exchange) (s : RouteState core) (turn : RouteTurn) : Option AssociationChange :=
  if turn.polled = 1 then (s.receiver run turn).change run.role turn.inbound else none

end RouteState

/-- From `s` to `t` nothing happens to the route. -/
structure Quiet (run : Exchange) (s t : MessageSequence core) : Prop where
  route : t.endpoint.route routes run.role = s.endpoint.route routes run.role
  buffer : t.actorRoute = s.actorRoute
  length : t.actorRouteLength = s.actorRouteLength
  effects : ∃ more, t.effects = s.effects ++ more ∧
    ∀ accepted held, more.foldl (carried accepted) held = held

namespace Quiet
variable {routes} {s t u : MessageSequence core}

theorem refl (s : MessageSequence core) : Quiet routes run s s :=
  ⟨rfl, rfl, rfl, [], by simp, fun _ _ => rfl⟩

theorem trans (first : Quiet routes run s t) (second : Quiet routes run t u) :
    Quiet routes run s u := by
  obtain ⟨more, grown, same⟩ := first.effects
  obtain ⟨more', grown', same'⟩ := second.effects
  refine ⟨second.route.trans first.route, second.buffer.trans first.buffer,
    second.length.trans first.length, more ++ more', by rw [grown', grown, List.append_assoc], ?_⟩
  intro accepted held
  rw [List.foldl_append, same, same']

theorem of_same (route : t.endpoint.route routes run.role = s.endpoint.route routes run.role)
    (buffer : t.actorRoute = s.actorRoute) (length : t.actorRouteLength = s.actorRouteLength)
    (effects : t.effects = s.effects) : Quiet routes run s t :=
  ⟨route, buffer, length, [], by simp [effects], fun _ _ => rfl⟩

theorem did (s : MessageSequence core) {effect : Effect}
    (other : ∀ accepted held, carried accepted held effect = held) :
    Quiet routes run s (s.did effect) :=
  ⟨rfl, rfl, rfl, [effect], rfl, fun accepted held => other accepted held⟩

theorem publishAgentMessage (s : MessageSequence core) (cause : Publication)
    (topicLength payloadLength accepted : Int) :
    Quiet routes run s (s.publishAgentMessage cause topicLength payloadLength accepted).1 := by
  rw [MessageSequence.publishAgentMessage]
  split
  · exact did s fun _ _ => rfl
  · exact refl s

theorem gain (s : MessageSequence core) (bit : ExchangeBit) : Quiet routes run s (s.gain bit) :=
  of_same rfl rfl rfl rfl

theorem expire (s : MessageSequence core) (nowMicroseconds : Int) :
    Quiet routes run s (s.expire run nowMicroseconds) := by
  refine of_same ?_ ?_ ?_ ?_
  · cases role : run.role with
    | roleA => simp only [MessageSequence.expire, role]
    | roleB =>
        simp only [MessageSequence.expire, role]
        exact routes.expired ..
  all_goals cases role : run.role <;> simp only [MessageSequence.expire, role]

theorem sendAdvertise (s : MessageSequence core) (accepted : Int) :
    Quiet routes run s (s.sendAdvertise accepted).1 := by
  rw [MessageSequence.sendAdvertise]
  split
  · exact publishAgentMessage ..
  · exact refl s

theorem advertise (s : MessageSequence core) (nowMS : Nat) (accepted : Int) :
    Quiet routes run s (s.advertise run nowMS accepted) := by
  have gained (sent : Bool) (t : MessageSequence core) :
      Quiet routes run t (if sent then t.gain .advertised else t) := by
    split
    · exact gain ..
    · exact refl t
  have noted (first : Prop) [Decidable first] (t : MessageSequence core) :
      Quiet routes run t (if first then t.did (.exchangeMilestone .advertised) else t) := by
    split
    · exact did t fun _ _ => rfl
    · exact refl t
  have timed (t : MessageSequence core) (nextAdvertiseMS : Nat) :
      Quiet routes run t { t with nextAdvertiseMS } := of_same rfl rfl rfl rfl
  rw [MessageSequence.advertise]
  split
  · exact (((sendAdvertise s accepted).trans (gained _ _)).trans (noted _ _)).trans (timed _ _)
  · exact refl s

theorem conclude (s : MessageSequence core) (nowMS : Nat) :
    Quiet routes run s (s.conclude run nowMS) := by
  have delays (t : MessageSequence core) :
      Quiet routes run t (if t.exchangeComplete then t else t.did (.delay 20)) := by
    split
    · exact refl t
    · exact did t fun _ _ => rfl
  simp only [MessageSequence.conclude]
  refine trans ?_ (delays _)
  split
  · exact of_same rfl rfl rfl rfl
  · exact refl s

theorem deadvertise (s : MessageSequence core) (nowMS : Nat) (turn : Turn) :
    Quiet routes run s (s.deadvertise run nowMS turn) := by
  rw [MessageSequence.deadvertise]
  split
  · rename_i due
    split
    · exact of_same rfl rfl rfl rfl
    · split
      · have prepared : (MessageSequence.prepareAgentMessage s.endpoint .roleA .deadvertise
            turn.deadvertisePlatform).1.route routes run.role = s.endpoint.route routes run.role := by
          have kept := Endpoint.route_preparePhase4Message routes s.endpoint .roleA .deadvertise none
            turn.deadvertisePlatform
          rw [due.1, MessageSequence.prepareAgentMessage]
          split
          · rename_i same
            rwa [same] at kept
          · rename_i same
            rwa [same] at kept
        split
        · rename_i endpoint same
          rw [same] at prepared
          exact of_same prepared rfl rfl rfl
        · rename_i endpoint topicLength payloadLength same
          rw [same] at prepared
          have encoded : Quiet routes run s { s with endpoint } := of_same prepared rfl rfl rfl
          have sent := encoded.trans (publishAgentMessage { s with endpoint } .deadvertise topicLength
            payloadLength turn.deadvertiseAccepted)
          dsimp only
          split
          · exact sent.trans (of_same rfl rfl rfl rfl)
          · exact sent
      · exact refl s
  · exact refl s

theorem handle (s : MessageSequence core) (turn : Turn) {action : StaticAgentAction}
    (other : action ≠ .actorAssociated ∧ action ≠ .actorDisassociated) (lengths : Int × Int) :
    Quiet routes run s (s.handleAgentMessage run turn action lengths).1 := by
  have gained (sent : Bool) (t : MessageSequence core) (bit : ExchangeBit) :
      Quiet routes run t (if sent then t.gain bit else t) := by
    split
    · exact gain ..
    · exact refl t
  cases action with
  | actorAssociated => exact absurd rfl other.1
  | actorDisassociated => exact absurd rfl other.2
  | resolved | deadvertised => exact gain ..
  | ioValueDelivered | ignored | rejected => exact refl s
  | response =>
      cases role : run.role with
      | roleB =>
          simp only [MessageSequence.handleAgentMessage, role]
          split
          · exact (gain s _).trans (did _ fun _ _ => rfl)
          · exact ((gain s _).trans (publishAgentMessage ..)).trans (gained _ _ _)
      | roleA =>
          simp only [MessageSequence.handleAgentMessage, role]
          have sent : Quiet routes run s ((s.gain .discovered).publishAgentMessage .response lengths.1
              lengths.2 turn.responseAccepted).1 :=
            (gain s .discovered).trans (publishAgentMessage ..)
          split
          · exact (sent.trans (gain _ _)).trans (did _ fun _ _ => rfl)
          · exact sent

end Quiet

/-- What is seen of the route, with these filters held. -/
def seen (run : Exchange) (s : MessageSequence core) (held : Finset (List UInt8)) : RouteView :=
  RouteState.view routes run ⟨s, held⟩

theorem Quiet.seen {s t : MessageSequence core} (quiet : Quiet routes run s t)
    (held : Finset (List UInt8)) : seen routes run t held = seen routes run s held := by
  simp only [DeviceAgent.seen, RouteState.view, quiet.route, quiet.buffer, quiet.length]

/-- Core copies a route into the room for one. -/
def CopiesRoute (agent : StaticDeviceAgent core) (actorRoute : Memory) : Prop :=
  ∃ length, (core.copyActorRoute agent.processor agent.actorId actorRoute
    core.maxTopicLength).2 = some length ∧ 0 < length ∧ length ≤ core.maxTopicLength

theorem handle_associated (s : MessageSequence core) (turn : Turn) (lengths : Int × Int)
    (copied : CopiesRoute (s.endpoint.agent run.role) s.actorRoute) :
    let agent := s.endpoint.agent run.role
    let copy := core.copyActorRoute agent.processor agent.actorId s.actorRoute core.maxTopicLength
    let t := (s.handleAgentMessage run turn .actorAssociated lengths).1
    t.endpoint = s.endpoint ∧ t.actorRoute = copy.1 ∧ copy.2 = some t.actorRouteLength ∧
      0 < t.actorRouteLength ∧ t.actorRouteLength ≤ core.maxTopicLength ∧
      t.effects = s.effects ++ [.subscribe (t.actorRoute.bytes t.actorRouteLength.toNat)
        (remaining run.endMS turn.routeMicroseconds)] := by
  obtain ⟨length, copied, positive, fits⟩ := copied
  have room : core.maxTopicLength ≠ 0 := by omega
  simp only [MessageSequence.handleAgentMessage, if_neg room, copied,
    if_pos (And.intro positive fits)]
  exact ⟨rfl, rfl, rfl, positive, fits, rfl⟩

theorem handle_uncopied (s : MessageSequence core) (turn : Turn) (lengths : Int × Int)
    (uncopied : ¬ CopiesRoute (s.endpoint.agent run.role) s.actorRoute) :
    let t := (s.handleAgentMessage run turn .actorAssociated lengths).1
    t.endpoint = s.endpoint ∧ t.actorRouteLength = s.actorRouteLength ∧ t.effects = s.effects := by
  simp only [MessageSequence.handleAgentMessage]
  split
  · exact ⟨rfl, rfl, rfl⟩
  · split
    · exact ⟨rfl, rfl, rfl⟩
    · rename_i length copied
      split
      · rename_i fits
        exact absurd ⟨length, copied, fits⟩ uncopied
      · exact ⟨rfl, rfl, rfl⟩

/-- What a received frame makes of the route and of the filters. -/
theorem handles_received (s : MessageSequence core) (turn : Turn) (held : Finset (List UInt8))
    (accepted : Int) :
    let received := s.endpoint.receiveStaticAgentMessage run.role turn.inbound
    ∃ more, (s.received run turn).1.effects = s.effects ++ more ∧
      (seen routes run s held).Handles (CopiesRoute (received.1.agent run.role) s.actorRoute)
        accepted (s.endpoint.change run.role turn.inbound)
        (seen routes run (s.received run turn).1 (more.foldl (carried accepted) held)) := by
  intro received
  have tells : Endpoint.Tells (s.endpoint.route routes run.role) (received.1.route routes run.role)
    (s.endpoint.change run.role turn.inbound) received.2.1 :=
    s.endpoint.receive_tells routes run.role turn.inbound
  let answered : MessageSequence core := { s with endpoint := received.1 }
  let lengths : Nat × Nat := received.2.2.getD (0, 0)
  have handled : s.received run turn =
      answered.handleAgentMessage run turn received.2.1 (lengths.1, lengths.2) := rfl
  rw [handled]
  by_cases associated : received.2.1 = .actorAssociated
  · have change := tells.associated.mp associated
    rw [associated]
    by_cases copies : CopiesRoute (received.1.agent run.role) s.actorRoute
    · obtain ⟨endpoint, buffer, copied, positive, fits, effects⟩ :=
        handle_associated answered turn (lengths.1, lengths.2) copies
      refine ⟨_, effects, ?_⟩
      generalize (answered.handleAgentMessage run turn .actorAssociated
        (lengths.1, lengths.2)).1 = after at *
      have route : after.endpoint.route routes run.role = received.1.route routes run.role := by
        rw [endpoint]
      have changes : RouteChanges (s.endpoint.route routes run.role)
          (after.endpoint.route routes run.role) (s.endpoint.change run.role turn.inbound) := by
        rw [route]
        exact tells.changes
      refine ⟨changes, ?_, fun _ _ => ⟨positive, ?_, rfl⟩, ?_, ?_, ?_⟩
      · intro none
        simp [none] at change
      · have current := routes.copied _ _ _ _ _ copied positive fits
        rw [← buffer] at current
        exact route.trans current
      · exact fun _ uncopied => absurd copies uncopied
      · intro removed
        simp [removed] at change
      · intro removed
        simp [removed] at change
    · obtain ⟨endpoint, length, effects⟩ :=
        handle_uncopied answered turn (lengths.1, lengths.2) copies
      refine ⟨[], by rw [effects, List.append_nil], ?_⟩
      generalize (answered.handleAgentMessage run turn .actorAssociated
        (lengths.1, lengths.2)).1 = after at *
      have route : after.endpoint.route routes run.role = received.1.route routes run.role := by
        rw [endpoint]
      have changes : RouteChanges (s.endpoint.route routes run.role)
          (after.endpoint.route routes run.role) (s.endpoint.change run.role turn.inbound) := by
        rw [route]
        exact tells.changes
      refine ⟨changes, ?_, ?_, fun _ _ => ⟨length, rfl⟩, ?_, ?_⟩
      · intro none
        simp [none] at change
      · exact fun _ copied => absurd copied copies
      · intro removed
        simp [removed] at change
      · intro removed
        simp [removed] at change
  · by_cases disassociated : received.2.1 = .actorDisassociated
    · have change := tells.disassociated.mp disassociated
      rw [disassociated]
      have other (associated : s.endpoint.change run.role turn.inbound = some .established ∨
          s.endpoint.change run.role turn.inbound = some .updated) : False := by
        simp [change] at associated
      by_cases positive : 0 < s.actorRouteLength
      · have after : (answered.handleAgentMessage run turn .actorDisassociated
            (lengths.1, lengths.2)).1 = { answered.did (.unsubscribe
              (s.actorRoute.bytes s.actorRouteLength.toNat)
              (remaining run.endMS turn.routeMicroseconds)) with actorRouteLength := 0 } := by
          simp only [MessageSequence.handleAgentMessage]
          rw [if_pos positive]
        rw [after]
        refine ⟨_, rfl, tells.changes, ?_, fun given => (other given).elim,
          fun given => (other given).elim, fun _ _ => ⟨rfl, rfl⟩, ?_⟩
        · intro none
          rw [none] at change
          cases change
        · exact fun _ empty => absurd positive empty
      · have after : (answered.handleAgentMessage run turn .actorDisassociated
            (lengths.1, lengths.2)).1 = answered := by
          simp only [MessageSequence.handleAgentMessage]
          rw [if_neg positive]
        rw [after]
        refine ⟨[], by simp [answered], tells.changes, ?_, fun given => (other given).elim,
          fun given => (other given).elim, fun _ some => absurd some positive, fun _ _ => ⟨rfl, rfl⟩⟩
        intro none
        rw [none] at change
        cases change
    · have quiet : Quiet routes run answered (answered.handleAgentMessage run turn received.2.1
          (lengths.1, lengths.2)).1 :=
        Quiet.handle answered turn ⟨associated, disassociated⟩ (lengths.1, lengths.2)
      obtain ⟨more, grown, same⟩ := quiet.effects
      have none : s.endpoint.change run.role turn.inbound = none := by
        cases change : s.endpoint.change run.role turn.inbound with
        | none => rfl
        | some change' =>
            cases change' with
            | established => exact absurd (tells.associated.mpr (.inl change)) associated
            | updated => exact absurd (tells.associated.mpr (.inr change)) associated
            | removed => exact absurd (tells.disassociated.mpr change) disassociated
      refine ⟨more, grown, ?_⟩
      rw [same, quiet.seen]
      have changes := tells.changes
      rw [none] at changes ⊢
      refine ⟨changes, fun _ => ?_, by simp, by simp, by simp, by simp⟩
      have route : received.1.route routes run.role = s.endpoint.route routes run.role := changes
      simp only [seen, RouteState.view, answered, route]

/-! ## Runs -/

namespace RouteState

/-- The step keeps the carrier's filters on the current route. -/
def Met (run : Exchange) (s : RouteState core) (turn : RouteTurn) : Prop :=
  RouteMet (CopiesRoute (((s.receiver run turn).receiveStaticAgentMessage run.role
    turn.inbound).1.agent run.role) s.sequence.actorRoute) turn.routeAccepted (s.change run turn)
    s.sequence.actorRouteLength s.held

/-- A turn handles the frame it polled, and nothing else of it matters for the route. -/
theorem handles_next {s t : RouteState core} {turn : RouteTurn} (taken : s.next run turn = some t) :
    (s.view routes run).Handles (CopiesRoute (((s.receiver run turn).receiveStaticAgentMessage
      run.role turn.inbound).1.agent run.role) s.sequence.actorRoute) turn.routeAccepted
      (s.change run turn) (t.view routes run) := by
  simp only [next, Option.map_eq_some_iff] at taken
  obtain ⟨after, stepped, rfl⟩ := taken
  simp only [MessageSequence.next, Option.ite_none_right_eq_some, Option.some.injEq] at stepped
  obtain ⟨-, stepped⟩ := stepped
  have expired : Quiet routes run s.sequence (s.sequence.expire run turn.expireMicroseconds) :=
    Quiet.expire ..
  have early := expired.trans (Quiet.advertise (s.sequence.expire run turn.expireMicroseconds)
    (milliseconds turn.nowMicroseconds) turn.advertiseAccepted)
  have endpoint := (MessageSequence.advertise_frame run (milliseconds turn.nowMicroseconds)
    turn.advertiseAccepted (s.sequence.expire run turn.expireMicroseconds)).1
  generalize advertised : (s.sequence.expire run turn.expireMicroseconds).advertise run
    (milliseconds turn.nowMicroseconds) turn.advertiseAccepted = middle at stepped early endpoint
  have silent : Quiet routes run (middle.receive run turn.toTurn) ((middle.receive run
      turn.toTurn).deadvertise run (milliseconds turn.nowMicroseconds) turn.toTurn) :=
    Quiet.deadvertise ..
  have late := silent.trans (Quiet.conclude _ (milliseconds turn.nowMicroseconds))
  rw [stepped] at late
  have same : seen routes run middle s.held = s.view routes run := early.seen routes s.held
  -- The filters after the turn are those after its frame.
  have folds {more : List Effect}
      (grown : (middle.receive run turn.toTurn).effects = middle.effects ++ more) :
      (after.effects.drop s.sequence.effects.length).foldl (carried turn.routeAccepted) s.held =
        more.foldl (carried turn.routeAccepted) s.held := by
    obtain ⟨before, began, kept⟩ := early.effects
    obtain ⟨behind, ended, kept'⟩ := late.effects
    rw [ended, grown, began, List.append_assoc, List.append_assoc, List.drop_left,
      List.foldl_append, List.foldl_append, kept, kept']
  by_cases polled : turn.polled = 1
  · obtain ⟨more, grown, handles⟩ :=
      @handles_received core run routes middle turn.toTurn s.held turn.routeAccepted
    have receive : middle.receive run turn.toTurn =
        { (middle.received run turn.toTurn).1 with
          exchangeComplete := (middle.received run turn.toTurn).2 } := by
      rw [MessageSequence.receive, if_pos polled]
    have quiet : Quiet routes run (middle.received run turn.toTurn).1
        (middle.receive run turn.toTurn) := by
      rw [receive]
      exact .of_same rfl rfl rfl rfl
    have ended := (quiet.trans late).seen routes (more.foldl (carried turn.routeAccepted) s.held)
    have whole : (middle.receive run turn.toTurn).effects = middle.effects ++ more := by
      rw [receive]
      exact grown
    rw [change, if_pos polled, folds whole]
    rw [endpoint, same, early.buffer, ← ended] at handles
    exact handles
  · have quiet : Quiet routes run middle (middle.receive run turn.toTurn) := by
      rw [MessageSequence.receive, if_neg polled]
      split
      · exact .of_same rfl rfl rfl rfl
      · split
        · exact .of_same rfl rfl rfl rfl
        · exact .refl _
    obtain ⟨more, grown, kept⟩ := quiet.effects
    have ended := (quiet.trans late).seen routes s.held
    rw [change, if_neg polled, folds grown, kept]
    rw [same] at ended
    change (s.view routes run).Handles _ _ none (seen routes run after s.held)
    rw [ended]
    exact ⟨rfl, fun _ => rfl, by simp, by simp, by simp, by simp⟩

/-- A turn keeps the view right exactly where it is met. -/
theorem follows_next_iff {s t : RouteState core} {turn : RouteTurn}
    (follows : (s.view routes run).Follows) (taken : s.next run turn = some t) :
    (t.view routes run).Follows ↔ s.Met run turn :=
  (handles_next routes taken).follows_iff follows

/-- The sequence before its loop, when the carrier holds no actor route. -/
def start (run : Exchange) (endpoint : Endpoint core) (actorRoute : Memory) (platform : Platform)
    (result : AgentExchangeResult) : RouteState core :=
  ⟨MessageSequence.start run endpoint actorRoute platform result, ∅⟩

/-- Whatever Core and the carrier do, and whichever frames arrive: the carrier's actor-route
filters follow Core's current route in every state of a run exactly when every step of it
is met. -/
theorem routeFollows_iff (run : Exchange) (endpoint : Endpoint core) (actorRoute : Memory)
    (platform : Platform) (result : AgentExchangeResult) {turns : List RouteTurn}
    {t : RouteState core}
    (steps : Run (next run) unguarded (start run endpoint actorRoute platform result) turns t) :
    (∀ before u, before <+: turns →
      Run (next run) unguarded (start run endpoint actorRoute platform result) before u →
        (u.view routes run).Follows) ↔
    ∀ before turn u, before ++ [turn] <+: turns →
      Run (next run) unguarded (start run endpoint actorRoute platform result) before u →
        u.Met run turn := by
  refine steps.forall_good_iff ?_ ?_ ?_
  · refine RouteView.follows_empty ?_ rfl
    simp [start, view, MessageSequence.start]
  · exact fun follows met taken => (follows_next_iff routes follows taken).mpr met
  · exact fun follows unmet taken after => unmet ((follows_next_iff routes follows taken).mp after)

/-! ## An update -/

/-- A processor with one actor, whose route an Associate names; an empty one removes it. -/
def associate (current : Option (List UInt8)) :
    List UInt8 → Option (List UInt8) × ProcessorOutcome × List ProtocolAction
  | [] =>
      if current.isSome then
        (none, .accepted, [.associationChanged .removed (.ioActor StaticDeviceAgent.actorBId)])
      else (none, .ignored, [])
  | route =>
      if current = none then (some route, .accepted,
        [.associationChanged .established (.ioActor StaticDeviceAgent.actorBId)])
      else if current = some route then (current, .ignored, [])
      else (some route, .accepted,
        [.associationChanged .updated (.ioActor StaticDeviceAgent.actorBId)])

/-- The accepting session with the actor of role B associated as Associate frames tell. -/
def associatingCore : Core where
  Message := List (List UInt8) × List UInt8
  Frame := Option (List UInt8)
  WireData := List UInt8
  Operation := Unit
  Processor := Option (List UInt8)
  jsonCore := true
  maxTopicLength := 256
  maxPayloadSize := 2048
  validated := MessageSequence.acceptingCore.validated
  eventType := MessageSequence.acceptingCore.eventType
  eventTypeFilter := MessageSequence.acceptingCore.eventTypeFilter
  correlationIdLevel := MessageSequence.acceptingCore.correlationIdLevel
  frame message := some
    (if MessageSequence.acceptingCore.eventType message = .associate then some message.2 else none)
  parseUUID := MessageSequence.acceptingCore.parseUUID
  write := MessageSequence.acceptingCore.write
  decode := MessageSequence.acceptingCore.decode
  encode := MessageSequence.acceptingCore.encode
  object _ _ := none
  uuidArray _ _ := none
  capable _ := true
  operation _ _ _ _ _ := some ()
  processOutbound processor _ _ := (processor, .accepted)
  processInbound processor frame _ :=
    match frame with
    | some route => associate processor route
    | none => (processor, .accepted, [.deliver .other])
  expire processor _ := (processor, false)
  copyActorRoute processor actor memory capacity :=
    match processor with
    | some route =>
        if actor = StaticDeviceAgent.actorBId ∧ route.length ≤ capacity then
          (Memory.ofList route, some route.length)
        else (memory, none)
    | none => (memory, none)

theorem associate_changes (current : Option (List UInt8)) (route : List UInt8) (actor : UUID16) :
    RouteChanges (if actor = StaticDeviceAgent.actorBId then current else none)
      (if actor = StaticDeviceAgent.actorBId then (associate current route).1 else none)
      (reportedChange actor (associate current route).2.1 (associate current route).2.2) := by
  by_cases owner : actor = StaticDeviceAgent.actorBId
  · subst owner
    simp only [if_true]
    cases route with
    | nil =>
        cases current <;> simp [associate, reportedChange, RouteChanges, StaticDeviceAgent.delivers]
    | cons byte route =>
        cases current with
        | none => simp [associate, reportedChange, RouteChanges, StaticDeviceAgent.delivers]
        | some old =>
            by_cases same : old = byte :: route
            · simp [associate, reportedChange, RouteChanges, same]
            · simp [associate, reportedChange, RouteChanges, StaticDeviceAgent.delivers, same,
                Ne.symm same]
  · have other : ¬ StaticDeviceAgent.actorBId = actor := fun same => owner same.symm
    simp only [if_neg owner]
    cases route with
    | nil =>
        cases current <;>
          simp [associate, reportedChange, RouteChanges, StaticDeviceAgent.delivers, other]
    | cons byte route =>
        simp only [associate]
        split
        · simp [reportedChange, RouteChanges, StaticDeviceAgent.delivers, other]
        · split <;> simp [reportedChange, RouteChanges, StaticDeviceAgent.delivers, other]

def associatingRoutes : ActorRoutes associatingCore where
  current processor actor := if actor = StaticDeviceAgent.actorBId then processor else none
  outbound _ _ _ _ := rfl
  expired _ _ _ := rfl
  kept processor message frame nowMS actor framed other := by
    obtain rfl := Option.some.inj framed
    simp only [associatingCore] at other ⊢
    simp only [if_neg other]
  associated processor message frame nowMS actor framed associated := by
    obtain rfl := Option.some.inj framed
    simp only [associatingCore] at associated ⊢
    simp only [if_pos associated]
    exact associate_changes processor message.2 actor
  copied processor actor memory capacity length copied positive fits := by
    cases processor with
    | none => cases copied
    | some route =>
        by_cases whole : actor = StaticDeviceAgent.actorBId ∧ route.length ≤ capacity
        · simp only [associatingCore, if_pos whole] at copied ⊢
          obtain rfl := Option.some.inj copied
          simp [whole.1]
        · simp only [associatingCore, if_neg whole] at copied
          cases copied

def associatingEndpoint : Endpoint associatingCore where
  phase4AgentA := ⟨StaticDeviceAgent.agentAId, false, none⟩
  phase4AgentB := ⟨StaticDeviceAgent.agentBId, false, none⟩
  topic := fun _ => 0
  payload := fun _ => 0

/-- A turn that receives the Associate of a route, with every call accepted. -/
def associating (now : Int) (route : String) : RouteTurn where
  toTurn := MessageSequence.polling now 1
    (staticString "coaty/3/axoloty-embedded/ASC/32400000-0000-4000-8000-000000000001")
    (staticString route)
  routeAccepted := 1

def associatingRun : Exchange := ⟨.roleB, .exchange, 90000⟩

def associatingStart : RouteState associatingCore :=
  start associatingRun associatingEndpoint (fun _ => 0) (MessageSequence.atMicroseconds 0)
    (reached .exchange)

/-- The route is subscribed, and unsubscribed when it is removed. -/
theorem routeFollows_iff_removed :
    ∃ t, Run (next associatingRun) unguarded associatingStart
        [associating 0 "route/one", associating 20000 ""] t ∧ t.held = ∅ ∧
      ((∀ before u, before <+: [associating 0 "route/one", associating 20000 ""] →
        Run (next associatingRun) unguarded associatingStart before u →
          (u.view associatingRoutes associatingRun).Follows) ↔
      ∀ before turn u, before ++ [turn] <+: [associating 0 "route/one", associating 20000 ""] →
        Run (next associatingRun) unguarded associatingStart before u → u.Met associatingRun turn) := by
  obtain ⟨t, steps, empty⟩ := exists_run_of_exec
    (show (exec (next associatingRun) unguarded associatingStart
      [associating 0 "route/one", associating 20000 ""]).map (fun t => decide (t.held = ∅)) =
        some true by decide +kernel)
  exact ⟨t, steps, of_decide_eq_true empty,
    routeFollows_iff associatingRoutes associatingRun associatingEndpoint _ _ _ steps⟩

/-- After an update the carrier holds the old route beside the new one. -/
theorem not_routeFollows_updated :
    ¬∀ (core : Core) (routes : ActorRoutes core) (run : Exchange) (endpoint : Endpoint core)
        (actorRoute : Memory) (platform : Platform) (turns : List RouteTurn) (t : RouteState core),
      Run (next run) unguarded (start run endpoint actorRoute platform (reached run.scenario))
        turns t → (t.view routes run).Follows := by
  intro holds
  obtain ⟨t, steps, held⟩ := exists_run_of_exec
    (show (exec (next associatingRun) unguarded associatingStart
      [associating 0 "route/one", associating 20000 "route/two"]).map (fun t =>
        decide (staticString "route/one" ∈ t.held ∧ staticString "route/two" ∈ t.held)) =
          some true by decide +kernel)
  obtain ⟨first, second⟩ := of_decide_eq_true held
  have follows := holds associatingCore associatingRoutes associatingRun associatingEndpoint _ _ _ t
    steps
  have one := follows.current _ first
  rw [follows.current _ second] at one
  exact absurd one (by decide)

end RouteState

end AxolotyEmbedded.DeviceAgent
