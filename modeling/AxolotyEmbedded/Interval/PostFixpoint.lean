import AxolotyEmbedded.Interval.Replayed

/-!
The loop of `analyze` computes a post-fixpoint: when it is left, every state that a
recorded state leads to is below the recorded state of its location.
-/
namespace AxolotyEmbedded.Interval

open Replay Checked
open FirstInit (Function Instruction)

/-! ## Joining the successors -/

/-- Recorded states grow, and those that have changed are visited again. -/
structure Exploration.Extends (x y : Exploration) : Prop where
  states : ∀ loc state, x.states.get? loc = some state →
    ∃ later, y.states.get? loc = some later ∧ state.Below later
  changed : ∀ loc state, y.states.get? loc = some state →
    x.states.get? loc = some state ∨ loc ∈ y.work
  work : x.work ⊆ y.work
  maximum : x.maximum ≤ y.maximum
  count : y.count = x.count

namespace Exploration.Extends

variable {x y z : Exploration}

theorem refl (x : Exploration) : x.Extends x :=
  ⟨fun _ state held => ⟨state, held, State.Below.refl state⟩, fun _ _ held => .inl held,
    List.Subset.refl _, le_refl _, rfl⟩

theorem trans (first : x.Extends y) (second : y.Extends z) : x.Extends z := by
  constructor
  · intro loc state held
    obtain ⟨middle, there, below⟩ := first.states loc state held
    obtain ⟨later, here, above⟩ := second.states loc middle there
    exact ⟨later, here, below.trans above⟩
  · intro loc state held
    cases second.changed loc state held with
    | inl kept => exact (first.changed loc state kept).imp_right fun queued => second.work queued
    | inr queued => exact .inr queued
  · exact List.Subset.trans first.work second.work
  · exact le_trans first.maximum second.maximum
  · exact second.count.trans first.count

end Exploration.Extends

namespace Exploration

variable {x y : Exploration} {pc : Int} {next : Successor}

/-- A new state that is above the old one of its location. -/
theorem extends_queue {loc : Location} {state : State}
    (larger : ∀ old, x.states.get? loc = some old → old.Below state) :
    x.Extends (x.queue loc state) := by
  constructor
  · intro place old held
    by_cases here : place = loc
    · subst here
      exact ⟨state, by simp [queue], larger old held⟩
    · exact ⟨old, by simpa [queue, here] using held, State.Below.refl old⟩
  · intro place later held
    by_cases here : place = loc
    · exact .inr (by simp [queue, here])
    · exact .inl (by simpa [queue, here] using held)
  · exact List.subset_append_left _ _
  · exact le_refl _
  · rfl

/-- The ways in which a successor is recorded. -/
theorem record_cases (recorded : x.record pc next = .ok y) :
    x.states.get? next.location = none ∧ y = x.queue next.location next.state ∨
      ∃ old merged, x.states.get? next.location = some old ∧
        old.merge next.state = .ok merged ∧
        (merged.Same old ∧ y = x ∨ y = x.queue next.location merged) := by
  rw [record] at recorded
  split at recorded
  · next absent =>
      cases recorded
      exact .inl ⟨absent, rfl⟩
  · next old held =>
      obtain ⟨merged, joined, rest⟩ := Checked.bind_eq_ok.mp recorded
      have merges : old.merge next.state = .ok merged := by
        cases attempt : old.merge next.state with
        | error failure =>
            rw [attempt] at joined
            cases joined
        | ok state =>
            rw [attempt] at joined
            cases joined
            rfl
      refine .inr ⟨old, merged, held, merges, ?_⟩
      by_cases same : merged.Same old
      · rw [if_pos same] at rest
        cases rest
        exact .inl ⟨same, rfl⟩
      · rw [if_neg same] at rest
        cases rest
        exact .inr rfl

/-- A recorded successor is below the state of its location. -/
theorem record_spec (recorded : x.record pc next = .ok y) :
    x.Extends y ∧ ∃ state, y.states.get? next.location = some state ∧ next.state.Below state := by
  cases record_cases recorded with
  | inl new =>
      obtain ⟨absent, rfl⟩ := new
      constructor
      · apply extends_queue
        intro old held
        rw [absent] at held
        cases held
      · exact ⟨next.state, by simp [queue], State.Below.refl _⟩
  | inr joined =>
      obtain ⟨old, merged, held, merges, outcome⟩ := joined
      have below := State.below_merge merges
      cases outcome with
      | inl kept =>
          obtain ⟨same, rfl⟩ := kept
          exact ⟨Extends.refl _, old, held, below.2.trans same.below⟩
      | inr new =>
          subst new
          constructor
          · apply extends_queue
            intro other same
            rw [held] at same
            cases same
            exact below.1
          · exact ⟨merged, by simp [queue], below.2⟩

/-- The stack pointer of a state is that of its location, or too large a set. -/
def SpKept (x : Exploration) : Prop :=
  ∀ loc state, x.states.get? loc = some state → state.regs 2 = loc.sp ∨ state.regs 2 = none

theorem spKept_queue {loc : Location} {state : State} (kept : x.SpKept)
    (own : state.regs 2 = loc.sp ∨ state.regs 2 = none) : (x.queue loc state).SpKept := by
  intro place held same
  by_cases here : place = loc
  · subst here
    have inside : held = state := by simpa [queue, eq_comm] using same
    rw [inside]
    exact own
  · exact kept place held (by simpa [queue, here] using same)

theorem spKept_record (recorded : x.record pc next = .ok y) (kept : x.SpKept) : y.SpKept := by
  cases record_cases recorded with
  | inl new =>
      obtain ⟨_, rfl⟩ := new
      exact spKept_queue kept (.inl rfl)
  | inr joined =>
      obtain ⟨old, merged, held, merges, outcome⟩ := joined
      cases outcome with
      | inl same =>
          obtain ⟨_, rfl⟩ := same
          exact kept
      | inr new =>
          subst new
          apply spKept_queue kept
          cases State.merge_sp merges with
          | inl own =>
              rw [own]
              exact kept _ old held
          | inr unknown => exact .inr unknown

theorem record_all {list : List Successor}
    (recorded : list.foldlM (fun x next => x.record pc next) x = .ok y) :
    x.Extends y ∧ (x.SpKept → y.SpKept) ∧ ∀ next ∈ list, ∃ state,
      y.states.get? next.location = some state ∧ next.state.Below state := by
  induction list generalizing x with
  | nil =>
      cases recorded
      exact ⟨Extends.refl _, fun kept => kept, fun _ none => nomatch none⟩
  | cons first rest ih =>
      rw [List.foldlM_cons] at recorded
      obtain ⟨z, here, later⟩ := Checked.bind_eq_ok.mp recorded
      obtain ⟨grown, state, held, below⟩ := record_spec here
      obtain ⟨grown', kept', others⟩ := ih later
      refine ⟨grown.trans grown', fun kept => kept' (spKept_record here kept), ?_⟩
      intro next member
      cases List.mem_cons.mp member with
      | inl same =>
          subst same
          obtain ⟨last, kept, above⟩ := grown'.states _ _ held
          exact ⟨last, kept, below.trans above⟩
      | inr inside => exact others next inside

/-! ## The bounds of an instruction -/

theorem reach_spec (x : Exploration) (bound : Bound) :
    x.Extends (x.reach bound) ∧ (x.reach bound).states = x.states ∧
      bound.1 ≤ (x.reach bound).maximum := by
  rw [reach]
  split
  · next deeper =>
      refine ⟨⟨(Extends.refl x).states, (Extends.refl x).changed, List.Subset.refl _, ?_, rfl⟩,
        rfl, le_refl _⟩
      exact Int.le_of_lt deeper
  · next within => exact ⟨Extends.refl x, rfl, Int.not_lt.mp within⟩

theorem reach_all (bounds : List Bound) (x : Exploration) :
    x.Extends (bounds.foldl reach x) ∧ (bounds.foldl reach x).states = x.states ∧
      ∀ bound ∈ bounds, bound.1 ≤ (bounds.foldl reach x).maximum := by
  induction bounds generalizing x with
  | nil => exact ⟨Extends.refl x, rfl, fun _ none => nomatch none⟩
  | cons first rest ih =>
      obtain ⟨grown, same, within⟩ := reach_spec x first
      obtain ⟨grown', same', others⟩ := ih (x.reach first)
      refine ⟨grown.trans grown', same'.trans same, fun bound member => ?_⟩
      cases List.mem_cons.mp member with
      | inl same =>
          subst same
          exact le_trans within grown'.maximum
      | inr inside => exact others bound inside

theorem add_spec (x : Exploration) (turn : Turn) :
    x.Extends (x.add turn) ∧ (x.add turn).states = x.states ∧
      ∀ bound ∈ turn.reaches, bound.1 ≤ (x.add turn).maximum := by
  obtain ⟨grown, same, within⟩ := reach_all turn.reaches { x with
    localMax := max x.localMax turn.depth
    returned := x.returned ++ turn.returned
    stops := x.stops ++ turn.stopped }
  exact ⟨⟨grown.states, grown.changed, grown.work, grown.maximum, grown.count⟩, same, within⟩

end Exploration

/-! ## The invariant of the loop -/

theorem orRaise_eq_ok {α : Type} {failure : Failure} {value : Option α} {a : α} :
    orRaise failure value = .ok a ↔ value = some a := by
  cases value with
  | none => simp [orRaise]
  | some b => simp [orRaise]

/-- The depth of the stack in a state that an edge leads to. -/
def Successor.depth (next : Successor) : Option Int :=
  (only (next.state.regs 2)).map fun sp => stackBase - sp

section Loop

variable (python : Interpreter) (options : Options) (initial : Regs)
  (call : Int → Value → EngineM Bound) (fn : Function)

/-- The execution of an instruction on a state comes to `turn` in every later engine. -/
def ComesTo (engine : Engine) (pc : Int) (state : State) (turn : Turn) : Prop :=
  ∀ later, engine ≤ later → ∃ last,
    execute python options initial call pc state later = .ok (turn, last) ∧ later ≤ last

/-- A state whose successors are recorded. -/
structure Processed (x : Exploration) (engine : Engine) (pc : Int) (state : State) (turn : Turn) :
    Prop where
  again : ComesTo python options initial call engine pc state turn
  depth : turn.depth ≤ x.maximum
  sp : only (state.regs 2) = some (stackBase - turn.depth)
  recorded : ∀ next ∈ turn.successors, ∃ later, x.states.get? next.location = some later ∧
    next.state.Below later

/-- What every pass of the loop keeps. -/
structure LoopInvariant (entered : Engine) (x : Exploration) (engine : Engine) : Prop where
  grown : entered ≤ engine
  count : x.count ≤ iterationLimit
  sp : x.SpKept
  processed : ∀ loc state, x.states.get? loc = some state → loc ∈ x.work ∨
    loc.pc ∈ options.stopPcs ∨
      ∃ turn, Processed python options initial call x engine loc.pc state turn

variable {python options initial call fn} {x y : Exploration} {e f : Engine} {pc : Int}
  {state : State} {turn : Turn}

theorem Processed.mono (processed : Processed python options initial call x e pc state turn)
    (states : ∀ loc state, x.states.get? loc = some state →
      ∃ later, y.states.get? loc = some later ∧ state.Below later)
    (maximum : x.maximum ≤ y.maximum) (later : e ≤ f) :
    Processed python options initial call y f pc state turn := by
  constructor
  · intro u above
    exact processed.again u (le_trans later above)
  · exact le_trans processed.depth maximum
  · exact processed.sp
  · intro next member
    obtain ⟨old, held, below⟩ := processed.recorded next member
    obtain ⟨new, kept, above⟩ := states _ _ held
    exact ⟨new, kept, below.trans above⟩

/-- The first bound of an instruction is the depth of its own stack. -/
theorem execute_depth (done : execute python options initial call pc state e = .ok (turn, f)) :
    only (state.regs 2) = some (stackBase - turn.depth) ∧
      ∃ bound ∈ turn.reaches, bound.1 = turn.depth := by
  rw [execute] at done
  obtain ⟨owner, _, _, done⟩ := bind_run_eq_ok.mp done
  obtain ⟨found, _, _, done⟩ := bind_run_eq_ok.mp done
  obtain ⟨ins, _, _, done⟩ := bind_run_eq_ok.mp done
  obtain ⟨sp, _, pointer, done⟩ := bind_run_eq_ok.mp done
  obtain ⟨_, _, _, done⟩ := bind_run_eq_ok.mp done
  obtain ⟨locals, _, _, done⟩ := bind_run_eq_ok.mp done
  obtain ⟨_, _, _, done⟩ := bind_run_eq_ok.mp done
  obtain ⟨next, _, _, done⟩ := bind_run_eq_ok.mp done
  obtain ⟨same, _⟩ := pure_run_eq_ok.mp done
  subst same
  have member : only (state.regs 2) = some sp := orRaise_eq_ok.mp (lift_run_eq_ok.mp pointer).1
  constructor
  · rw [member]
    exact congrArg some (Int.sub_sub_self stackBase sp).symm
  · exact ⟨_, List.mem_cons_self, rfl⟩

theorem le_note {add : Evidence → Evidence} {u : Unit} (done : note add e = .ok (u, f)) : e ≤ f :=
  (replays_note add e u f done).1

theorem refuse_run_eq_ok {refused : Prop} [Decidable refused] {failure : Failure} {u : Unit} :
    refuse refused failure e = .ok (u, f) ↔ ¬refused ∧ e = f := by
  rw [refuse, lift_run_eq_ok, refuseIf_eq_ok]

/-- A pass keeps what was processed and processes its own location. -/
theorem processed_after {current : Location} {work : List Location} {own : State}
    (taken : x.work = current :: work) (held : x.states.get? current = some own)
    (before : ∀ loc state, x.states.get? loc = some state → loc ∈ x.work ∨
      loc.pc ∈ options.stopPcs ∨
        ∃ turn, Processed python options initial call x e loc.pc state turn)
    (grown : { x with work, count := x.count + 1 : Exploration }.Extends y) (later : e ≤ f)
    (here : current.pc ∈ options.stopPcs ∨
      ∃ turn, Processed python options initial call y f current.pc own turn) :
    ∀ loc state, y.states.get? loc = some state → loc ∈ y.work ∨ loc.pc ∈ options.stopPcs ∨
      ∃ turn, Processed python options initial call y f loc.pc state turn := by
  intro loc state recorded
  cases grown.changed loc state recorded with
  | inr queued => exact .inl queued
  | inl kept =>
      by_cases same : loc = current
      · subst same
        cases held.symm.trans kept
        exact .inr here
      · cases before loc state kept with
        | inl queued =>
            rw [taken] at queued
            exact .inl (grown.work ((List.mem_cons.mp queued).resolve_left same))
        | inr done =>
            right
            apply done.imp_right
            intro processed
            obtain ⟨turn, known⟩ := processed
            exact ⟨turn, known.mono grown.states grown.maximum later⟩

theorem visit_spec (calls : Cached call) {current : Location} {work : List Location}
    {entered : Engine} (taken : x.work = current :: work)
    (invariant : LoopInvariant python options initial call entered x e)
    (done : visit python options initial call fn current
      { x with work, count := x.count + 1 } e = .ok (y, f)) :
    LoopInvariant python options initial call entered y f ∧ y.count = x.count + 1 := by
  rw [visit] at done
  obtain ⟨_, _, checked, done⟩ := bind_run_eq_ok.mp done
  obtain ⟨within, rfl⟩ := refuse_run_eq_ok.mp checked
  obtain ⟨own, _, lookup, done⟩ := bind_run_eq_ok.mp done
  obtain ⟨found, rfl⟩ := lift_run_eq_ok.mp lookup
  obtain ⟨_, noted, visited, done⟩ := bind_run_eq_ok.mp done
  have held : x.states.get? current = some own := orRaise_eq_ok.mp found
  have bounded : x.count + 1 ≤ iterationLimit := Nat.not_lt.mp within
  have first := le_note visited
  by_cases stops : current.pc ∈ options.stopPcs
  · rw [if_pos stops] at done
    obtain ⟨stop, _, stopped, done⟩ := bind_run_eq_ok.mp done
    obtain ⟨_, rfl⟩ := lift_run_eq_ok.mp stopped
    obtain ⟨rfl, rfl⟩ := pure_run_eq_ok.mp done
    refine ⟨⟨le_trans invariant.grown first, bounded, invariant.sp, ?_⟩, rfl⟩
    apply processed_after taken held invariant.processed _ first (.inl stops)
    have same := Exploration.Extends.refl { x with work, count := x.count + 1 : Exploration }
    exact ⟨same.states, same.changed, same.work, same.maximum, same.count⟩
  · rw [if_neg stops] at done
    obtain ⟨turn, _, executed, done⟩ := bind_run_eq_ok.mp done
    obtain ⟨recorded, rfl⟩ := lift_run_eq_ok.mp done
    obtain ⟨second, again⟩ := replays_execute calls current.pc own _ _ _ executed
    obtain ⟨added, same, within⟩ := Exploration.add_spec
      { x with work, count := x.count + 1 : Exploration } turn
    obtain ⟨joined, sp, successors⟩ := Exploration.record_all recorded
    obtain ⟨pointer, bound, member, own⟩ := execute_depth executed
    have later := le_trans first second
    refine ⟨⟨le_trans invariant.grown later, ?_, ?_, ?_⟩, ?_⟩
    · rw [joined.count, added.count]
      exact bounded
    · apply sp
      intro loc state recorded
      rw [same] at recorded
      exact invariant.sp loc state recorded
    · apply processed_after taken held invariant.processed (added.trans joined) later
      refine .inr ⟨turn, again, ?_, pointer, successors⟩
      rw [← own]
      exact le_trans (within bound member) joined.maximum
    · rw [joined.count, added.count]

/-! ## Whole runs of the loop -/

theorem pass_spec (calls : Cached call) {entered : Engine}
    (invariant : LoopInvariant python options initial call entered x e)
    (passed : pass python options initial call fn (x, e) = some (.ok (y, f))) :
    LoopInvariant python options initial call entered y f ∧ y.count = x.count + 1 := by
  rw [pass] at passed
  split at passed
  · cases passed
  · next current work taken => exact visit_spec calls taken invariant (Option.some.inj passed)

theorem pass_eq_none (left : pass python options initial call fn (x, e) = none) : x.work = [] := by
  rw [pass] at left
  split at left
  · assumption
  · cases left

theorem loopInvariant_start (address : Int) (memory : Memory) (entered : Engine) :
    LoopInvariant python options initial call entered (.start address initial memory) entered := by
  have entry (loc : Location) (state : State)
      (held : (Exploration.start address initial memory).states.get? loc = some state) :
      loc = locate address initial 0 ∧ state = ⟨initial, memory, 0⟩ := by
    simpa [Exploration.start, eq_comm] using held
  constructor
  · exact le_refl _
  · exact Nat.zero_le _
  · intro loc state held
    obtain ⟨rfl, rfl⟩ := entry loc state held
    exact .inl rfl
  · intro loc state held
    obtain ⟨rfl, rfl⟩ := entry loc state held
    exact .inl List.mem_cons_self

/-- Where the loop is left nothing waits. -/
theorem explore_spec (calls : Cached call) {address : Int} {memory : Memory} {entered : Engine}
    (done : explore python options initial call fn (.start address initial memory) entered =
      .ok (x, e)) :
    LoopInvariant python options initial call entered x e ∧ x.work = [] := by
  rw [explore] at done
  cases ended : Loop.run (pass python options initial call fn) (iterationLimit + 1)
      (.start address initial memory, entered) with
  | none =>
      rw [ended] at done
      cases done
  | some result =>
      rw [ended] at done
      cases done
      have kept : ∀ s t : Exploration × Engine,
          LoopInvariant python options initial call entered s.1 s.2 →
          pass python options initial call fn s = some (.ok t) →
          LoopInvariant python options initial call entered t.1 t.2 :=
        fun _ _ before passed => (pass_spec calls before passed).1
      obtain ⟨invariant, left⟩ := Loop.run_invariant kept
        (loopInvariant_start address memory entered) ended
      exact ⟨invariant, pass_eq_none left⟩

/-- The loop is left or raises before it runs out of passes. -/
theorem run_ends (calls : Cached call) {entered : Engine}
    (invariant : LoopInvariant python options initial call entered x e) (fuel : Nat)
    (enough : iterationLimit < x.count + fuel) :
    ∃ ended, Loop.run (pass python options initial call fn) fuel (x, e) = some ended := by
  induction fuel generalizing x e with
  | zero =>
      have := invariant.count
      omega
  | succ fuel ih =>
      cases passed : pass python options initial call fn (x, e) with
      | none => exact ⟨_, Loop.run_of_none passed⟩
      | some result =>
          cases result with
          | error failure => exact ⟨_, Loop.run_of_error passed⟩
          | ok next =>
              obtain ⟨kept, counted⟩ := pass_spec calls invariant passed
              obtain ⟨ended, same⟩ := ih kept (by omega)
              exact ⟨ended, (Loop.run_of_ok passed).trans same⟩

end Loop

/-! ## Nested analyses -/

section Analysis

variable {python : Interpreter} {options : Options} {address : Int} {callback : Value}
  {frames : Nat} {call : Int → Value → EngineM Bound} {e f : Engine} {bound : Bound}

/-- The loop of an analysis, between what comes before it and what it leaves. -/
structure Analyzed (python : Interpreter) (options : Options) (address : Int) (callback : Value)
    (call : Int → Value → EngineM Bound) (engine : Engine) (bound : Bound) (fn : Function)
    (entered : Engine) (x : Exploration) (left : Engine) : Prop where
  enters : functionAt python address { engine with active := engine.active ++ [address] } =
    .ok (fn, entered)
  explores : explore python options (options.entry callback).1 call fn
    (.start address (options.entry callback).1 (options.entry callback).2) entered = .ok (x, left)
  bound : bound = (x.maximum, x.maximumPath)

/-- What an analysis leaves in the engine. -/
theorem conclude_spec {fn : Function} {x : Exploration}
    (done : conclude options address callback fn x e = .ok (bound, f)) :
    bound = (x.maximum, x.maximumPath) ∧
      f = { e with
        frames := e.frames.set fn.name x.localMax
        returnValues := e.returnValues.set (address, callback) x.returned
        cache := if options.special = true then e.cache
          else e.cache.set (address, callback) bound
        lastStops := x.stops } := by
  rw [conclude] at done
  obtain ⟨_, _, stored, done⟩ := bind_run_eq_ok.mp done
  cases stored
  obtain ⟨_, _, checked, done⟩ := bind_run_eq_ok.mp done
  obtain ⟨_, rfl⟩ := refuse_run_eq_ok.mp checked
  obtain ⟨_, _, cached, done⟩ := bind_run_eq_ok.mp done
  cases cached
  obtain ⟨rfl, rfl⟩ := pure_run_eq_ok.mp done
  exact ⟨rfl, rfl⟩

theorem analyzeAnew_spec
    (done : analyzeAnew python options address callback frames call e = .ok (bound, f)) :
    ∃ fn entered x left, Analyzed python options address callback call e bound fn entered x left ∧
      address ∉ e.active ∧
      conclude options address callback fn x { left with active := left.active.dropLast } =
        .ok (bound, f) := by
  rw [analyzeAnew] at done
  obtain ⟨active, _, same, done⟩ := bind_run_eq_ok.mp done
  cases same
  obtain ⟨_, _, checked, done⟩ := bind_run_eq_ok.mp done
  obtain ⟨inactive, rfl⟩ := refuse_run_eq_ok.mp checked
  obtain ⟨_, _, pushed, done⟩ := bind_run_eq_ok.mp done
  cases pushed
  obtain ⟨fn, entered, enters, done⟩ := bind_run_eq_ok.mp done
  obtain ⟨x, left, explores, done⟩ := bind_run_eq_ok.mp done
  obtain ⟨_, _, popped, done⟩ := bind_run_eq_ok.mp done
  cases popped
  obtain ⟨_, _, graph, done⟩ := bind_run_eq_ok.mp done
  cases graph
  obtain ⟨_, _, acyclic, done⟩ := bind_run_eq_ok.mp done
  obtain ⟨_, rfl⟩ := lift_run_eq_ok.mp acyclic
  exact ⟨fn, entered, x, left, ⟨enters, explores, (conclude_spec done).1⟩, inactive, done⟩

/-- A cached analysis leaves a grown engine. -/
theorem le_of_analyzeAnew (calls : Cached call) (plain : options.special = false)
    (unknown : e.cache.get? (address, callback) = none)
    (done : analyzeAnew python options address callback frames call e = .ok (bound, f)) :
    e ≤ f ∧ f.cache.get? (address, callback) = some bound := by
  obtain ⟨fn, entered, x, left, analyzed, _, concluded⟩ := analyzeAnew_spec done
  obtain ⟨_, rfl⟩ := conclude_spec concluded
  have entering := (replays_functionAt python address _ _ _ analyzed.enters).1
  have grown := le_trans entering (explore_spec calls analyzed.explores).1.grown
  have fresh {key : Key} {other : Bound} (held : e.cache.get? key = some other) :
      key ≠ (address, callback) := by
    intro same
    rw [same, unknown] at held
    cases held
  constructor
  · constructor
    · exact grown.program
    · intro key other held
      have kept := grown.cache key other held
      simpa [plain, fresh held] using kept
    · intro key other held
      have kept := grown.returns key other held
      simpa [fresh held] using kept
    · have active : left.active = e.active ++ [address] := grown.active
      simp [active]
  · simp [plain]

/-- What an analysis with these options answers from the cache or finds out. -/
theorem analyze_cases
    (done : analyze python (frames + 1) options address callback e = .ok (bound, f)) :
    options.special = false ∧ e.cache.get? (address, callback) = some bound ∧ f = e ∨
      (options.special = false → e.cache.get? (address, callback) = none) ∧
        analyzeAnew python options address callback frames (analyze python frames .default) e =
          .ok (bound, f) := by
  rw [analyze] at done
  obtain ⟨cached, _, same, done⟩ := bind_run_eq_ok.mp done
  have held : (if options.special = true then none
      else e.cache.get? (address, callback)) = cached := congrArg Prod.fst (Except.ok.inj same)
  cases (congrArg Prod.snd (Except.ok.inj same) : e = _)
  cases cached with
  | some answer =>
      obtain ⟨rfl, rfl⟩ := pure_run_eq_ok.mp done
      cases plain : options.special with
      | true => simp [plain] at held
      | false =>
          refine .inl ⟨rfl, ?_, rfl⟩
          simpa [plain] using held
  | none =>
      refine .inr ⟨fun plain => ?_, done⟩
      simpa [plain] using held

theorem analyze_of_cached (plain : options.special = false)
    (held : e.cache.get? (address, callback) = some bound) :
    analyze python (frames + 1) options address callback e = .ok (bound, e) := by
  rw [analyze]
  apply bind_run_eq_ok.mpr
  refine ⟨some bound, e, ?_, rfl⟩
  rw [← held, plain]
  rfl

/-- Nested analyses are cached, and answered from the cache from then on. -/
theorem cached_analyze (python : Interpreter) (frames : Nat) :
    Cached (analyze python frames .default) := by
  induction frames with
  | zero =>
      constructor
      · intro target callback e bound f done
        cases done
      · intro target callback e bound f done
        cases done
  | succ frames ih =>
      have step {target : Int} {callback : Value} {e f : Engine} {bound : Bound}
          (done : analyze python (frames + 1) .default target callback e = .ok (bound, f)) :
          e ≤ f ∧ f.cache.get? (target, callback) = some bound := by
        cases analyze_cases done with
        | inl cached =>
            obtain ⟨_, held, rfl⟩ := cached
            exact ⟨le_refl _, held⟩
        | inr anew => exact le_of_analyzeAnew ih rfl (anew.1 rfl) anew.2
      constructor
      · intro target callback e bound f done
        obtain ⟨grown, held⟩ := step done
        refine ⟨grown, fun u later => ⟨u, ?_, le_refl u⟩⟩
        exact analyze_of_cached rfl (later.cache _ _ held)
      · intro target callback e bound f done
        exact (step done).2

end Analysis

/-! ## The post-fixpoint -/

/-- Every successor of a recorded state, executed once more where the loop is left, is below
the recorded state of its location and no deeper than the maximum, unless the analysis stops
there. -/
def PostFixpoint (python : Interpreter) (options : Options) (initial : Regs)
    (call : Int → Value → EngineM Bound) (x : Exploration) (left : Engine) : Prop :=
  ∀ loc state, x.states.get? loc = some state → loc.pc ∉ options.stopPcs →
    ∃ turn last, execute python options initial call loc.pc state left = .ok (turn, last) ∧
      ∀ next ∈ turn.successors,
        (∃ recorded, x.states.get? next.location = some recorded ∧ next.state.Below recorded) ∧
          (next.target ∉ options.stopPcs → ∃ depth, next.depth = some depth ∧ depth ≤ x.maximum)

theorem postFixpoint_of_invariant {python : Interpreter} {options : Options} {initial : Regs}
    {call : Int → Value → EngineM Bound} {entered left : Engine} {x : Exploration}
    (invariant : LoopInvariant python options initial call entered x left) (idle : x.work = []) :
    PostFixpoint python options initial call x left := by
  have settled (loc : Location) (state : State) (held : x.states.get? loc = some state)
      (goes : loc.pc ∉ options.stopPcs) :
      ∃ turn, Processed python options initial call x left loc.pc state turn := by
    cases invariant.processed loc state held with
    | inl queued =>
        rw [idle] at queued
        cases queued
    | inr done => exact done.resolve_left goes
  intro loc state held goes
  obtain ⟨turn, processed⟩ := settled loc state held goes
  obtain ⟨last, executed, _⟩ := processed.again left (le_refl left)
  refine ⟨turn, last, executed, fun next member => ?_⟩
  obtain ⟨recorded, there, below⟩ := processed.recorded next member
  refine ⟨⟨recorded, there, below⟩, fun onward => ?_⟩
  obtain ⟨turn', processed'⟩ := settled next.location recorded there onward
  have pointer : next.state.regs 2 = recorded.regs 2 := by
    cases invariant.sp next.location recorded there with
    | inl same => exact same.symm
    | inr unknown =>
        have known := processed'.sp
        rw [unknown] at known
        cases known
  refine ⟨turn'.depth, ?_, processed'.depth⟩
  rw [Successor.depth, pointer, processed'.sp]
  exact congrArg some (Int.sub_sub_self _ _)

/-- `merge` is an upper bound; where an analysis ends its loop has come to a post-fixpoint,
unless its bound was cached; and the loop ends or raises within the limit. -/
theorem worklist_postFixpoint (python : Interpreter) (options : Options) (address : Int)
    (callback : Value) (frames : Nat) :
    (∀ a b merged : State, a.merge b = .ok merged → a.Below merged ∧ b.Below merged) ∧
      (∀ engine bound after,
        analyze python (frames + 1) options address callback engine = .ok (bound, after) →
          options.special = false ∧ engine.cache.get? (address, callback) = some bound ∨
            ∃ fn entered x left,
              Analyzed python options address callback (analyze python frames .default) engine
                bound fn entered x left ∧
              x.count ≤ iterationLimit ∧
              PostFixpoint python options (options.entry callback).1
                (analyze python frames .default) x left) ∧
      ∀ fn entered, ∃ ended,
        Loop.run (pass python options (options.entry callback).1 (analyze python frames .default) fn)
          (iterationLimit + 1)
          (.start address (options.entry callback).1 (options.entry callback).2, entered) =
            some ended := by
  have calls := cached_analyze python frames
  refine ⟨fun a b merged joined => State.below_merge joined, ?_, ?_⟩
  · intro engine bound after done
    cases analyze_cases done with
    | inl cached => exact .inl ⟨cached.1, cached.2.1⟩
    | inr anew =>
        obtain ⟨fn, entered, x, left, analyzed, _⟩ := analyzeAnew_spec anew.2
        obtain ⟨invariant, idle⟩ := explore_spec calls analyzed.explores
        exact .inr ⟨fn, entered, x, left, analyzed, invariant.count,
          postFixpoint_of_invariant invariant idle⟩
  · intro fn entered
    exact run_ends calls (loopInvariant_start address _ entered) _ (by simp [Exploration.start])

/-! ## The cut of an interval -/

/-- `c.jr x1`. -/
def returnCode (address : Nat) : Instruction where
  address
  mnemonic := "c.jr".toList
  operands := "x1".toList
  target := none
  text := "8082 c.jr x1".toList
  size := 2
  encoding := some "8082".toList

/-- `addi x2,x2,-64`. -/
def pushCode : Instruction where
  address := 4096
  mnemonic := "addi".toList
  operands := "x2,x2,-64".toList
  target := none
  text := "fc010113 addi x2,x2,-64".toList
  size := 4
  encoding := some "fc010113".toList

/-- A helper without symbol that allocates 64 bytes, behind a function. -/
def pushing : Linked where
  functions := (∅ : Dict Nat Function).set 4094 ⟨"f".toList, 4094, 2, [returnCode 4094], ∅, ∅⟩
  names := ∅
  instructions := (((∅ : Dict Nat Instruction).set 4094 (returnCode 4094)).set 4096 pushCode).set
    4100 (returnCode 4100)
  sections := []
  rows := []
  origins := ∅
  executable := [⟨4094, 4102, 0, [0x82, 0x80, 0x13, 0x01, 0x01, 0xfc, 0x82, 0x80]⟩]
  validated := []
  owners := ∅

/-- The analysis is cut after the allocation. -/
def cutAfterPush : Options := { Options.default with stopPcs := [4100] }

/-- The maximum of the cut analysis, and the depths that its first instruction leads to. -/
def cutDepths : Except Failure (Int × List (Option Int)) := do
  let (regs, memory) := cutAfterPush.entry none
  let call := analyze plainInterpreter 0 .default
  let (fn, entered) ← functionAt plainInterpreter 4096 { Engine.new pushing with active := [4096] }
  let (x, left) ← explore plainInterpreter cutAfterPush regs call fn (.start 4096 regs memory) entered
  let state ← orRaise (.keyError 4096) (x.states.get? (locate 4096 regs 0))
  let (turn, _) ← execute plainInterpreter cutAfterPush regs call 4096 state left
  return (x.maximum, turn.successors.map Successor.depth)

/-- The stack at the cut is not part of the maximum. -/
theorem cut_not_measured :
    ¬∀ (python : Interpreter) (options : Options) (address : Int) (callback : Value) (frames : Nat)
        (engine : Engine) (bound : Bound) (after : Engine) (fn : Function) (entered : Engine)
        (x : Exploration) (left : Engine),
      analyze python (frames + 1) options address callback engine = .ok (bound, after) →
      Analyzed python options address callback (analyze python frames .default) engine bound fn
        entered x left →
      ∀ loc state, x.states.get? loc = some state → loc.pc ∉ options.stopPcs →
        ∀ turn last, execute python options (options.entry callback).1
            (analyze python frames .default) loc.pc state left = .ok (turn, last) →
          ∀ next ∈ turn.successors, ∃ depth, next.depth = some depth ∧ depth ≤ bound.1 := by
  intro every
  have ends : (analyze plainInterpreter 1 cutAfterPush 4096 none (.new pushing)).toOption.isSome =
      true := by decide +kernel
  have depths : cutDepths = .ok (0, [some 64]) := by
    apply toOption_eq_some.mp
    decide +kernel
  obtain ⟨⟨bound, after⟩, done⟩ := exists_of_toOption_isSome ends
  obtain ⟨⟨fn, entered⟩, enters, depths⟩ := Checked.bind_eq_ok.mp depths
  obtain ⟨⟨x, left⟩, explores, depths⟩ := Checked.bind_eq_ok.mp depths
  obtain ⟨state, found, depths⟩ := Checked.bind_eq_ok.mp depths
  obtain ⟨⟨turn, last⟩, executed, depths⟩ := Checked.bind_eq_ok.mp depths
  have analyzed : Analyzed plainInterpreter cutAfterPush 4096 none
      (analyze plainInterpreter 0 .default) (.new pushing) bound fn entered x left := by
    cases analyze_cases done with
    | inl cached => cases cached.1
    | inr anew =>
        obtain ⟨fn', entered', x', left', analyzed, _⟩ := analyzeAnew_spec anew.2
        cases enters.symm.trans analyzed.enters
        cases explores.symm.trans analyzed.explores
        exact analyzed
  have maximum : x.maximum = 0 := congrArg Prod.fst (Except.ok.inj depths)
  have deeper : turn.successors.map Successor.depth = [some 64] :=
    congrArg Prod.snd (Except.ok.inj depths)
  obtain ⟨next, member, depth⟩ : ∃ next ∈ turn.successors, next.depth = some 64 := by
    apply List.mem_map.mp
    rw [deeper]
    exact List.mem_singleton_self _
  obtain ⟨other, same, within⟩ := every _ _ _ _ _ _ _ _ _ _ _ _ done analyzed
    (locate 4096 (cutAfterPush.entry none).1 0) state (orRaise_eq_ok.mp found) (by decide) turn last
    executed next member
  rw [depth] at same
  cases same
  rw [analyzed.bound, maximum] at within
  change (64 : Int) ≤ 0 at within
  omega

end AxolotyEmbedded.Interval
