import AxolotyEmbedded.Interval.Engine
import AxolotyEmbedded.Library.Loop

/-!
`Engine.analyze`: the loop over the locations whose states have changed, and what an
analysis leaves in the engine.
-/
namespace AxolotyEmbedded.Interval

open PythonText Checked
open FirstInit (Function)

/-! ## The loop -/

/-- The variables of the loop. `returned` are the exit states, of which `returns` is the
number. -/
structure Exploration where
  states : Dict Location State
  work : List Location
  maximum : Int
  maximumPath : List Str
  returned : List State
  stops : List Stop
  count : Nat
  localMax : Int

def iterationLimit : Nat := 100000

namespace Exploration

variable (x : Exploration)

def reach (bound : Bound) : Exploration :=
  if x.maximum < bound.1 then { x with maximum := bound.1, maximumPath := bound.2 } else x

/-- ` at {target:#x} from {pc:#x}`. -/
def atEdge (target pc : Int) : Failure → Failure
  | .inconsistentSp here other _ => .inconsistentSp here other (some (target, pc))
  | failure => failure

def queue (loc : Location) (state : State) : Exploration :=
  { x with states := x.states.set loc state, work := x.work ++ [loc] }

/-- A successor is joined to the state of its location, which is visited again if it has
changed. -/
def record (pc : Int) (next : Successor) : Except Failure Exploration :=
  match x.states.get? next.location with
  | none => .ok (x.queue next.location next.state)
  | some old => do
      let merged ← (old.merge next.state).mapError (atEdge next.target pc)
      return if merged.Same old then x else x.queue next.location merged

/-- What the execution of an instruction adds. -/
def add (turn : Turn) : Exploration :=
  turn.reaches.foldl reach { x with
    localMax := max x.localMax turn.depth
    returned := x.returned ++ turn.returned
    stops := x.stops ++ turn.stopped }

end Exploration

section Loop

variable (python : Interpreter) (options : Options) (initial : Regs)
  (call : Int → Value → EngineM Bound) (fn : Function)

/-- `next(iter(value))`. -/
def nextOf : Value → Except Failure Int
  | none => .error .typeError
  | some members =>
      orRaise .stopIteration ((single members).or (python.iterate (sorted members)).head?)

/-- The row for the end of the interval. -/
def stopAt (pc : Int) (state : State) : Except Failure Stop := do
  refuseIf (options.stages ≠ [] ∧ state.phase ≠ options.stages.length)
    (.unclosed "interval end reached before begin/hook/end sequence".toList)
  return ⟨pc, pc, stackBase - (← nextOf python (state.regs 2)), state⟩

def visit (current : Location) (x : Exploration) : EngineM Exploration := do
  refuse (iterationLimit < x.count)
    (.unclosed ("abstract CFG did not converge for ".toList ++ fn.name))
  let state ← liftM (orRaise (.keyError current.pc) (x.states.get? current))
  note fun e => { e with visited := addTo e.visited current.pc }
  if current.pc ∈ options.stopPcs then do
    let stop ← liftM (stopAt python options current.pc state)
    return { x with stops := x.stops ++ [stop] }
  else do
    let turn ← execute python options initial call current.pc state
    liftM (turn.successors.foldlM (fun x next => x.record current.pc next) (x.add turn))

def pass : Exploration × Engine → Option (Except Failure (Exploration × Engine))
  | (x, engine) =>
      match x.work with
      | [] => none
      | current :: work =>
          some (visit python options initial call fn current
            { x with work, count := x.count + 1 } engine)

def explore (start : Exploration) : EngineM Exploration := fun engine =>
  (Loop.run (pass python options initial call fn) (iterationLimit + 1) (start, engine)).getD
    (.error .recursionError)

end Loop

/-! ## One analysis -/

def Options.special (options : Options) : Bool :=
  options.seed.isSome || !options.stopCalls.isEmpty || options.skipCalls || options.inlineCalls ||
    !options.stopPcs.isEmpty

/-- The registers at the entry of a function. -/
def entryRegs (callback : Value) : Regs :=
  let regs := savedRegisters.foldl
    (fun regs r => Function.update regs r (const (returnToken - r.val)))
    (Function.update (Function.update (Function.update (fun _ => none) 0 (const 0)) 1
      (const returnToken)) 2 (const stackBase))
  if callback = none then regs else Function.update regs 11 callback

def Options.entry (options : Options) (callback : Value) : Regs × Memory :=
  options.seed.getD (entryRegs callback, ∅)

def Exploration.start (address : Int) (regs : Regs) (memory : Memory) : Exploration where
  states := (∅ : Dict Location State).set (locate address regs 0) ⟨regs, memory, 0⟩
  work := [locate address regs 0]
  maximum := 0
  maximumPath := []
  returned := []
  stops := []
  count := 0
  localMax := 0

/-- `acyclic`, with the frames that are left to the interpreter. -/
def acyclic (graph : List (Nat × Nat)) :
    Nat → List Nat → Nat → List Nat → Except Failure (List Nat)
  | 0, _, _, _ => .error .recursionError
  | frames + 1, path, node, completed =>
      if node ∈ path then .error (.closedAt "recursive call/tail graph at " node)
      else if node ∈ completed then .ok completed
      else do
        let callees := (graph.filter fun edge => edge.1 = node).map Prod.snd
        let completed ← callees.foldlM
          (fun completed target => acyclic graph frames (node :: path) target completed) completed
        return addTo completed node

def checkAcyclic (graph : List (Nat × Nat)) (frames : Nat) : Except Failure Unit := do
  let _ ← (graph.map Prod.fst).dedup.foldlM
    (fun completed node => acyclic graph frames [] node completed) []
  return ()

section Analysis

variable (python : Interpreter) (options : Options) (address : Int) (callback : Value)

/-- What is left in the engine of an analysis. -/
def conclude (fn : Function) (x : Exploration) : EngineM Bound := do
  let bound := (x.maximum, x.maximumPath)
  modify fun engine => { engine with
    frames := engine.frames.set fn.name x.localMax
    returnValues := engine.returnValues.set (address, callback) x.returned }
  refuse (options.special = false ∧ x.returned = [])
    (.unclosed ("no proven return from ".toList ++ fn.name))
  modify fun engine => { engine with
    cache := if options.special = true then engine.cache
      else engine.cache.set (address, callback) bound
    lastStops := x.stops }
  return bound

/-- An analysis whose result is not cached. -/
def analyzeAnew (frames : Nat) (call : Int → Value → EngineM Bound) : EngineM Bound := do
  let active ← reads Engine.active
  refuse (address ∈ active) (.closedAt "recursion at " address)
  modify fun engine => { engine with active := engine.active ++ [address] }
  let fn ← functionAt python address
  let (regs, memory) := options.entry callback
  let x ← explore python options regs call fn (.start address regs memory)
  modify fun engine => { engine with active := engine.active.dropLast }
  let graph ← reads fun engine => engine.evidence.callGraph
  liftM (checkAcyclic graph frames)
  conclude options address callback fn x

end Analysis

/-- `analyze`, with the frames that are left to the interpreter. -/
def analyze (python : Interpreter) : Nat → Options → Int → Value → EngineM Bound
  | 0, _, _, _ => throw .recursionError
  | frames + 1, options, address, callback => do
      let cached ← reads fun engine =>
        if options.special = true then none else engine.cache.get? (address, callback)
      match cached with
      | some bound => return bound
      | none => analyzeAnew python options address callback frames (analyze python frames .default)

end AxolotyEmbedded.Interval
