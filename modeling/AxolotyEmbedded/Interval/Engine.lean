import AxolotyEmbedded.Interval.Linked

/-!
`Engine`: what it keeps over its analyses, and how it executes one instruction on an
abstract state, with the calls of an instruction left to a parameter.
-/
namespace AxolotyEmbedded.Interval

open PythonText Checked
open FirstInit (Function Instruction)

/-! ## The engine -/

/-- What is collected for the report. Sets are lists in the order of insertion. -/
structure Evidence where
  visited : List Int
  exceptions : List (Int × Str × Str)
  edges : List (Str × Int × Str × Int × Fin 32)
  dispatches : Dict Int (List Int)
  callGraph : List (Nat × Nat)
  stageSites : List (Nat × Int × Int × Int)
  accesses : List (Int × Str × Int × Nat)
  callbackBindings : List (Int × List Int × List Int)

def Evidence.none : Evidence := ⟨[], [], [], ∅, [], [], [], []⟩

/-- The destinations of a computed jump, with those of earlier executions. -/
def Evidence.dispatch (e : Evidence) (pc : Int) (destinations : Finset Int) : Evidence :=
  { e with
    dispatches := e.dispatches.put pc fun old =>
      sorted ((old.getD []).toFinset ∪ destinations) }

def addTo {α : Type} [DecidableEq α] (set : List α) (a : α) : List α :=
  if a ∈ set then set else set ++ [a]

/-- A row of `last_stops`. -/
structure Stop where
  pc : Int
  target : Int
  depth : Int
  state : State

/-- A function with its callback argument. -/
abbrev Key := Int × Value

/-- `(maximum, maximum_path)`. -/
abbrev Bound := Int × List Str

structure Engine where
  program : Linked
  cache : Dict Key Bound
  active : List Int
  returnValues : Dict Key (List State)
  frames : Dict Str Int
  lastStops : List Stop
  evidence : Evidence

def Engine.new (program : Linked) : Engine := ⟨program, ∅, [], ∅, ∅, [], .none⟩

abbrev EngineM := StateT Engine (Except Failure)

/-- The arguments of `analyze` after the first two. -/
structure Options where
  seed : Option (Regs × Memory)
  stopCalls : List Int
  skipCalls : Bool
  inlineCalls : Bool
  summaries : List Int
  stopPcs : List Int
  stages : List Int

def Options.default : Options := ⟨none, [], false, false, [], [], []⟩

def note (add : Evidence → Evidence) : EngineM Unit :=
  modify fun engine => { engine with evidence := add engine.evidence }

def reads {α : Type} (part : Engine → α) : EngineM α := do return part (← get)

def refuse (refused : Prop) [Decidable refused] (failure : Failure) : EngineM Unit :=
  liftM (refuseIf refused failure)

def functionAt (python : Interpreter) (address : Int) : EngineM Function := fun engine =>
  (engine.program.function python address).map fun found =>
    (found.1, { engine with program := found.2 })

/-! ## Register instructions -/

/-- `next(iter(value))` of a set that has one member. -/
def only (value : Value) : Option Int := value.bind single

def exceptional : List Str :=
  texts "__stack_chk_fail __assert_func abort panic_abort esp_system_abort _esp_error_check_failed"

def compressedForm (m : Str) : Bool :=
  if m ∈ texts "addi c.addi c.addi16sp c.addi4spn" then m ∈ texts "c.addi c.addi16sp"
  else isCompressed m

/-- A shift by a negative amount. -/
def ShiftsBack (operation : Operation) (left right : Value) : Prop :=
  match left, right with
  | some a, some b =>
      (operation = .shiftLeft ∨ operation = .shiftRight) ∧ (¬∃ x ∈ a ∪ b, x < -(2 ^ 32)) ∧
        a ≠ ∅ ∧ ∃ y ∈ b, y < 0
  | _, _ => False

instance decidableShiftsBack (operation : Operation) (left right : Value) :
    Decidable (ShiftsBack operation left right) :=
  match left, right with
  | some _, some _ => inferInstanceAs (Decidable (_ ∧ _))
  | none, _ | some _, none => inferInstanceAs (Decidable False)

section Straight

variable (python : Interpreter) (pc : Int) (ins : Instruction) (regs : Regs)

def binary (operation : Operation) (immediate : Bool) : Except Failure Regs := do
  let op := operands ins
  let dest ← register (first op)
  let left ← if compressedForm ins.mnemonic then pure dest else do register (← second op)
  let right ← if immediate then const <$> integer python (last op)
    else regs <$> register (last op)
  refuseIf (ShiftsBack operation (regs left) right) .valueError
  let value := (Transfer.binary ins.mnemonic (regs left) right).value
  refuseIf (dest = 2 ∧ only value = none) (.closedAt "dynamic SP write at " pc)
  return setreg regs dest value

def andi : Except Failure Regs := do
  let op := operands ins
  let dest ← register (first op)
  refuseIf (dest = 2) (.closedAt "dynamic SP alignment at " pc)
  let mask ← integer python (last op)
  let left ← if isCompressed ins.mnemonic then pure dest else do register (← second op)
  return setreg regs dest (Transfer.andi (regs left) mask).value

/-- An instruction that writes what it reads in its second operand. -/
def writeImmediate (transfer : Int → Transfer) : Except Failure Regs := do
  let op := operands ins
  let dest ← register (first op)
  return setreg regs dest (transfer (← integer python (← second op))).value

def writeUnknown : Except Failure Regs := do
  return setreg regs (← register (first (operands ins))) Transfer.unknown.value

/-- The instructions without memory operand that do not jump. -/
def straight : Except Failure Regs :=
  let m := ins.mnemonic
  let op := operands ins
  if m ∈ texts "lui c.lui" then writeImmediate python ins regs .lui
  else if m = "auipc".toList then writeImmediate python ins regs (.auipc pc)
  else if m = "c.li".toList then writeImmediate python ins regs .li
  else if m = "c.mv".toList then do
    let dest ← register (first op)
    return setreg regs dest (Transfer.mv (regs (← register (← second op)))).value
  else if m ∈ texts "andi c.andi" then andi python pc ins regs
  else match operationOf m with
  | some (operation, immediate) => binary python pc ins regs operation immediate
  | none =>
      if m ∈ texts "fence fence.i c.nop" then return regs
      else if m ∈ texts "csrrs csrrc csrrw csrrsi csrrci csrrwi lr.w lr.w.aq sc.w sc.w.rl" then
        writeUnknown ins regs
      else if m ∈ texts "srai mul mulhu divu remu xori ori neg not seqz snez" then do
        refuseIf ((← register (first op)) = 2) (.closedAt "unsupported SP arithmetic at " pc)
        writeUnknown ins regs
      else
        raise (.unclosed ("unsupported instruction at ".toList ++ hexInt pc ++ ": ".toList ++
          ins.text))

/-! ## Loads and stores -/

/-- `STORES`. -/
def storeSize (m : Str) : Option Nat :=
  if m = "sb".toList then some 1
  else if m = "sh".toList then some 2
  else if m ∈ texts "sw c.sw c.swsp" then some 4
  else none

def stackLimit : Int := stackBase - 2 ^ 20

/-- The union of the facts at some addresses, none if there are none. -/
def loadFrom (read : Int → Nat → Value) (memory : Memory) (size : Nat) : List Int → Value
  | [] => none
  | ptr :: rest =>
      let fact := fun ptr => (memory.get? (ptr, size)).getD (read ptr size)
      rest.foldl (fun value ptr => union value (fact ptr)) (fact ptr)

/-- A store takes the place of the facts that it overlaps. -/
def storeTo (memory : Memory) (ptr : Int) (size : Nat) (value : Value) : Memory :=
  (memory.filter fun entry => ¬(entry.1.1 < ptr + size ∧ ptr < entry.1.1 + entry.1.2)).set
    (ptr, size) value

/-- `addresses`, over the whole range of the offset. -/
def addressesOf : Except Failure Value := do
  let operand ← second (operands ins)
  let (offset, base) ← orRaise (.closedAt "unsupported memory operand at " pc)
    (memoryOperand python operand)
  let base := regs (← register base)
  return arithmetic base (const (← decimalInteger python offset)) fun x y => x + y

/-- The words of memory that an access is noted for. -/
def globals (addresses : Value) : List Int :=
  (sorted (addresses.getD ∅)).filter fun ptr => 0 ≤ ptr ∧ ptr < 2 ^ 32

def access (read : Int → Nat → Value) (memory : Memory) (sp : Int) :
    Except Failure (Regs × Memory × List Int) := do
  let m := ins.mnemonic
  let addresses ← addressesOf python pc ins regs
  refuseIf (∃ ptr ∈ addresses.getD ∅, stackLimit ≤ ptr ∧ ptr < sp)
    (.closedAt "memory access below allocated stack at " pc)
  match loadSize m with
  | some size =>
      let loaded := loadFrom read memory size (sorted (addresses.getD ∅))
      let dest ← register (first (operands ins))
      return (setreg regs dest (Transfer.load m loaded).value, memory, globals addresses)
  | none =>
      match only addresses with
      | some ptr =>
          if stackLimit ≤ ptr ∧ ptr ≤ stackBase then do
            let source ← register (first (operands ins))
            return (regs, storeTo memory ptr ((storeSize m).getD 0) (regs source),
              globals addresses)
          else return (regs, memory, globals addresses)
      | none => return (regs, memory, globals addresses)

/-! ## Jumps -/

/-- The link register and the destinations. -/
def jumpDestinations : Except Failure (Fin 32 × Value) := do
  let m := ins.mnemonic
  let op := operands ins
  let direct : Value := (ins.target).bind fun target => const target
  if m ∈ texts "c.j c.jal" then return (if m = "c.jal".toList then 1 else 0, direct)
  else if m = "jal".toList then return (← register (first op), direct)
  else if m = "jalr".toList then do
    let rd ← register (first op)
    let operand ← second op
    let (offset, base) ← orRaise (.closedAt "unsupported jalr at " pc)
      (memoryOperand python operand)
    let base := regs (← register base)
    let offset ← decimalInteger python offset
    if offset = 0 ∧ base = const returnToken then return (rd, base)
    else return (rd, arithmetic base (const offset) fun x y => (x + y).land (-2))
  else return (if m = "c.jalr".toList then 1 else 0, regs (← register (first op)))

end Straight

/-- A state that is kept while its instruction is executed; without memory of its own it
shares the one of the instruction. -/
structure Row where
  regs : Regs
  phase : Nat
  memory : Option Memory

def Row.settle (memory : Memory) (row : Row) : Row :=
  { row with memory := some (row.memory.getD memory) }

def Row.state (memory : Memory) (row : Row) : State :=
  ⟨row.regs, row.memory.getD memory, row.phase⟩

/-- What the execution of an instruction works on. -/
structure Locals where
  regs : Regs
  memory : Memory
  phase : Nat
  targets : List Int
  reaches : List Bound
  returned : List Row
  stopped : List (Int × Row)

namespace Locals

variable (locals : Locals)

def row : Row := ⟨locals.regs, locals.phase, none⟩

/-- Another memory, which the kept states do not share. -/
def rebind (memory : Memory) : Locals :=
  { locals with
    memory
    returned := locals.returned.map (Row.settle locals.memory)
    stopped := locals.stopped.map fun stop => (stop.1, stop.2.settle locals.memory) }

end Locals

/-- One instruction of an analysis. -/
structure Site where
  pc : Int
  ins : Instruction
  owner : Function
  depth : Int

namespace Site

variable (site : Site)

def following : Int := site.pc + site.ins.size

/-- `f'{owner.name}@{pc:#x}'`. -/
def place : Str := site.owner.name ++ '@' :: hexInt site.pc

end Site

def copyMemory (dst src length : Int) (memory : Memory) : Memory :=
  let copied := memory.entries.filterMap fun entry =>
    if src ≤ entry.1.1 ∧ entry.1.1 + entry.1.2 ≤ src + length then
      some ((dst + entry.1.1 - src, entry.1.2), entry.2)
    else none
  (memory.filter fun entry => ¬(dst < entry.1.1 + entry.1.2 ∧ entry.1.1 < dst + length)).update copied

/-- Slots of saved registers only. -/
def savedFacts (memory : Memory) : Memory :=
  memory.filter fun entry => (entry.2.map fun members => decide (∀ v ∈ members, v ≤ returnToken)) =
    some true

/-- The effect of `memcpy` on the facts. -/
def Locals.copy (locals : Locals) (dst src length : Value) : Locals :=
  match only dst, only src, only length with
  | some dst, some src, some length =>
      if 0 ≤ length ∧ length ≤ 65536 then
        { locals with memory := copyMemory dst src length locals.memory }
      else locals
  | _, _, _ => locals.rebind (savedFacts locals.memory)

def argumentRegisters : List (Fin 32) := (List.range' 10 8).map (Fin.ofNat 32)

/-- The argument registers of the exit states of a summarized function. -/
def exportTo (regs : Regs) : List State → Regs
  | [] => regs
  | state :: rest =>
      argumentRegisters.foldl
        (fun regs r => setreg regs r (rest.foldl (fun value s => union value (s.regs r))
          (state.regs r)))
        regs

def swiftOnce : Str := "swift_once".toList

section Jumps

variable (python : Interpreter) (options : Options) (initial : Regs)
  (call : Int → Value → EngineM Bound) (site : Site)

/-- The bound of a called function, and its exit states if they are used. -/
def callee (target : Int) (callback : Value) : EngineM (Bound × List State) := do
  if options.skipCalls = true ∧ target ∉ options.summaries then return ((0, []), [])
  else do
    let bound ← call target callback
    let exported ← reads fun engine => (engine.returnValues.get? (target, callback)).getD []
    return (bound, if options.skipCalls = true then exported else [])

/-- A call of another frame. -/
def callOut (rd : Fin 32) (fn : Function) (locals : Locals) (target : Int) : EngineM Locals := do
  let callback := if fn.name = swiftOnce then locals.regs 11 else none
  let (bound, exported) ← callee options call target callback
  let cleared := callerRegisters.foldl (fun regs r => setreg regs r none) locals.regs
  let linked := setreg cleared rd (const site.following)
  let next := {
    locals with
    regs := exportTo linked exported
    targets := locals.targets ++ [site.following]
    reaches := locals.reaches ++ [(site.depth + bound.1, site.place :: bound.2)] }
  return if target = romMemcpy then next.copy (locals.regs 10) (locals.regs 11) (locals.regs 12)
    else next

/-- The checks and notes on the way to a destination, with the phase after it. -/
def enter (rd : Fin 32) (fn : Function) (locals : Locals) (target : Int) : EngineM Nat := do
  let framed := rd ∈ ([0, 1, 5] : List (Fin 32))
  refuse (target = site.owner.start ∧ framed) (.closedAt "recursive entry call at " site.pc)
  note fun e =>
    { e with edges := addTo e.edges (site.owner.name, site.pc, fn.name, target, rd) }
  note fun e => if target = fn.start ∧ fn.start ≠ site.owner.start ∧ framed then
    { e with callGraph := addTo e.callGraph (site.owner.start, fn.start) } else e
  refuse (fn.name = swiftOnce ∧ (locals.regs 10 = none ∨ locals.regs 11 = none))
    (.closedAt "unresolved swift_once guard/callback at " site.pc)
  note fun e => if fn.name = swiftOnce then
    { e with callbackBindings := addTo e.callbackBindings (site.pc,
      sorted ((locals.regs 10).getD ∅), sorted ((locals.regs 11).getD ∅)) } else e
  refuse (target ∈ options.stages ∧ locals.phase ≠ options.stages.idxOf target)
    (.closedAt "begin/hook/end order violation at " site.pc)
  if target ∈ options.stages then do
    note fun e => { e with
      stageSites := addTo e.stageSites (locals.phase + 1, site.pc, target, site.depth) }
    return locals.phase + 1
  else return locals.phase

/-- One destination of a jump. -/
def jumpTo (rd : Fin 32) (locals : Locals) (target : Int) : EngineM Locals := do
  let fn ← functionAt python target
  let phase ← enter options site rd fn locals target
  let locals := { locals with phase }
  if target ∈ options.stopCalls then
    return { locals with stopped := locals.stopped ++ [(target, locals.row)] }
  else if fn.name ∈ exceptional then do
    note fun e => { e with
      exceptions := addTo e.exceptions (site.pc, fn.name,
        "exceptional termination; handler stack excluded".toList) }
    return locals
  else if fn.start = site.owner.start ∨ rd ∈ ([0, 5] : List (Fin 32)) ∨
      (options.inlineCalls = true ∧ target ∉ options.summaries) then
    return { locals with
      regs := setreg locals.regs rd (const site.following)
      targets := locals.targets ++ [target] }
  else callOut options call site rd fn locals target

/-- A return is balanced. -/
def checkReturn (locals : Locals) : Except Failure Unit := do
  refuseIf (locals.regs 2 ≠ initial 2) (.closedAt "unbalanced/ambiguous return at " site.pc)
  checkAll
    (fun r => refuseIf (locals.regs r ≠ initial r)
      (.unclosed ("callee-saved ".toList ++ registerName r ++ " not restored at ".toList ++
        hexInt site.pc)))
    savedRegisters
  refuseIf (options.stages ≠ [] ∧ locals.phase = 2)
    (.unclosed "initializer can return without trace end".toList)

/-- A return among the destinations. -/
def giveBack (destinations : Finset Int) (locals : Locals) : Except Failure Locals := do
  if returnToken ∈ destinations then do
    checkReturn options initial site locals
    return { locals with returned := locals.returned ++ [locals.row], targets := [] }
  else return locals

def jump (locals : Locals) : EngineM Locals := do
  let regs := locals.regs
  let (rd, destinations) ← liftM (jumpDestinations python site.pc site.ins regs)
  let destinations ← liftM (orRaise
    (.unknownTransfer site.pc site.ins.text (regs 5) (regs 6) (regs 12) (regs 13)) destinations)
  let locals ← liftM (giveBack options initial site destinations locals)
  let others := destinations.erase returnToken
  if others = ∅ then return locals
  else do
    note fun e => if 1 < others.card then e.dispatch site.pc others else e
    (sorted others).foldlM (jumpTo python options call site rd) { locals with targets := [] }

/-! ## One instruction -/

def traps : List Str := texts "c.unimp unimp ebreak c.ebreak"

/-- `BRANCHES`. -/
def branches : List Str := zeroBranches ++ pairBranches

def jumps : List Str := texts "c.j jal c.jal jalr c.jalr c.jr"

/-- Both ends of a branch; the comparisons of the dispatch name their registers here. -/
def branchTargets : Except Failure (List Int) := do
  let target ← orRaise (.closedAt "unresolved branch at " site.pc) site.ins.target
  if site.ins.mnemonic ∈ texts "bltu bgeu" then do
    let _ ← register (first (operands site.ins))
    let _ ← register (← second (operands site.ins))
    return [site.following, target]
  else return [site.following, target]

def effect (sp : Int) (locals : Locals) : EngineM Locals := do
  let m := site.ins.mnemonic
  if m ∈ traps then do
    note fun e => { e with exceptions := addTo e.exceptions (site.pc, m,
      "synchronous exception; handler/interrupt stack excluded".toList) }
    return { locals with targets := [] }
  else if m ∈ branches then return { locals with targets := ← liftM (branchTargets site) }
  else if m ∈ jumps then jump python options initial call site locals
  else if (loadSize m).isSome ∨ (storeSize m).isSome then do
    let read ← reads fun engine => engine.program.read
    let (regs, memory, noted) ← liftM (access python site.pc site.ins locals.regs read
      locals.memory sp)
    note fun e => { e with accesses := noted.foldl (fun accesses ptr =>
      addTo accesses (site.pc, m, ptr, ((loadSize m).or (storeSize m)).getD 0)) e.accesses }
    return { locals with regs, memory }
  else return { locals with regs := ← liftM (straight python site.pc site.ins locals.regs) }

/-- A state at the start of an instruction. -/
structure Location where
  pc : Int
  link : Value
  alternate : Value
  sp : Value
  phase : Nat
  deriving DecidableEq

/-- `location`. -/
def locate (pc : Int) (regs : Regs) (phase : Nat) : Location :=
  ⟨pc, regs 1, regs 5, regs 2, phase⟩

/-- A state that an edge leads to. -/
structure Successor where
  target : Int
  state : State

def Successor.location (next : Successor) : Location :=
  locate next.target next.state.regs next.state.phase

/-- The registers on an edge, none if nothing takes it. -/
def edge (ins : Instruction) (regs : Regs) (target : Int) : Except Failure (Option Regs) := do
  let m := ins.mnemonic
  let op := operands ins
  let atTarget := ins.target.map Int.ofNat == some target
  if m ∈ zeroBranches then do
    let r ← register (first op)
    return (refineZero m atTarget (regs r)).map fun value => Function.update regs r value
  else if m ∈ pairBranches then do
    let a ← register (first op)
    let b ← register (← second op)
    return (refinePair m atTarget (regs a) (regs b)).map fun refined =>
      Function.update (Function.update regs a refined.1) b refined.2
  else return some regs

/-- The loop over `set(targets)`. -/
def successors (ins : Instruction) (locals : Locals) : Except Failure (List Successor) :=
  collect
    (fun target => do
      match ← edge ins locals.regs target with
      | none => return []
      | some regs => return [⟨target, regs, locals.memory, locals.phase⟩])
    (python.iterate locals.targets)

/-- What the execution of an instruction comes to. The first bound is its own depth. -/
structure Turn where
  depth : Int
  reaches : List Bound
  returned : List State
  stopped : List Stop
  successors : List Successor

end Jumps

/-- One pass of the loop of `analyze` up to the join of the successors. -/
def execute (python : Interpreter) (options : Options) (initial : Regs)
    (call : Int → Value → EngineM Bound) (pc : Int) (state : State) : EngineM Turn := do
  let owner ← functionAt python pc
  let found ← reads fun engine => engine.program.instruction pc
  let ins ← liftM (orRaise (.closedAt "missing instruction at " pc) found)
  let sp ← liftM (orRaise (.closedAt "unknown/dynamic SP at " pc) (only (state.regs 2)))
  let depth := stackBase - sp
  refuse (depth < 0 ∨ 2 ^ 20 < depth) (.closedAt "invalid/unbounded stack at " pc)
  let site : Site := ⟨pc, ins, owner, depth⟩
  let locals ← effect python options initial call site sp
    ⟨state.regs, state.memory, state.phase, [site.following], [], [], []⟩
  refuse (locals.regs 2 = none) (.closedAt "unknown SP at " pc)
  let next ← liftM (successors python ins locals)
  return {
    depth
    reaches := (depth, [site.place]) :: locals.reaches
    returned := locals.returned.map (Row.state locals.memory)
    stopped := locals.stopped.map fun stop => ⟨pc, stop.1, depth, stop.2.state locals.memory⟩
    successors := next }

end AxolotyEmbedded.Interval
