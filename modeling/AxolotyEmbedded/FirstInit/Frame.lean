import AxolotyEmbedded.FirstInit.LinkedInputs
import AxolotyEmbedded.Library.Loop

/-!
`analyze_frame`: the stack frame of one function, by a search over the addresses of its
instructions with the stack pointer before each of them, and what the search could not
resolve.
-/
namespace AxolotyEmbedded.FirstInit

open PythonText PythonInt Checked

/-! ## Registers and operands -/

def abiRegs : List Str :=
  split ' ' ("zero ra sp gp tp t0 t1 t2 s0 s1 a0 a1 a2 a3 a4 a5 a6 a7 ".toList ++
    "s2 s3 s4 s5 s6 s7 s8 s9 s10 s11 t3 t4 t5 t6".toList)

def regAliases : List (Str × Str) :=
  abiRegs.zipIdx.map fun entry => ('x' :: Nat.toDigits 10 entry.2, entry.1)

def reg (value : Str) : Str := (regAliases.lookup (strip value)).getD (strip value)

/-- `[part.strip() for part in ins.operands.split(",")]`, which is never empty. -/
def Instruction.parts (ins : Instruction) : List Str := (split ',' ins.operands).map strip

/-- The register that the first operand names. -/
def Instruction.destination (ins : Instruction) : Str := reg (ins.parts.headD [])

/-- `reg(args[0]) if len(args) > 1 else "ra"`. -/
def Instruction.linkRegister (ins : Instruction) : Str :=
  if 1 < ins.parts.length then ins.destination else "ra".toList

/-! ## Kinds of instructions -/

def branches : List Str :=
  split ' ' "beq bne blt bge bltu bgeu beqz bnez blez bgez bltz bgtz c.beqz c.bnez".toList

def returns : List Str := ["ret".toList, "c.ret".toList]

def uncondJumps : List Str := ["j".toList, "c.j".toList]

/-- The jumps to the address in a register. -/
def registerJumps : List Str := ["jr".toList, "c.jr".toList]

/-- The jumps to an address that leave the next one in a register. -/
def linkJumps : List Str := ["jal".toList, "c.jal".toList]

def systemTraps : List Str := split ' ' "ecall ebreak c.ebreak wfi unimp mret sret".toList

def supportedLinear : List Str :=
  split ' '
    ("add addi and andi auipc div divu fence li lui mul mulh mulhsu mulhu mv neg nop not or ".toList ++
      "ori rem remu seqz sgtz sll slli slt slti sltiu sltu snez sra srai srl srli sub xor ".toList ++
      "xori zext.b lb lbu lh lhu lw sb sh sw csrr csrrc csrrci csrrs csrrsi csrw csrci ".toList ++
      "csrsi amoadd.w amoadd.w.aqrl amoand.w.aqrl amoor.w.aqrl lr.w lr.w.aq sc.w sc.w.rl ".toList ++
      "c.addi c.addi16sp c.li c.lui c.mv c.add c.nop c.lw c.sw c.lwsp c.swsp c.li c.slli ".toList ++
      "c.srli c.srai c.andi c.sub c.xor c.or c.and c.addi4spn c.zext.b c.sext.b c.zext.h ".toList ++
      "c.sext.h c.zext.w c.not c.neg".toList)

variable (ints : IntTables) (printable : Char → Bool)

/-- The signed change of the stack pointer, none for an unsupported write. -/
def stackStep (ins : Instruction) : Option Int :=
  if ins.destination ≠ "sp".toList then some 0
  else if ins.mnemonic = "c.addi".toList ∧ ins.parts.length = 2 then
    toInt ints 0 (ins.parts.getD 1 [])
  else if ins.mnemonic = "c.addi16sp".toList ∧ ins.parts.length = 2 then
    toInt ints 0 (ins.parts.getD 1 [])
  else if ins.mnemonic ∈ ["addi".toList, "c.addi".toList, "c.addi16sp".toList] ∧
      ins.parts.length = 3 ∧ reg (ins.parts.getD 1 []) = "sp".toList then
    toInt ints 0 (ins.parts.getD 2 [])
  else none

/-! ## Successors -/

structure Succession where
  next : List Nat
  isExit : Bool
  problem : Option Str

def stops (problem : Str) : Succession := ⟨[], false, some problem⟩

/-- On to the next instruction, which must follow without a gap. -/
def fallthrough (starts : List Nat) (nextAddr : Option Nat) (problem : Str) : Succession :=
  match nextAddr with
  | none => stops problem
  | some next => if next ∈ starts then ⟨[next], false, none⟩ else stops problem

/-- A jump inside the function, or out of it, which only some jumps make an exit. -/
def directJump (starts : List Nat) (target : Option Nat) (isExit : Bool) : Succession :=
  match target with
  | none => ⟨[], isExit, some "unresolved direct jump".toList⟩
  | some target => if target ∈ starts then ⟨[target], false, none⟩ else ⟨[], isExit, none⟩

/-- The format of an integer, which raises past the digits that the interpreter allows. -/
def decimalText (value : Int) : Except Raised Str := orRaise .valueError (decimal ints value)

/-- `{target!r}`. -/
def targetText : Option Nat → Except Raised Str
  | none => .ok "None".toList
  | some target => decimalText ints target

def branch (starts : List Nat) (target nextAddr : Option Nat) : Except Raised Succession :=
  match target.filter fun target => target ∈ starts with
  | none => do
      return stops ("branch target ".toList ++ (← targetText ints target) ++
        " is absent from the function instruction graph".toList)
  | some target =>
      let on := fallthrough starts nextAddr
        "branch fallthrough instruction is missing or discontinuous".toList
      .ok (if on.problem = none then { on with next := target :: on.next } else on)

/-- The address after an instruction if the next one of the function is there. -/
def nextAddr (fn : Function) (index : Nat) (ins : Instruction) : Option Nat :=
  (fn.instructions[index + 1]?.map Instruction.address).filter fun address =>
    address = ins.address + ins.size

/-- What follows one instruction. The source tests for a zero link once more after the link
register is known. -/
def successors (fn : Function) (index : Nat) (ins : Instruction) (starts : List Nat) :
    Except Raised Succession :=
  let m := ins.mnemonic
  let callFallthrough := fallthrough starts (nextAddr fn index ins)
    "call fallthrough instruction is missing or discontinuous".toList
  if m ∈ returns ∨ (m ∈ registerJumps ∧ reg ins.operands = "ra".toList) then .ok ⟨[], true, none⟩
  else if m ∈ systemTraps then .ok (stops "system trap/exception flow is not modeled".toList)
  else if m ∈ uncondJumps then .ok (directJump starts ins.target true)
  else if m ∈ branches then branch ints starts ins.target (nextAddr fn index ins)
  else if m ∈ registerJumps ∧ reg ins.operands = "t0".toList then .ok ⟨[], true, none⟩
  else if m ∈ registerJumps then
    .ok (stops
      "indirect control transfer (including outlined link-register continuation)".toList)
  else if m ∈ linkJumps ∧ ins.linkRegister = "zero".toList then
    .ok (directJump starts ins.target false)
  else if m = "jalr".toList ∧ ins.linkRegister = "zero".toList then
    .ok (stops "indirect tail transfer".toList)
  else if m ∈ linkJumps then
    if ins.linkRegister ∉ abiRegs then
      .ok (stops ("unsupported link register ".toList ++ reprText printable ins.linkRegister))
    else if ins.target = none then .ok (stops "direct call target is missing".toList)
    else .ok callFallthrough
  else if m = "jalr".toList then
    if ins.target = none then
      .ok (stops "indirect call/continuation target is not proven by local control flow".toList)
    else .ok callFallthrough
  else if m ∉ supportedLinear then
    .ok (stops ("unsupported instruction/control-flow semantics for ".toList ++ m))
  else
    .ok (fallthrough starts (nextAddr fn index ins)
      "missing or discontinuous fallthrough instruction".toList)

/-! ## The search -/

/-- An address to visit, the stack pointer before it, and the visits that led there with the
last one first. -/
structure WorkItem where
  pc : Nat
  delta : Int
  path : List (Nat × Int)

/-- `work` is a stack with its top first. -/
structure FrameState where
  work : List WorkItem
  seen : List (Nat × Int)
  exits : Nat
  minDelta : Int
  issues : List Str

def issueAt (pc : Nat) (text : Str) : Str := "0x".toList ++ hexText pc ++ ": ".toList ++ text

def FrameState.issue (state : FrameState) (pc : Nat) (text : Str) : FrameState :=
  { state with issues := issueAt pc text :: state.issues }

def FrameState.issueIf (state : FrameState) (found : Bool) (pc : Nat) (text : Str) : FrameState :=
  if found then state.issue pc text else state

def writesRa (ins : Instruction) : Bool :=
  ((ins.mnemonic ∈ linkJumps ∨ ins.mnemonic = "jalr".toList) ∧
      (ins.destination = "ra".toList ∨ ins.mnemonic = "c.jal".toList)) ∨
    (ins.destination = "ra".toList ∧
      ins.mnemonic ∉ branches ++ uncondJumps ++ returns ++ registerJumps ++
        split ' ' "sw sh sb c.sw c.swsp".toList)

/-- The write of the stack pointer is none of an addition. -/
def writesSpElse (ins : Instruction) : Bool :=
  ins.destination = "sp".toList ∧
    ins.mnemonic ∉ ["addi".toList, "c.addi".toList, "c.addi16sp".toList]

def startsOf (fn : Function) : List Nat := fn.instructions.map Instruction.address

/-- `index_by_pc`: of two instructions at one address the later one. -/
def indexByPc (fn : Function) : Dict Nat Nat :=
  (∅ : Dict Nat Nat).update (fn.instructions.zipIdx.map fun entry => (entry.1.address, entry.2))

/-- The successors, a return through `t0` being one only where a `jal t0` caller is known. -/
def frameSuccessors (fn : Function) (linkregReturn : Bool) (index : Nat) (ins : Instruction) :
    Except Raised Succession :=
  if ins.mnemonic ∈ registerJumps ∧ reg ins.operands = "t0".toList ∧ linkregReturn = false then
    .ok (stops "unproven jr t0 continuation without a jal t0 caller".toList)
  else successors ints printable fn index ins (startsOf fn)

def FrameState.lower (state : FrameState) (after : Int) : FrameState :=
  { state with minDelta := if after < state.minDelta then after else state.minDelta }

/-- An exit counts, and the stack pointer must be restored there. -/
def FrameState.leave (state : FrameState) (pc : Nat) (isExit : Bool) (after : Int) :
    Except Raised FrameState :=
  if isExit then
    if after = 0 then .ok { state with exits := state.exits + 1 }
    else do
      let text ← decimalText ints after
      return { state with exits := state.exits + 1 }.issue pc
        ("return with sp delta ".toList ++ text ++ ", expected 0".toList)
  else .ok state

/-- One successor: a new item, unless its address is on the path already. -/
def follow (pc : Nat) (after : Int) (path : List (Nat × Int)) (state : FrameState) (nextPc : Nat) :
    Except Raised FrameState :=
  match path.lookup nextPc with
  | none => .ok { state with work := ⟨nextPc, after, (nextPc, after) :: path⟩ :: state.work }
  | some earlier =>
      if earlier = after then .ok state
      else do
        let now ← decimalText ints after
        let before ← decimalText ints earlier
        return state.issue pc
          ("stack-changing control-flow cycle returns to 0x".toList ++ hexText nextPc ++
            " with delta ".toList ++ now ++ " (was ".toList ++ before ++ ")".toList)

/-- The pass for one instruction after its change of the stack pointer is known. -/
def visitStep (fn : Function) (linkregReturn : Bool) (index : Nat) (ins : Instruction)
    (item : WorkItem) (after : Int) (state : FrameState) : Except Raised FrameState := do
  let state := state.lower after
  if writesSpElse ins then
    return state.issue item.pc ("unsupported stack-pointer write: ".toList ++ ins.text)
  else do
    let succession ← frameSuccessors ints printable fn linkregReturn index ins
    let state := state.issueIf succession.problem.isSome item.pc
      (succession.problem.getD [] ++ ": ".toList ++ ins.text)
    let state ← state.leave ints item.pc succession.isExit after
    succession.next.foldlM (follow ints item.pc after item.path) state

/-- The pass for one instruction. -/
def visitInstruction (fn : Function) (linkregReturn : Bool) (index : Nat) (ins : Instruction)
    (item : WorkItem) (state : FrameState) : Except Raised FrameState :=
  let state := state.issueIf (writesRa ins) item.pc
    ("link-register write/return convention is not proven: ".toList ++ ins.text)
  match stackStep ints ins with
  | none => .ok (state.issue item.pc ("unsupported/dynamic write to sp: ".toList ++ ins.text))
  | some change =>
      visitStep ints printable fn linkregReturn index ins item (item.delta + change) state

/-- A pass over an item that was not seen before. -/
def visit (fn : Function) (linkregReturn : Bool) (item : WorkItem) (state : FrameState) :
    Except Raised FrameState := do
  let index ← orRaise (.proof (.keyError item.pc)) ((indexByPc fn).get? item.pc)
  let ins ← orRaise .indexError fn.instructions[index]?
  visitInstruction ints printable fn linkregReturn index ins item state

/-- One pass of `while work`. -/
def framePass (fn : Function) (linkregReturn : Bool) (state : FrameState) :
    Option (Except Raised FrameState) :=
  match state.work with
  | [] => none
  | item :: work =>
      some (if (item.pc, item.delta) ∈ state.seen then .ok { state with work }
        else visit ints printable fn linkregReturn item
          { state with work, seen := (item.pc, item.delta) :: state.seen })

/-- What is wrong with the list of instructions. -/
def layoutIssues (fn : Function) (first : Instruction) : List Str :=
  (if (startsOf fn).Nodup then []
    else [issueAt fn.start "duplicate instruction address in function body".toList]) ++
  (if first.address = fn.start then []
    else [issueAt fn.start
      "first decoded instruction does not start at the symbol address".toList]) ++
  (fn.instructions.zip fn.instructions.tail).filterMap fun pair =>
    if pair.1.address + pair.1.size = pair.2.address then none
    else some (issueAt pair.1.address ("instruction gap before 0x".toList ++ hexText pair.2.address))

def beginFrame (fn : Function) (first : Instruction) : FrameState where
  work := [⟨first.address, 0, [(first.address, 0)]⟩]
  seen := []
  exits := 0
  minDelta := 0
  issues := layoutIssues fn first

/-- The entries of the last two keys are absent for a function without body. -/
structure FrameReport where
  frameBytes : Option Int
  unresolved : List Str
  minimumStackPointerDelta : Option Int
  observedReturnPaths : Option Nat

def frameReport (fn : Function) (state : FrameState) : FrameReport where
  frameBytes := if state.minDelta ≤ 0 then some (-state.minDelta) else none
  unresolved :=
    (state.issueIf (state.exits = 0) fn.start "no proven return path".toList).issues.dedup.insertionSort
      fun first second => strLe first second
  minimumStackPointerDelta := some state.minDelta
  observedReturnPaths := some state.exits

/-- The analysis, none while the fuel does not suffice. -/
def analyzeFrame (fuel : Nat) (fn : Function) (linkregReturn : Bool) :
    Option (Except Raised FrameReport) :=
  match fn.instructions with
  | [] => some (.ok
      { frameBytes := none
        unresolved := [issueAt fn.start "missing linked body".toList]
        minimumStackPointerDelta := none
        observedReturnPaths := none })
  | first :: _ =>
      (Loop.run (framePass ints printable fn linkregReturn) fuel (beginFrame fn first)).map
        fun ended => ended.map (frameReport fn)

end AxolotyEmbedded.FirstInit
