import AxolotyEmbedded.FirstInit.Frame

/-!
The walks through a function, told by the kinds of its instructions alone, and the edges of
`successors`, which are those of the walks wherever it reports no problem.
-/
namespace AxolotyEmbedded.FirstInit

open PythonText PythonInt Checked

/-! ## Walks -/

variable (ints : IntTables) (printable : Char → Bool) (fn : Function)

/-- A return, to the address in `ra` or in `t0`. -/
def Instruction.IsReturn (ins : Instruction) : Prop :=
  ins.mnemonic ∈ returns ∨ (ins.mnemonic ∈ registerJumps ∧
    (reg ins.operands = "ra".toList ∨ reg ins.operands = "t0".toList))

/-- `jal` or `c.jal` that keeps no link. -/
def Instruction.IsZeroLink (ins : Instruction) : Prop :=
  ins.mnemonic ∈ linkJumps ∧ ins.linkRegister = "zero".toList

/-- A jump to an address of its own, in any spelling. -/
def Instruction.IsJump (ins : Instruction) : Prop := ins.mnemonic ∈ uncondJumps ∨ ins.IsZeroLink

/-- The next instruction may run after this one. -/
structure Instruction.FallsThrough (ins : Instruction) : Prop where
  noReturn : ins.mnemonic ∉ returns
  noRegisterJump : ins.mnemonic ∉ registerJumps
  noJump : ¬ins.IsJump
  noTail : ¬(ins.mnemonic = "jalr".toList ∧ ins.linkRegister = "zero".toList)

/-- One instruction of a function after another, without a call or a trap between them. -/
inductive Follows (ins next : Instruction) : Prop where
  | fallthrough (falls : ins.FallsThrough) {i : Nat} (here : fn.instructions[i]? = some ins)
      (there : fn.instructions[i + 1]? = some next)
      (adjacent : next.address = ins.address + ins.size)
  | branch (branches : ins.mnemonic ∈ branches) (member : next ∈ fn.instructions)
      (target : ins.target = some next.address)
  | jump (jumps : ins.IsJump) (member : next ∈ fn.instructions)
      (target : ins.target = some next.address)

/-- The change of the stack pointer by one instruction. -/
def spChange (ins : Instruction) : Int := (stackStep ints ins).getD 0

/-- A walk from the first instruction up to `ins`, with the sum of the changes before it. -/
inductive Walk : Instruction → Int → Prop where
  | first {ins : Instruction} {rest : List Instruction} (begun : fn.instructions = ins :: rest) :
      Walk ins 0
  | next {ins next : Instruction} {delta : Int} (walk : Walk ins delta)
      (follows : Follows fn ins next) : Walk next (delta + spChange ints ins)

/-- A jump to an address that is none of an instruction of the function. -/
def JumpsOut (ins : Instruction) : Prop :=
  ∃ target, ins.target = some target ∧ target ∉ startsOf fn

/-- A transfer out of the function. -/
def Leaves (ins : Instruction) : Prop := ins.IsReturn ∨ (ins.IsJump ∧ JumpsOut fn ins)

/-- The stack pointer is written; `c.addi16sp` writes it whatever its operands name. -/
def Instruction.WritesSp (ins : Instruction) : Prop :=
  ins.destination = "sp".toList ∨ ins.mnemonic = "c.addi16sp".toList

/-- What the frame of a function tells of its walks. -/
structure FrameClosed (frameBytes : Int) : Prop where
  bounded : ∀ ins delta, Walk ints fn ins delta → -frameBytes ≤ delta + spChange ints ins
  attained : ∃ ins delta, Walk ints fn ins delta ∧ delta + spChange ints ins = -frameBytes
  modelled : ∀ ins delta, Walk ints fn ins delta → ins.WritesSp →
    ins.destination = "sp".toList ∧ (stackStep ints ins).isSome = true
  leaving : ∀ ins delta, Walk ints fn ins delta → Leaves fn ins → delta + spChange ints ins = 0

variable {ints printable fn} {ins next : Instruction} {delta : Int}

theorem Follows.mem (follows : Follows fn ins next) : next ∈ fn.instructions := by
  cases follows with
  | fallthrough falls here there adjacent => exact List.mem_of_getElem? there
  | branch branches member target => exact member
  | jump jumps member target => exact member

theorem Walk.mem (walk : Walk ints fn ins delta) : ins ∈ fn.instructions := by
  cases walk with
  | first begun => exact begun ▸ List.mem_cons_self
  | next walk follows => exact follows.mem

/-! ## The edges of `successors` -/

/-- A succession without problem, by the kind of its instruction. -/
inductive Edges (fn : Function) (index : Nat) (ins : Instruction) : Succession → Prop where
  | leave (returns : ins.IsReturn) : Edges fn index ins ⟨[], true, none⟩
  | jump (jumps : ins.IsJump) {target : Nat} (known : ins.target = some target)
      (inside : target ∈ startsOf fn) : Edges fn index ins ⟨[target], false, none⟩
  | tail {target : Nat} (jumps : ins.IsJump) (known : ins.target = some target)
      (outside : target ∉ startsOf fn) {isExit : Bool} (counted : isExit = true ∨ ins.IsZeroLink) :
      Edges fn index ins ⟨[], isExit, none⟩
  | branch (branches : ins.mnemonic ∈ branches) (falls : ins.FallsThrough) {target next : Nat}
      (known : ins.target = some target) (inside : target ∈ startsOf fn)
      (after : nextAddr fn index ins = some next) : Edges fn index ins ⟨[target, next], false, none⟩
  | fallthrough (plain : ins.mnemonic ∉ FirstInit.branches) (falls : ins.FallsThrough) {next : Nat}
      (after : nextAddr fn index ins = some next) : Edges fn index ins ⟨[next], false, none⟩

/-- A succession with a problem, which follows nothing. -/
structure Stopped (succession : Succession) : Prop where
  next : succession.next = []
  problem : succession.problem ≠ none

theorem stopped_stops (problem : Str) : Stopped (stops problem) := ⟨rfl, nofun⟩

theorem fallthrough_cases (starts : List Nat) (after : Option Nat) (problem : Str) :
    Stopped (fallthrough starts after problem) ∨
      ∃ next, after = some next ∧ fallthrough starts after problem = ⟨[next], false, none⟩ := by
  cases after with
  | none => exact .inl (stopped_stops problem)
  | some next =>
      by_cases inside : next ∈ starts
      · exact .inr ⟨next, rfl, if_pos inside⟩
      · refine .inl ?_
        rw [fallthrough, if_neg inside]
        exact stopped_stops problem

/-- A branch is neither a jump nor a return. -/
theorem fallsThrough_of_branch (branches : ins.mnemonic ∈ branches) : ins.FallsThrough := by
  have apart : ∀ m ∈ FirstInit.branches, m ∉ returns ∧ m ∉ registerJumps ∧ m ∉ uncondJumps ∧
      m ∉ linkJumps ∧ m ≠ "jalr".toList := by decide +kernel
  obtain ⟨noReturn, noRegisterJump, noJump, noLink, noTail⟩ := apart _ branches
  exact ⟨noReturn, noRegisterJump, not_or.mpr ⟨noJump, fun link => noLink link.1⟩,
    fun tail => noTail tail.1⟩

theorem not_isJump_of_isReturn (isReturn : ins.IsReturn) : ¬ins.IsJump := by
  have apart : ∀ m ∈ returns ++ registerJumps, m ∉ uncondJumps ∧ m ∉ linkJumps := by decide +kernel
  have member : ins.mnemonic ∈ returns ++ registerJumps :=
    List.mem_append.mpr (isReturn.imp_right And.left)
  rintro (jumps | link)
  · exact (apart _ member).1 jumps
  · exact (apart _ member).2 link.1

theorem directJump_cases {index : Nat} {isExit : Bool} (jumps : ins.IsJump)
    (counted : isExit = true ∨ ins.IsZeroLink) :
    Stopped (directJump (startsOf fn) ins.target isExit) ∨
      Edges fn index ins (directJump (startsOf fn) ins.target isExit) := by
  cases known : ins.target with
  | none => exact .inl ⟨rfl, nofun⟩
  | some target =>
      refine .inr ?_
      rw [directJump]
      by_cases inside : target ∈ startsOf fn
      · rw [if_pos inside]
        exact .jump jumps known inside
      · rw [if_neg inside]
        exact .tail jumps known inside counted

theorem branch_cases {index : Nat} {succession : Succession} (branches : ins.mnemonic ∈ branches)
    (found : branch ints (startsOf fn) ins.target (nextAddr fn index ins) = .ok succession) :
    Stopped succession ∨ Edges fn index ins succession := by
  rw [branch] at found
  split at found
  · obtain ⟨text, -, built⟩ := bind_eq_ok.mp found
    obtain rfl := Except.ok.inj built
    exact .inl (stopped_stops _)
  · next target known =>
      obtain ⟨here, inside⟩ := Option.filter_eq_some_iff.mp known
      have built := Except.ok.inj found
      subst built
      obtain stopped | ⟨next, after, same⟩ := fallthrough_cases (startsOf fn)
        (nextAddr fn index ins) "branch fallthrough instruction is missing or discontinuous".toList
      · rw [if_neg stopped.problem]
        exact .inl stopped
      · rw [same, if_pos rfl]
        exact .inr (.branch branches (fallsThrough_of_branch branches) here
          (of_decide_eq_true inside) after)

/-- What `analyze_frame` follows: the edges of the walks, or nothing and there is a problem. -/
theorem frameSuccessors_cases {index : Nat} {linkregReturn : Bool} {succession : Succession}
    (found : frameSuccessors ints printable fn linkregReturn index ins = .ok succession) :
    Stopped succession ∨ Edges fn index ins succession := by
  have stopped : ∀ {problem : Str}, Except.ok (stops problem) = (Except.ok succession : Except Raised _) →
      Stopped succession ∨ Edges fn index ins succession := by
    intro problem same
    obtain rfl := Except.ok.inj same
    exact .inl (stopped_stops problem)
  rw [frameSuccessors] at found
  by_cases unproven : ins.mnemonic ∈ registerJumps ∧ reg ins.operands = "t0".toList ∧
      linkregReturn = false
  · rw [if_pos unproven] at found
    exact stopped found
  rw [if_neg unproven, successors] at found
  by_cases ends : ins.mnemonic ∈ returns ∨
      (ins.mnemonic ∈ registerJumps ∧ reg ins.operands = "ra".toList)
  · rw [if_pos ends] at found
    obtain rfl := Except.ok.inj found
    exact .inr (.leave (ends.imp_right fun register => ⟨register.1, .inl register.2⟩))
  rw [if_neg ends] at found
  by_cases traps : ins.mnemonic ∈ systemTraps
  · rw [if_pos traps] at found
    exact stopped found
  rw [if_neg traps] at found
  by_cases jumps : ins.mnemonic ∈ uncondJumps
  · rw [if_pos jumps] at found
    obtain rfl := Except.ok.inj found
    exact directJump_cases (.inl jumps) (.inl rfl)
  rw [if_neg jumps] at found
  by_cases branches : ins.mnemonic ∈ branches
  · rw [if_pos branches] at found
    exact branch_cases branches found
  rw [if_neg branches] at found
  by_cases outlined : ins.mnemonic ∈ registerJumps ∧ reg ins.operands = "t0".toList
  · rw [if_pos outlined] at found
    obtain rfl := Except.ok.inj found
    exact .inr (.leave (.inr ⟨outlined.1, .inr outlined.2⟩))
  rw [if_neg outlined] at found
  by_cases register : ins.mnemonic ∈ registerJumps
  · rw [if_pos register] at found
    exact stopped found
  rw [if_neg register] at found
  by_cases zero : ins.mnemonic ∈ linkJumps ∧ ins.linkRegister = "zero".toList
  · rw [if_pos zero] at found
    obtain rfl := Except.ok.inj found
    exact directJump_cases (.inr zero) (.inr zero)
  rw [if_neg zero] at found
  by_cases tail : ins.mnemonic = "jalr".toList ∧ ins.linkRegister = "zero".toList
  · rw [if_pos tail] at found
    exact stopped found
  rw [if_neg tail] at found
  -- what is left runs on to the next instruction
  have passes : ∀ {problem : Str}, Except.ok
      (fallthrough (startsOf fn) (nextAddr fn index ins) problem) =
        (Except.ok succession : Except Raised _) →
          Stopped succession ∨ Edges fn index ins succession := by
    intro problem same
    obtain rfl := Except.ok.inj same
    obtain closed | ⟨next, after, same⟩ := fallthrough_cases (startsOf fn) (nextAddr fn index ins)
      problem
    · exact .inl closed
    · rw [same]
      exact .inr (.fallthrough branches
        ⟨(not_or.mp ends).1, register, not_or.mpr ⟨jumps, zero⟩, tail⟩ after)
  by_cases links : ins.mnemonic ∈ linkJumps
  · rw [if_pos links] at found
    by_cases strange : ins.linkRegister ∉ abiRegs
    · rw [if_pos strange] at found
      exact stopped found
    rw [if_neg strange] at found
    by_cases missing : ins.target = none
    · rw [if_pos missing] at found
      exact stopped found
    · rw [if_neg missing] at found
      exact passes found
  rw [if_neg links] at found
  by_cases indirect : ins.mnemonic = "jalr".toList
  · rw [if_pos indirect] at found
    by_cases missing : ins.target = none
    · rw [if_pos missing] at found
      exact stopped found
    · rw [if_neg missing] at found
      exact passes found
  rw [if_neg indirect] at found
  by_cases unknown : ins.mnemonic ∉ supportedLinear
  · rw [if_pos unknown] at found
    exact stopped found
  · rw [if_neg unknown] at found
    exact passes found

variable {index : Nat} {succession : Succession}

theorem exists_of_mem_startsOf {pc : Nat} (held : pc ∈ startsOf fn) :
    ∃ next ∈ fn.instructions, next.address = pc := List.mem_map.mp held

theorem exists_of_nextAddr {pc : Nat} (after : nextAddr fn index ins = some pc) :
    ∃ next, fn.instructions[index + 1]? = some next ∧ next.address = pc ∧
      next.address = ins.address + ins.size := by
  obtain ⟨mapped, adjacent⟩ := Option.filter_eq_some_iff.mp after
  obtain ⟨next, there, rfl⟩ := Option.map_eq_some_iff.mp mapped
  exact ⟨next, there, rfl, of_decide_eq_true adjacent⟩

/-- Each address that is followed is that of an instruction a walk goes on to. -/
theorem Edges.sound (edges : Edges fn index ins succession) (here : fn.instructions[index]? = some ins)
    {pc : Nat} (followed : pc ∈ succession.next) :
    ∃ next, next.address = pc ∧ Follows fn ins next := by
  have on : ∀ {pc}, ins.FallsThrough → nextAddr fn index ins = some pc →
      ∃ next, next.address = pc ∧ Follows fn ins next := by
    intro pc falls after
    obtain ⟨next, there, same, adjacent⟩ := exists_of_nextAddr after
    exact ⟨next, same, .fallthrough falls here there adjacent⟩
  cases edges with
  | leave returns => cases followed
  | jump jumps known inside =>
      obtain rfl := List.mem_singleton.mp followed
      obtain ⟨next, member, rfl⟩ := exists_of_mem_startsOf inside
      exact ⟨next, rfl, .jump jumps member known⟩
  | tail jumps known outside counted => cases followed
  | branch branches falls known inside after =>
      obtain rfl | second := List.mem_cons.mp followed
      · obtain ⟨next, member, rfl⟩ := exists_of_mem_startsOf inside
        exact ⟨next, rfl, .branch branches member known⟩
      · obtain rfl := List.mem_singleton.mp second
        exact on falls after
  | fallthrough plain falls after =>
      obtain rfl := List.mem_singleton.mp followed
      exact on falls after

theorem Edges.length_le (edges : Edges fn index ins succession) : succession.next.length ≤ 2 := by
  cases edges <;> simp

/-- A walk goes on to followed addresses only. -/
theorem Edges.complete (edges : Edges fn index ins succession) (distinct : (startsOf fn).Nodup)
    (here : fn.instructions[index]? = some ins) (follows : Follows fn ins next) :
    next.address ∈ succession.next := by
  have only : ∀ {i : Nat}, fn.instructions[i]? = some ins → i = index := by
    intro i there
    obtain ⟨small, first⟩ := List.getElem?_eq_some_iff.mp there
    obtain ⟨smallToo, second⟩ := List.getElem?_eq_some_iff.mp here
    exact (List.getElem_inj (List.Nodup.of_map _ distinct)).mp (first.trans second.symm)
  cases follows with
  | fallthrough falls there after adjacent =>
      have following : nextAddr fn index ins = some next.address := by
        rw [nextAddr, ← only there, after, Option.map_some, Option.filter_some,
          if_pos (decide_eq_true adjacent)]
      cases edges with
      | leave returns =>
          exact absurd returns (not_or.mpr ⟨falls.noReturn, fun register =>
            falls.noRegisterJump register.1⟩)
      | jump jumps known inside => exact absurd jumps falls.noJump
      | tail jumps known outside counted => exact absurd jumps falls.noJump
      | branch branches falls known inside next' =>
          obtain rfl := Option.some.inj (next'.symm.trans following)
          exact List.mem_cons_of_mem _ List.mem_cons_self
      | fallthrough plain falls next' =>
          obtain rfl := Option.some.inj (next'.symm.trans following)
          exact List.mem_cons_self
  | branch branches member target =>
      have falls := fallsThrough_of_branch branches
      cases edges with
      | leave returns =>
          exact absurd returns (not_or.mpr ⟨falls.noReturn, fun register =>
            falls.noRegisterJump register.1⟩)
      | jump jumps known inside => exact absurd jumps falls.noJump
      | tail jumps known outside counted => exact absurd jumps falls.noJump
      | branch branches falls known inside next' =>
          obtain rfl := Option.some.inj (known.symm.trans target)
          exact List.mem_cons_self
      | fallthrough plain falls next' => exact absurd branches plain
  | jump jumps member target =>
      have inside : next.address ∈ startsOf fn := List.mem_map_of_mem member
      cases edges with
      | leave returns => exact absurd jumps (not_isJump_of_isReturn returns)
      | jump jumps known inside =>
          obtain rfl := Option.some.inj (known.symm.trans target)
          exact List.mem_singleton_self _
      | tail jumps known outside counted =>
          obtain rfl := Option.some.inj (known.symm.trans target)
          exact absurd inside outside
      | branch branches falls known inside next' => exact absurd jumps falls.noJump
      | fallthrough plain falls next' => exact absurd jumps falls.noJump

/-- All transfers out of the function are exits, those without a link excepted. -/
theorem Edges.isExit (edges : Edges fn index ins succession) (leaves : Leaves fn ins) :
    succession.isExit = true ∨ ins.IsZeroLink := by
  have falling : ¬ins.FallsThrough := by
    intro falls
    obtain returns | ⟨jumps, -⟩ := leaves
    · obtain plain | register := returns
      · exact falls.noReturn plain
      · exact falls.noRegisterJump register.1
    · exact falls.noJump jumps
  cases edges with
  | leave returns => exact .inl rfl
  | jump jumps known inside =>
      obtain returns | ⟨-, target, same, outside⟩ := leaves
      · exact absurd jumps (not_isJump_of_isReturn returns)
      · obtain rfl := Option.some.inj (known.symm.trans same)
        exact absurd inside outside
  | tail jumps known outside counted => exact counted
  | branch branches falls known inside next' => exact absurd falls falling
  | fallthrough plain falls next' => exact absurd falls falling

end AxolotyEmbedded.FirstInit
