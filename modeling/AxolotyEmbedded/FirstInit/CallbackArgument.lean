import AxolotyEmbedded.FirstInit.Frame

/-!
`callback_argument_value`: the constant in a register at a call, tracked through the
instructions before it, and the one operand on which the tracking raises.
-/
namespace AxolotyEmbedded.FirstInit

open PythonText PythonInt Checked

/-- `values`: the constants known in registers. -/
abbrev Values := Str → Option Int

/-- The registers that a call may clobber. -/
def callerSaved : List Str := split ' ' "ra t0 t1 t2 a0 a1 a2 a3 a4 a5 a6 a7 t3 t4 t5 t6".toList

/-- `text.split()[0]`, none for an `IndexError`. -/
def firstWord (text : Str) : Option Str :=
  let rest := text.dropWhile isSpace
  if rest = [] then none else some (rest.takeWhile fun c => !isSpace c)

variable (ints : IntTables)

/-- The constant of the second operand of an instruction, if that is a register. -/
def sourceValue (values : Values) (ins : Instruction) : Option Int :=
  if 1 < ins.parts.length then values (reg (ins.parts.getD 1 [])) else none

/-- The constant that an instruction leaves in its destination, none if it is not known. -/
def newValue (values : Values) (ins : Instruction) : Except Raised (Option Int) :=
  let size := ins.parts.length
  let immediate := toInt ints 0 (ins.parts.getD 1 [])
  if ins.mnemonic = "auipc".toList ∧ size = 2 then
    .ok (immediate.map fun immediate =>
      let low := immediate % 0x100000
      let signed := if 0x80000 ≤ low then low - 0x100000 else low
      (ins.address + signed * 0x1000) % 0x100000000)
  else if ins.mnemonic = "lui".toList ∧ size = 2 then
    .ok (immediate.map fun immediate => immediate * 0x1000 % 0x100000000)
  else if ins.mnemonic = "li".toList ∧ size = 2 then .ok immediate
  else if ins.mnemonic = "mv".toList ∧ size = 2 then .ok (sourceValue values ins)
  else if ins.mnemonic = "addi".toList ∧ size = 3 then
    match sourceValue values ins with
    | none => .ok none
    | some source => do
        let word ← orRaise .indexError (firstWord (ins.parts.getD 2 []))
        return (toInt ints 0 word).map fun addend => (source + addend) % 0x100000000
  else .ok none

/-- One instruction, none where the control flow splits. -/
def trackStep (values : Values) (ins : Instruction) : Except Raised (Option Values) :=
  if ins.mnemonic ∈ branches ++ uncondJumps ++ registerJumps ++ returns then .ok none
  else if ins.mnemonic ∈ linkJumps ∨ ins.mnemonic = "jalr".toList then
    if ins.mnemonic ≠ "c.jal".toList ∧ ins.linkRegister = "zero".toList then .ok none
    else .ok (some fun register => if register ∈ callerSaved then none else values register)
  else if ins.destination ∉ abiRegs ∨ ins.destination = "zero".toList then .ok (some values)
  else do
    let value ← newValue ints values ins
    return some fun register => if register = ins.destination then value else values register

/-- The loop over the instructions before the call. -/
def track (callPc : Nat) : Values → List Instruction → Except Raised (Option Values)
  | values, [] => .ok (some values)
  | values, ins :: rest =>
      if callPc ≤ ins.address then .ok (some values)
      else do
        match ← trackStep ints values ins with
        | none => return none
        | some values => track callPc values rest

def callbackArgumentValue (fn : Function) (callPc : Nat) (register : Str) :
    Except Raised (Option Int) := do
  return (← track ints callPc (fun _ => none) fn.instructions).bind fun values => values register

/-! ## Where it raises -/

variable {ints} {fn : Function} {values : Values} {ins : Instruction} {callPc : Nat}

/-- An `addi` of a known constant without addend. -/
structure BlankAddend (values : Values) (ins : Instruction) : Prop where
  mnemonic : ins.mnemonic = "addi".toList
  destination : ins.destination ∈ abiRegs ∧ ins.destination ≠ "zero".toList
  operands : ins.parts.length = 3
  known : sourceValue values ins ≠ none
  blank : firstWord (ins.parts.getD 2 []) = none

/-- The constants after some instructions, each of which runs on to the next one. -/
inductive Tracked (ints : IntTables) : List Instruction → Values → Prop where
  | nil : Tracked ints [] fun _ => none
  | snoc {before : List Instruction} {values next : Values} {ins : Instruction}
      (tracked : Tracked ints before values) (step : trackStep ints values ins = .ok (some next)) :
      Tracked ints (before ++ [ins]) next

/-- The tracking through a function comes to an `addi` without addend. -/
def BlankReached (ints : IntTables) (fn : Function) : Prop :=
  ∃ before ins after values, fn.instructions = before ++ ins :: after ∧
    Tracked ints before values ∧ BlankAddend values ins

theorem newValue_of_blank (blank : BlankAddend values ins) :
    newValue ints values ins = .error .indexError := by
  have others : ∀ name ∈ ["auipc".toList, "lui".toList, "li".toList, "mv".toList],
      ¬(ins.mnemonic = name ∧ ins.parts.length = 2) := by
    rintro name - ⟨-, two⟩
    exact absurd (two.symm.trans blank.operands) (by decide)
  obtain ⟨source, known⟩ := Option.ne_none_iff_exists'.mp blank.known
  rw [newValue, if_neg (others _ (by simp)), if_neg (others _ (by simp)),
    if_neg (others _ (by simp)), if_neg (others _ (by simp)),
    if_pos ⟨blank.mnemonic, blank.operands⟩, known, blank.blank]
  rfl

theorem blank_of_newValue {raised : Raised} (failed : newValue ints values ins = .error raised)
    (written : ins.destination ∈ abiRegs ∧ ins.destination ≠ "zero".toList) :
    raised = .indexError ∧ BlankAddend values ins := by
  rw [newValue] at failed
  by_cases auipc : ins.mnemonic = "auipc".toList ∧ ins.parts.length = 2
  · rw [if_pos auipc] at failed
    cases failed
  rw [if_neg auipc] at failed
  by_cases lui : ins.mnemonic = "lui".toList ∧ ins.parts.length = 2
  · rw [if_pos lui] at failed
    cases failed
  rw [if_neg lui] at failed
  by_cases li : ins.mnemonic = "li".toList ∧ ins.parts.length = 2
  · rw [if_pos li] at failed
    cases failed
  rw [if_neg li] at failed
  by_cases mv : ins.mnemonic = "mv".toList ∧ ins.parts.length = 2
  · rw [if_pos mv] at failed
    cases failed
  rw [if_neg mv] at failed
  by_cases addi : ins.mnemonic = "addi".toList ∧ ins.parts.length = 3
  · rw [if_pos addi] at failed
    cases known : sourceValue values ins with
    | none =>
        rw [known] at failed
        cases failed
    | some source =>
        rw [known] at failed
        cases word : firstWord (ins.parts.getD 2 []) with
        | none =>
            rw [word] at failed
            exact ⟨(Except.error.inj failed).symm, addi.1, written, addi.2, by simp [known], word⟩
        | some addend =>
            rw [word] at failed
            cases failed
  · rw [if_neg addi] at failed
    cases failed

theorem trackStep_of_blank (blank : BlankAddend values ins) :
    trackStep ints values ins = .error .indexError := by
  have plain : "addi".toList ∉ branches ++ uncondJumps ++ registerJumps ++ returns ∧
      ¬("addi".toList ∈ linkJumps ∨ "addi".toList = "jalr".toList) := by decide +kernel
  rw [trackStep, if_neg (blank.mnemonic ▸ plain.1), if_neg (blank.mnemonic ▸ plain.2),
    if_neg (not_or.mpr ⟨not_not.mpr blank.destination.1, blank.destination.2⟩),
    newValue_of_blank blank]
  rfl

theorem blank_of_trackStep {raised : Raised} (failed : trackStep ints values ins = .error raised) :
    raised = .indexError ∧ BlankAddend values ins := by
  rw [trackStep] at failed
  by_cases splits : ins.mnemonic ∈ branches ++ uncondJumps ++ registerJumps ++ returns
  · rw [if_pos splits] at failed
    cases failed
  rw [if_neg splits] at failed
  by_cases links : ins.mnemonic ∈ linkJumps ∨ ins.mnemonic = "jalr".toList
  · rw [if_pos links] at failed
    by_cases zero : ins.mnemonic ≠ "c.jal".toList ∧ ins.linkRegister = "zero".toList
    · rw [if_pos zero] at failed
      cases failed
    · rw [if_neg zero] at failed
      cases failed
  rw [if_neg links] at failed
  by_cases ignored : ins.destination ∉ abiRegs ∨ ins.destination = "zero".toList
  · rw [if_pos ignored] at failed
    cases failed
  rw [if_neg ignored] at failed
  cases value : newValue ints values ins with
  | ok value' =>
      rw [value] at failed
      cases failed
  | error other =>
      rw [value] at failed
      obtain rfl := Except.error.inj failed
      obtain ⟨kept, written⟩ := not_or.mp ignored
      exact blank_of_newValue value ⟨not_not.mp kept, written⟩

/-- The loop after some tracked instructions raises only at an `addi` without addend. -/
theorem blankReached_of_track {before rest : List Instruction} {raised : Raised}
    (listed : fn.instructions = before ++ rest) (tracked : Tracked ints before values)
    (failed : track ints callPc values rest = .error raised) :
    raised = .indexError ∧ BlankReached ints fn := by
  induction rest generalizing before values with
  | nil => cases failed
  | cons ins rest ih =>
      rw [track] at failed
      split at failed
      · cases failed
      · cases stepped : trackStep ints values ins with
        | error other =>
            rw [stepped] at failed
            obtain rfl := Except.error.inj failed
            obtain ⟨same, blank⟩ := blank_of_trackStep stepped
            exact ⟨same, before, ins, rest, values, listed, tracked, blank⟩
        | ok outcome =>
            rw [stepped] at failed
            cases outcome with
            | none => cases failed
            | some next =>
                exact ih (by rw [listed, List.append_assoc, List.singleton_append])
                  (tracked.snoc stepped) failed

/-- Before a call after all instructions the loop tracks them all. -/
theorem track_of_tracked {before rest : List Instruction} (tracked : Tracked ints before values)
    (early : ∀ ins ∈ before, ins.address < callPc) :
    track ints callPc (fun _ => none) (before ++ rest) = track ints callPc values rest := by
  induction tracked generalizing rest with
  | nil => rfl
  | @snoc before values next ins tracked step ih =>
      have here := early ins (List.mem_append_right _ (List.mem_singleton_self _))
      rw [List.append_assoc, ih fun other held => early other (List.mem_append_left _ held),
        List.singleton_append, track, if_neg (by omega), step]
      rfl

theorem exists_callPc (instructions : List Instruction) :
    ∃ callPc, ∀ ins ∈ instructions, ins.address < callPc := by
  induction instructions with
  | nil => exact ⟨0, nofun⟩
  | cons ins rest ih =>
      obtain ⟨callPc, early⟩ := ih
      refine ⟨callPc + ins.address + 1, ?_⟩
      rintro other (_ | ⟨_, held⟩)
      · omega
      · have := early other held
        omega

/-- The tracking raises for some call exactly if it can come to an `addi` without addend,
and then an `IndexError`. -/
theorem callbackArgumentValue_eq_error {raised : Raised} :
    (∃ callPc register, callbackArgumentValue ints fn callPc register = .error raised) ↔
      raised = .indexError ∧ BlankReached ints fn := by
  constructor
  · rintro ⟨callPc, register, failed⟩
    rw [callbackArgumentValue] at failed
    cases tracking : track ints callPc (fun _ => none) fn.instructions with
    | ok outcome =>
        rw [tracking] at failed
        cases failed
    | error other =>
        rw [tracking] at failed
        obtain rfl := Except.error.inj failed
        exact blankReached_of_track rfl .nil tracking
  · rintro ⟨rfl, before, ins, after, values, listed, tracked, blank⟩
    obtain ⟨callPc, early⟩ := exists_callPc fn.instructions
    rw [listed] at early
    have here := early ins (List.mem_append_right _ List.mem_cons_self)
    refine ⟨callPc, [], ?_⟩
    rw [callbackArgumentValue, listed, track_of_tracked tracked fun other held =>
      early other (List.mem_append_left _ held), track, if_neg (by omega), trackStep_of_blank blank]
    rfl

end AxolotyEmbedded.FirstInit
