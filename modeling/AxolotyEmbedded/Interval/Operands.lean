import AxolotyEmbedded.Interval.State

/-!
What the engine reads in the operands of an instruction, and what it takes from the
interpreter that runs it.
-/
namespace AxolotyEmbedded.Interval

open PythonText PythonInt
open FirstInit (Instruction)

/-- `iterate` is the order in which a set that is built of integers is run through. -/
structure Interpreter where
  ints : IntTables
  unicode : FirstInit.UnicodeTables
  iterate : List Int → List Int
  iterate_nodup : ∀ members, (iterate members).Nodup
  mem_iterate : ∀ members x, x ∈ iterate members ↔ x ∈ members

/-- The order of `dedup`. -/
def plainInterpreter : Interpreter where
  ints := ⟨fun _ => none, 4300⟩
  unicode := FirstInit.asciiTables
  iterate := List.dedup
  iterate_nodup := List.nodup_dedup
  mem_iterate := fun _ _ => List.mem_dedup

/-- `sorted` of a set. -/
def sorted (members : Finset Int) : List Int :=
  Quotient.liftOn members.val (fun list => list.insertionSort (· ≤ ·)) fun _ _ same =>
    (List.perm_insertionSort (· ≤ ·) _).trans (same.trans (List.perm_insertionSort (· ≤ ·) _).symm)
      |>.eq_of_pairwise (fun _ _ _ _ => Int.le_antisymm) (List.pairwise_insertionSort ..)
        (List.pairwise_insertionSort ..)

def raise {α : Type} (failure : Failure) : Except Failure α := .error failure

/-- A result of Python's own that may be missing. -/
def orRaise {α : Type} (failure : Failure) : Option α → Except Failure α
  | none => .error failure
  | some a => .ok a

/-- `operands`, which is never empty. -/
def operands (ins : Instruction) : List Str :=
  (split ',' ((split '#' ins.operands).headD [])).map strip

def first (op : List Str) : Str := op.headD []

/-- `op[-1]`. -/
def last (op : List Str) : Str := op.getLastD []

def second (op : List Str) : Except Failure Str := orRaise .indexError op[1]?

def registerName (r : Fin 32) : Str := 'x' :: Nat.toDigits 10 r.val

def register (s : Str) : Except Failure (Fin 32) :=
  orRaise (.unclosed ("unsupported register ".toList ++ s))
    ((List.finRange 32).find? fun r => registerName r = s)

section Integers

variable (python : Interpreter)

def integer (s : Str) : Except Failure Int := orRaise .valueError (toInt python.ints 0 s)

/-- `int(s)`. -/
def decimalInteger (s : Str) : Except Failure Int := orRaise .valueError (toInt python.ints 10 s)

/-- `\d`. -/
def isDecimal (c : Char) : Bool := c.isDigit || (python.ints.decimalBeyondAscii c).isSome

/-- `\d+` and what follows it. -/
def digitRun (text : Str) : Option (Str × Str) :=
  if text.takeWhile (isDecimal python) = [] then none
  else some (text.takeWhile (isDecimal python), text.dropWhile (isDecimal python))

/-- `re.fullmatch(r'(-?\d+)\((x\d+)\)', s)`. -/
def memoryOperand (s : Str) : Option (Str × Str) := do
  let sign := s.takeWhile (· == '-')
  if 1 < sign.length then none
  let (offset, rest) ← digitRun python (s.drop sign.length)
  match rest with
  | '(' :: 'x' :: tail =>
      let (base, rest) ← digitRun python tail
      if rest = [')'] then some (sign ++ offset, 'x' :: base) else none
  | _ => none

end Integers

/-- `m.startswith('c.')`. -/
def isCompressed (m : Str) : Bool := "c.".toList.isPrefixOf m

def savedRegisters : List (Fin 32) := saved.map (Fin.ofNat 32)

def callerRegisters : List (Fin 32) :=
  ([1, 5, 6, 7] ++ List.range' 10 8 ++ List.range' 28 4).map (Fin.ofNat 32)

def setreg (regs : Regs) (r : Fin 32) (value : Value) : Regs :=
  if r = 0 then regs else Function.update regs r value

end AxolotyEmbedded.Interval
