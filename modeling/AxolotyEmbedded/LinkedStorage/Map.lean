import AxolotyEmbedded.Library.Checked
import AxolotyEmbedded.Library.PythonText
import AxolotyEmbedded.Library.Ranges

/-!
`parse_map` of the linked storage audit: the rows of a GNU ld map. Each pattern of the
source is a function on a line; where a repeated class meets a character outside it there
is one way to match, so no function backtracks except where its comment says how.
-/
namespace AxolotyEmbedded.LinkedStorage

open PythonText Checked

/-- An input cannot support the requested measurement. -/
structure AuditError where
  message : Str
  deriving DecidableEq

structure MapInput where
  inputSection : Str
  address : Nat
  size : Nat
  owner : Str
  deriving DecidableEq

def MapInput.range (item : MapInput) : Ranges.Range := (item.address, item.address + item.size)

structure MapOutput where
  name : Str
  address : Nat
  size : Nat
  inputs : List MapInput

/-! ## The patterns of a line -/

/-- `\s+`: what follows the blanks. -/
def afterBlanks : Str → Option Str
  | c :: line => if isSpace c then some (line.dropWhile isSpace) else none
  | [] => none

/-- `0x([0-9a-fA-F]+)`: the number and what follows. -/
def hexNumber : Str → Option (Nat × Str)
  | '0' :: 'x' :: line =>
      if (line.takeWhile isHex).isEmpty then none
      else some (hexValue (line.takeWhile isHex), line.dropWhile isHex)
  | _ => none

/-- `(\.[^\s]+)`: the name and what follows. -/
def sectionName : Str → Option (Str × Str)
  | '.' :: line =>
      if (line.takeWhile fun c => !isSpace c).isEmpty then none
      else some ('.' :: line.takeWhile fun c => !isSpace c, line.dropWhile fun c => !isSpace c)
  | _ => none

/-- `\s+0x([0-9a-fA-F]+)\s+0x([0-9a-fA-F]+)`: address, size and what follows. -/
def addressSize (line : Str) : Option (Nat × Nat × Str) := do
  let (address, line) ← hexNumber (← afterBlanks line)
  let (size, line) ← hexNumber (← afterBlanks line)
  return (address, size, line)

/-- `\s+(.+?)\s*$`: the rest without its last blanks. Where nothing but two or more blanks
is left, the first part gives one back and the owner is the last blank. -/
def owner (line : Str) : Option Str :=
  match line.takeWhile isSpace, line.dropWhile isSpace with
  | [], _ => none
  | [_], [] => none
  | _ :: c :: blanks, [] => some [(c :: blanks).getLast (List.cons_ne_nil c blanks)]
  | _ :: _, c :: word => some ((c :: word).reverse.dropWhile isSpace).reverse

/-- `OUT_CONTINUATION`. -/
def outContinuation (line : Str) : Option (Nat × Nat) := do
  let (address, size, line) ← addressSize line
  if line.all isSpace then return (address, size) else none

/-- The lazy head of `OUT_SECTION` grows by one character until the rest is a range. -/
def outSectionFrom (head : Str) : Str → Option (Str × Nat × Nat)
  | [] => none
  | c :: line =>
      match outContinuation (c :: line) with
      | some (address, size) => some (head.reverse, address, size)
      | none => outSectionFrom (c :: head) line

/-- `OUT_SECTION`. -/
def outSection : Str → Option (Str × Nat × Nat)
  | c :: line => if isSpace c then none else outSectionFrom [c] line
  | [] => none

/-- `OUT_NAME_ONLY`. -/
def outNameOnly (line : Str) : Option Str := do
  let (name, line) ← sectionName line
  if line.all isSpace then return name else none

/-- `INPUT_CONTINUATION`. -/
def inputContinuation (line : Str) : Option (Nat × Nat × Str) := do
  let (address, size, line) ← addressSize line
  return (address, size, ← owner line)

/-- `INPUT`. -/
def input (line : Str) : Option MapInput := do
  let (name, line) ← sectionName (← afterBlanks line)
  let (address, size, owner) ← inputContinuation line
  return ⟨name, address, size, owner⟩

/-- `INPUT_NAME_ONLY`. -/
def inputNameOnly (line : Str) : Option Str := do
  outNameOnly (← afterBlanks line)

def fillName : Str := "*fill*".toList

/-- `FILL`. -/
def fill (line : Str) : Option (Nat × Nat) := do
  let line ← afterBlanks line
  if fillName.isPrefixOf line then outContinuation (line.drop fillName.length) else none

/-! ## The lines of a map -/

/-- `current` is the last of the contributions, unless a name without a range ended it. -/
structure MapState where
  earlier : List MapOutput
  current : Option MapOutput
  pendingInput : Option Str
  pendingOutput : Option Str
  foundIdentity : Bool

namespace MapState

def start : MapState := ⟨[], none, none, none, false⟩

def contributions (state : MapState) : List MapOutput := state.earlier ++ state.current.toList

/-- `current = None`. -/
def leave (state : MapState) : MapState :=
  { state with earlier := state.contributions, current := none }

def enter (state : MapState) (name : Str) (address size : Nat) : MapState :=
  { state.leave with current := some ⟨name, address, size, []⟩ }

/-- `current["inputs"].append(item)`. -/
def append (state : MapState) (item : MapInput) : MapState :=
  { state with
    current := state.current.map fun output => { output with inputs := output.inputs ++ [item] } }

/-- An input row, which may be one of the object. -/
def appendInput (state : MapState) (identity : Str) (item : MapInput) : MapState :=
  { state.append item with
    foundIdentity := state.foundIdentity || item.owner == identity }

end MapState

variable (identity : Str) (number : Nat) (line : Str)

/-- An input row, the first line of one, or padding; any other line is passed over. -/
def parseRow (state : MapState) : MapState :=
  match input line with
  | some item => state.appendInput identity item
  | none =>
      match inputNameOnly line with
      | some name => { state with pendingInput := some name }
      | none =>
          match fill line with
          | some (address, size) =>
              state.append ⟨fillName, address, size, "linker padding".toList⟩
          | none => state

/-- A line within an output whose name starts with a dot. -/
def parseInput (state : MapState) : Except AuditError MapState :=
  match state.pendingInput with
  | some name =>
      match inputContinuation line with
      | some (address, size, owner) =>
          .ok { state.appendInput identity ⟨name, address, size, owner⟩ with pendingInput := none }
      | none =>
          .error ⟨("unsupported or incomplete multiline map input at line " ++
            toString number).toList⟩
  | none => .ok (parseRow identity line state)

/-- A line that continues no output: a name alone, or a line of the current output. -/
def parseInside (state : MapState) : Except AuditError MapState :=
  match outNameOnly line with
  | some name => .ok { state.leave with pendingOutput := some name }
  | none =>
      if state.current.any fun output => output.name.head? == some '.' then
        parseInput identity number line state
      else .ok state

/-- A header does not clear `pending_output`: the next range alone still opens an output
of that name. -/
def parseLine (state : MapState) : Except AuditError MapState :=
  match outSection line with
  | some (name, address, size) =>
      if state.pendingInput.isSome then
        .error ⟨("incomplete multiline map input record before line " ++ toString number).toList⟩
      else .ok (state.enter name address size)
  | none =>
      match state.pendingOutput with
      | some name =>
          match outContinuation line with
          | some (address, size) =>
              .ok { state.enter name address size with pendingOutput := none }
          | none => parseInside identity number line { state.leave with pendingOutput := none }
      | none => parseInside identity number line state

def parseLines : Nat → List Str → MapState → Except AuditError MapState
  | _, [], state => .ok state
  | number, line :: lines, state => do
      parseLines (number + 1) lines (← parseLine identity number line state)

def parseMap (text : Str) : Except AuditError (List MapOutput) := do
  let state ← parseLines identity 1 (splitLines text) .start
  refuseIf state.pendingInput.isSome
    ⟨"incomplete multiline map input at end of file".toList⟩
  refuseIf state.pendingOutput.isSome
    ⟨"incomplete multiline output section at end of file".toList⟩
  refuseIf (state.foundIdentity = false)
    ⟨"combined object not found in writable map contributions: ".toList ++ identity⟩
  return state.contributions

/-! ## The outputs of a state -/

namespace MapState

variable {state : MapState}

@[simp] theorem contributions_leave : state.leave.contributions = state.contributions := by
  simp [leave, contributions]

@[simp] theorem contributions_enter {name : Str} {address size : Nat} :
    (state.enter name address size).contributions =
      state.contributions ++ [⟨name, address, size, []⟩] := by
  simp [enter, leave, contributions]

end MapState

end AxolotyEmbedded.LinkedStorage
