import AxolotyEmbedded.Library.Checked
import AxolotyEmbedded.Library.PythonJson

/-!
What the checks of a release manifest make of the values of JSON files: their texts, the
patterns of checksums and revisions, sets of values, and the violations that are reported. A
violation is its format with the values that are put into it.
-/
namespace AxolotyEmbedded.Release

open PythonText Checked

/-- An exception by its class. `main` reports a `ValueError` and is left by the others. -/
inductive Raised where
  | value
  | type
  | attribute
  | key
  deriving DecidableEq

structure Problem where
  format : String
  arguments : List PyJson

def check (condition : Bool) (problem : Problem) : List Problem :=
  if condition then [] else [problem]

@[simp] theorem check_eq_nil {condition : Bool} {problem : Problem} :
    check condition problem = [] ↔ condition = true := by
  cases condition <;> simp [check]

/-! ## Texts of values -/

/-- The texts of Python that are not spelled out here: of floats, lists and dictionaries, and
the decimal digits beyond ASCII. -/
structure PythonTables where
  reprOf : PyJson → Str
  digitBeyondAscii : Char → Bool

def PythonTables.str (tables : PythonTables) : PyJson → Str
  | .str text => text
  | .none => "None".toList
  | .bool value => if value then "True".toList else "False".toList
  | .int (.ofNat value) => Nat.toDigits 10 value
  | .int (.negSucc value) => '-' :: Nat.toDigits 10 (value + 1)
  | value => tables.reprOf value

def PythonTables.strOf (tables : PythonTables) (value : PyJson) (name : String) : Str :=
  match value.get? name with
  | none => []
  | some field => tables.str field

def PythonTables.isDigit (tables : PythonTables) (c : Char) : Bool :=
  c.isDigit || tables.digitBeyondAscii c

def isLowerHex (c : Char) : Bool := c.isDigit || ('a' ≤ c && c ≤ 'f')

def isHexText (width : Nat) (text : Str) : Bool := text.length == width && text.all isLowerHex

def isNonemptyString : PyJson → Bool
  | .str text => strip text ≠ []
  | _ => false

/-! ## Sets and dictionaries -/

/-- `value in {...}`, which asks for the hash of the value first. -/
def inSet (value : PyJson) (members : List PyJson) : Except Raised Bool := do
  refuseIf (value.hashable = false) .type
  return members.any fun member => value.same member

def texts (names : List String) : List PyJson := names.map fun name => .str name.toList

/-- `value.get(name)`, which only dictionaries have. -/
def getField (value : PyJson) (name : String) : Except Raised PyJson := do
  refuseIf (value.isDict = false) .attribute
  return value.get name

def dictOrEmpty (value : PyJson) : PyJson := if value.isDict then value else .dict []

/-- `set(value) == {...}` of a dictionary. -/
def hasExactly (value : PyJson) (names : List String) : Bool :=
  match value with
  | .dict entries =>
      (entries.all fun entry => names.any fun name => name.toList == entry.1) &&
        names.all fun name => (value.get? name).isSome
  | _ => false

def hasOnly (value : PyJson) (names : List String) : Bool :=
  match value with
  | .dict entries => entries.all fun entry => names.any fun name => name.toList == entry.1
  | _ => false

end AxolotyEmbedded.Release
