import Mathlib.Data.Rat.Defs
import AxolotyEmbedded.Library.PythonText

/-!
The values that `json.loads` makes, and what Python's operators make of them: `==`, which
takes `True` for `1` and `1` for `1.0`, the truth of a value and `dict.get`.
-/
namespace AxolotyEmbedded

open PythonText

inductive PyFloat where
  | finite (value : ℚ)
  | infinite (negative : Bool)
  | nan
  deriving DecidableEq

/-- The entries of a dictionary are in the order of their first insertion. -/
inductive PyJson where
  | none
  | bool (value : Bool)
  | int (value : Int)
  | float (value : PyFloat)
  | str (value : Str)
  | list (items : List PyJson)
  | dict (entries : List (Str × PyJson))

namespace PyJson

def number? : PyJson → Option PyFloat
  | bool value => some (.finite (if value then 1 else 0))
  | int value => some (.finite value)
  | float value => some value
  | _ => Option.none

mutual

/-- Identity or equality, which members of containers are compared by. All values `NaN` of
a text are one object. -/
def same : PyJson → PyJson → Bool
  | none, other =>
      match other with
      | none => true
      | _ => false
  | bool value, other => other.number? == some (.finite (if value then 1 else 0))
  | int value, other => other.number? == some (.finite value)
  | float value, other => other.number? == some value
  | str value, other =>
      match other with
      | str text => value == text
      | _ => false
  | list items, other =>
      match other with
      | list others => sameItems items others
      | _ => false
  | dict entries, other =>
      match other with
      | dict others => entries.length == others.length && sameEntries entries others
      | _ => false

def sameItems : List PyJson → List PyJson → Bool
  | [], [] => true
  | item :: items, other :: others => same item other && sameItems items others
  | _, _ => false

def sameEntries : List (Str × PyJson) → List (Str × PyJson) → Bool
  | [], _ => true
  | (name, value) :: entries, others =>
      (match others.lookup name with
        | Option.none => false
        | some other => same value other) && sameEntries entries others

end

/-- `value == other`. -/
def equals (value other : PyJson) : Bool :=
  match value.number? with
  | some .nan => false
  | _ => same value other

/-- `bool(value)`. -/
def truth : PyJson → Bool
  | none => false
  | bool value => value
  | int value => value ≠ 0
  | float value => value ≠ .finite 0
  | str value => value ≠ []
  | list items => !items.isEmpty
  | dict entries => !entries.isEmpty

mutual

/-- The names of each dictionary in the value are distinct. -/
def wellFormed : PyJson → Bool
  | list items => wellFormedItems items
  | dict entries => decide (entries.map Prod.fst).Nodup && wellFormedEntries entries
  | _ => true

def wellFormedItems : List PyJson → Bool
  | [] => true
  | item :: items => wellFormed item && wellFormedItems items

def wellFormedEntries : List (Str × PyJson) → Bool
  | [] => true
  | (_, value) :: entries => wellFormed value && wellFormedEntries entries

end

/-- `value[name]` of a dictionary. -/
def get? (value : PyJson) (name : String) : Option PyJson :=
  match value with
  | dict entries => entries.lookup name.toList
  | _ => Option.none

/-- `value.get(name)` of a dictionary. -/
def get (value : PyJson) (name : String) : PyJson := (value.get? name).getD none

def text? : PyJson → Option Str
  | str value => some value
  | _ => Option.none

def list? : PyJson → Option (List PyJson)
  | list items => some items
  | _ => Option.none

def isDict : PyJson → Bool
  | dict _ => true
  | _ => false

def int? : PyJson → Option Int
  | int value => some value
  | _ => Option.none

/-- `value is None`. -/
def isNone : PyJson → Bool
  | none => true
  | _ => false

def isBool : PyJson → Bool
  | bool _ => true
  | _ => false

/-- `value is True`. -/
def isTrue : PyJson → Bool
  | bool value => value
  | _ => false

/-- `value is False`. -/
def isFalse : PyJson → Bool
  | bool value => !value
  | _ => false

/-- `value in (...)` of a tuple of texts. -/
def isIn (value : PyJson) (names : List String) : Bool :=
  names.any fun name => value.equals (str name.toList)

mutual

/-- `json.dumps(value, sort_keys=True) == json.dumps(other, sort_keys=True)`. -/
def dumpsSame : PyJson → PyJson → Bool
  | none, other =>
      match other with
      | none => true
      | _ => false
  | bool value, other =>
      match other with
      | bool flag => value == flag
      | _ => false
  | int value, other =>
      match other with
      | int number => value == number
      | _ => false
  | float value, other =>
      match other with
      | float number => value == number
      | _ => false
  | str value, other =>
      match other with
      | str text => value == text
      | _ => false
  | list items, other =>
      match other with
      | list others => dumpsSameItems items others
      | _ => false
  | dict entries, other =>
      match other with
      | dict others => entries.length == others.length && dumpsSameEntries entries others
      | _ => false

def dumpsSameItems : List PyJson → List PyJson → Bool
  | [], [] => true
  | item :: items, other :: others => dumpsSame item other && dumpsSameItems items others
  | _, _ => false

def dumpsSameEntries : List (Str × PyJson) → List (Str × PyJson) → Bool
  | [], _ => true
  | (name, value) :: entries, others =>
      (match others.lookup name with
        | Option.none => false
        | some other => dumpsSame value other) && dumpsSameEntries entries others

end

/-- The values that a set can hold. -/
def hashable : PyJson → Bool
  | list _ => false
  | dict _ => false
  | _ => true

variable {value other : PyJson} {text : Str}

theorem text?_eq_some : value.text? = some text ↔ value = str text := by
  cases value <;> simp [text?]

theorem same_str : same (str text) value = true ↔ value = str text := by
  cases value with
  | str other => simpa [same] using eq_comm
  | _ => simp [same]

@[simp] theorem equals_str : equals (str text) value = true ↔ value = str text := same_str

theorem same_str_right : same value (str text) = true ↔ value = str text := by
  cases value <;> simp [same, number?]

/-- Only the same text equals a text. -/
@[simp] theorem equals_str_right : equals value (str text) = true ↔ value = str text := by
  rw [← same_str_right]
  unfold equals
  split
  · next nan =>
      cases value with
      | float value => simp [same, number?]
      | _ => simp [number?] at nan
  · rfl

theorem equals_none_right : equals value none = true ↔ value = none := by
  cases value <;> simp [equals, same, number?]
  split <;> simp

end PyJson

/-- A value that `json.loads` makes of a text. -/
structure LoadedJson where
  value : PyJson
  wellFormed : value.wellFormed = true

end AxolotyEmbedded
