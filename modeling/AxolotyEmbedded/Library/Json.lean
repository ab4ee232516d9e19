import Mathlib.Data.List.Basic
import AxolotyEmbedded.Library.Binary64

/-!
JSON values and their text. A text is a list of UTF-16 code units, and the members of
an object keep the order of the text; a name that is repeated means its last member.
How a number is represented is a parameter of the values.
-/
namespace AxolotyEmbedded

abbrev Text := List UInt16

abbrev unit (c : Char) : UInt16 := UInt16.ofNat c.toNat

/-- A literal of the source, of characters that are one code unit each. -/
def text (s : String) : Text := s.toList.map unit

inductive Json (ν : Type) where
  | null
  | bool (value : Bool)
  | num (value : ν)
  | str (value : Text)
  | arr (items : List (Json ν))
  | obj (members : List (Text × Json ν))

/-- A number as it is written: an integer, or `mantissa * 10 ^ exponent`. -/
inductive Numeral where
  | integer (value : ℤ)
  | decimal (mantissa exponent : ℤ)
  deriving DecidableEq

namespace Numeral

def value : Numeral → ℚ
  | .integer value => value
  | .decimal mantissa exponent => mantissa * (10 : ℚ) ^ exponent

def toBinary64 (numeral : Numeral) : Binary64 := Binary64.nearest numeral.value

end Numeral

namespace Text

def isHigh (u : UInt16) : Bool := 0xD800 ≤ u ∧ u ≤ 0xDBFF

def isLow (u : UInt16) : Bool := 0xDC00 ≤ u ∧ u ≤ 0xDFFF

/-- The code points of a text, with `U+FFFD` for a surrogate without its partner. -/
def scalars : Text → List Nat
  | [] => []
  | [u] => [if isHigh u || isLow u then 0xFFFD else u.toNat]
  | u :: v :: rest =>
    if isHigh u && isLow v then
      (0x10000 + (u.toNat - 0xD800) * 0x400 + (v.toNat - 0xDC00)) :: scalars rest
    else
      (if isHigh u || isLow u then 0xFFFD else u.toNat) :: scalars (v :: rest)

def utf8Scalar (c : Nat) : List (BitVec 8) :=
  if c < 0x80 then [BitVec.ofNat 8 c]
  else if c < 0x800 then
    [BitVec.ofNat 8 (0xC0 + c / 0x40), BitVec.ofNat 8 (0x80 + c % 0x40)]
  else if c < 0x10000 then
    [BitVec.ofNat 8 (0xE0 + c / 0x1000), BitVec.ofNat 8 (0x80 + c / 0x40 % 0x40),
      BitVec.ofNat 8 (0x80 + c % 0x40)]
  else
    [BitVec.ofNat 8 (0xF0 + c / 0x40000), BitVec.ofNat 8 (0x80 + c / 0x1000 % 0x40),
      BitVec.ofNat 8 (0x80 + c / 0x40 % 0x40), BitVec.ofNat 8 (0x80 + c % 0x40)]

/-- The bytes of a text in UTF-8. -/
def utf8 (t : Text) : List (BitVec 8) := (scalars t).flatMap utf8Scalar

def Ascii (t : Text) : Prop := ∀ u ∈ t, u.toNat < 0x80

instance (t : Text) : Decidable (Ascii t) := List.decidableBAll _ t

theorem scalars_ascii {t : Text} (ascii : Ascii t) : scalars t = t.map UInt16.toNat := by
  have plain : ∀ u ∈ t, isHigh u = false ∧ isLow u = false := by
    intro u member
    have small := ascii u member
    simp only [isHigh, isLow, UInt16.le_iff_toNat_le, decide_eq_false_iff_not]
    constructor
    · intro surrogate
      have bound : 0xD800 ≤ u.toNat := surrogate.1
      omega
    · intro surrogate
      have bound : 0xDC00 ≤ u.toNat := surrogate.1
      omega
  clear ascii
  fun_induction scalars t with
  | case1 => rfl
  | case2 u => simp [plain u]
  | case3 u v rest pair ih => simp [plain u] at pair
  | case4 u v rest pair ih =>
      rw [ih fun w member => plain w (List.mem_cons_of_mem u member)]
      simp [plain u]

/-- The bytes of an ASCII text are its code units. -/
theorem utf8_ascii {t : Text} (ascii : Ascii t) :
    utf8 t = t.map fun u => BitVec.ofNat 8 u.toNat := by
  rw [utf8, scalars_ascii ascii, List.flatMap_map, ← List.flatMap_pure_eq_map]
  apply List.flatMap_congr
  intro u member
  simp [utf8Scalar, ascii u member]

end Text

namespace Json

variable {ν : Type}

/-- What a property read gives: nothing for a missing name or a value that is no object. -/
def field (name : Text) : Json ν → Option (Json ν)
  | .obj members => members.reverse.lookup name
  | _ => none

def isObject : Json ν → Bool
  | .obj _ => true
  | _ => false

end Json
end AxolotyEmbedded
