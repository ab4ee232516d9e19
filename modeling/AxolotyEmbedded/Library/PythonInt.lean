import Mathlib.Data.List.Infix
import Mathlib.Data.List.TakeWhile
import AxolotyEmbedded.Library.PythonText

/-!
Python's `int` of a text, the formatting of an integer, and `to_bytes`. A number is read
with its blanks, sign, prefix and underscores; a decimal text of more digits than the
interpreter allows is neither read nor written.
-/
namespace AxolotyEmbedded.PythonInt

open PythonText

/-- The digits past ASCII, and how many decimal digits the interpreter allows, any number
of them if that is 0. -/
structure IntTables where
  decimalBeyondAscii : Char → Option (Fin 10)
  digitLimit : Nat

namespace IntTables

variable (tables : IntTables)

/-- Blanks and digits past ASCII become those of ASCII; nothing else is part of a number. -/
def ascii (text : Str) : Str :=
  text.map fun c =>
    if c.toNat < 0x7F then c
    else if isSpace c then ' '
    else ((tables.decimalBeyondAscii c).map fun digit => digit.val.digitChar).getD '?'

def allows (digits : Nat) : Prop := tables.digitLimit = 0 ∨ digits ≤ tables.digitLimit

instance (digits : Nat) : Decidable (tables.allows digits) :=
  inferInstanceAs (Decidable (_ ∨ _))

end IntTables

/-! ## Reading -/

/-- The blanks around an ASCII number. -/
def isAsciiSpace (c : Char) : Bool := c == ' ' || (0x09 ≤ c.toNat && c.toNat ≤ 0x0D)

def digitValue (c : Char) : Option Nat :=
  if '0' ≤ c ∧ c ≤ '9' then some (c.toNat - '0'.toNat)
  else if 'a' ≤ c ∧ c ≤ 'z' then some (c.toNat - 'a'.toNat + 10)
  else if 'A' ≤ c ∧ c ≤ 'Z' then some (c.toNat - 'A'.toNat + 10)
  else none

def isDigit (base : Nat) (c : Char) : Bool := (digitValue c).any fun value => value < base

/-- The base that the second character of a prefix stands for. -/
def markedBase (c : Char) : Option Nat :=
  if c = 'x' ∨ c = 'X' then some 16
  else if c = 'o' ∨ c = 'O' then some 8
  else if c = 'b' ∨ c = 'B' then some 2
  else none

def dropUnderscore : Str → Str
  | '_' :: rest => rest
  | text => text

/-- The base of a number and what follows its prefix; base 0 takes that of the prefix. -/
def baseAndDigits (base : Nat) (text : Str) : Nat × Str :=
  match text with
  | '0' :: c :: rest =>
      match markedBase c with
      | some named => if base = 0 ∨ base = named then (named, dropUnderscore rest)
          else (base, text)
      | none => if base = 0 then (10, text) else (base, text)
  | _ => if base = 0 then (10, text) else (base, text)

/-- The digits before the blanks that end a number, without the underscores, each of which
stands between two of them. -/
def digitsOf (base : Nat) (text : Str) : Option Str :=
  let inNumber := fun c => isDigit base c || c == '_'
  let run := text.takeWhile inNumber
  if run = [] ∨ run.head? = some '_' ∨ run.getLast? = some '_' ∨ contains "__".toList run ∨
      ((text.dropWhile inNumber).any fun c => !isAsciiSpace c) then none
  else some (run.filter fun c => c ≠ '_')

def digitsValue (base : Nat) (digits : Str) : Nat :=
  digits.foldl (fun value c => value * base + (digitValue c).getD 0) 0

/-- A number without blanks before it and without sign. A decimal one of base 0 has no
zero before its digits. -/
def unsigned (tables : IntTables) (base : Nat) (text : Str) : Option Nat :=
  let (radix, body) := baseAndDigits base text
  (digitsOf radix body).bind fun digits =>
    if radix = 10 ∧ ¬tables.allows digits.length then none
    else if base = 0 ∧ radix = 10 ∧ body.head? = some '0' ∧ digitsValue radix digits ≠ 0 then none
    else some (digitsValue radix digits)

/-- `int(text, base)`, none for a `ValueError`. -/
def toInt (tables : IntTables) (base : Nat) (text : Str) : Option Int :=
  match (tables.ascii text).dropWhile isAsciiSpace with
  | '-' :: body => (unsigned tables base body).map fun value => -Int.ofNat value
  | '+' :: body => (unsigned tables base body).map Int.ofNat
  | body => (unsigned tables base body).map Int.ofNat

/-! ## Writing -/

/-- `str(value)`, none for a `ValueError`. -/
def decimal (tables : IntTables) (value : Int) : Option Str :=
  let digits := Nat.toDigits 10 value.natAbs
  if tables.allows digits.length then some (if value < 0 then '-' :: digits else digits) else none

/-- The little-endian digits of a number, none if it has more of them than the size. -/
def bytesOf : Nat → Nat → Option (List UInt8)
  | 0, value => if value = 0 then some [] else none
  | size + 1, value => (bytesOf size (value / 256)).map fun rest => UInt8.ofNat value :: rest

/-- `value.to_bytes(size, "little")`, none for an `OverflowError`. -/
def toBytes (size : Nat) (value : Int) : Option (List UInt8) :=
  if value < 0 then none else bytesOf size value.natAbs

/-! ## Hexadecimal digits -/

variable {tables : IntTables} {digits : Str} {c : Char}

theorem toNat_of_isHex (hex : isHex c = true) : c.toNat < 0x67 := by
  simp only [isHex, Bool.or_eq_true, Bool.and_eq_true, decide_eq_true_eq, Char.le_def,
    UInt32.le_iff_toNat_le] at hex
  have number : c.val.toNat = c.toNat := rfl
  have nine : '9'.val.toNat = 0x39 := rfl
  have small : 'f'.val.toNat = 0x66 := rfl
  have large : 'F'.val.toNat = 0x46 := rfl
  omega

/-- What a digit of base 16 is, and what it is not. -/
structure HexDigit (c : Char) : Prop where
  value : digitValue c = some (hexDigit c)
  small : hexDigit c < 16
  zero : hexDigit c = 0 ↔ c = '0'
  noUnderscore : c ≠ '_'
  noSpace : isAsciiSpace c = false
  noSign : c ≠ '-' ∧ c ≠ '+'
  noMark : markedBase c ≠ some 16

theorem hexDigit_of_isHex (hex : isHex c = true) : HexDigit c := by
  have known : ∀ n : Fin 0x67, isHex (Char.ofNat n) = true →
      digitValue (Char.ofNat n) = some (hexDigit (Char.ofNat n)) ∧ hexDigit (Char.ofNat n) < 16 ∧
      (hexDigit (Char.ofNat n) = 0 ↔ Char.ofNat n = '0') ∧ Char.ofNat n ≠ '_' ∧
      isAsciiSpace (Char.ofNat n) = false ∧ (Char.ofNat n ≠ '-' ∧ Char.ofNat n ≠ '+') ∧
      markedBase (Char.ofNat n) ≠ some 16 := by decide +kernel
  have here := known ⟨c.toNat, toNat_of_isHex hex⟩
  rw [Char.ofNat_toNat] at here
  obtain ⟨value, small, zero, noUnderscore, noSpace, noSign, noMark⟩ := here hex
  exact ⟨value, small, zero, noUnderscore, noSpace, noSign, noMark⟩

theorem ascii_of_isHex (hex : ∀ c ∈ digits, isHex c = true) : tables.ascii digits = digits := by
  refine (List.map_congr_left fun c held => ?_).trans (List.map_id digits)
  have := toNat_of_isHex (hex c held)
  exact if_pos (by omega)

theorem digitsOf_of_isHex (hex : ∀ c ∈ digits, isHex c = true) (some' : digits ≠ []) :
    digitsOf 16 digits = some digits := by
  have inNumber : ∀ c ∈ digits, (isDigit 16 c || c == '_') = true := by
    intro c held
    rw [isDigit, (hexDigit_of_isHex (hex c held)).value, Option.any_some,
      decide_eq_true (hexDigit_of_isHex (hex c held)).small, Bool.true_or]
  have noUnderscore : ∀ c ∈ digits, c ≠ '_' := fun c held =>
    (hexDigit_of_isHex (hex c held)).noUnderscore
  have head : digits.head? ≠ some '_' := fun same => noUnderscore _ (List.mem_of_head? same) rfl
  have last : digits.getLast? ≠ some '_' := fun same => noUnderscore _ (List.mem_of_getLast? same) rfl
  have apart : contains "__".toList digits = false := by
    rw [contains, List.any_eq_false]
    intro tail held starts
    obtain ⟨rest, same⟩ := List.isPrefixOf_iff_prefix.mp starts
    have inside : '_' ∈ tail := same ▸ List.mem_append_left _ List.mem_cons_self
    exact noUnderscore _ (((List.mem_tails _ _).mp held).subset inside) rfl
  rw [digitsOf, List.takeWhile_eq_self_iff.mpr inNumber, List.dropWhile_eq_nil_iff.mpr inNumber]
  rw [if_neg]
  · exact congrArg some (List.filter_eq_self.mpr fun c held => decide_eq_true (noUnderscore c held))
  · rintro (none | first | final | inside | later)
    · exact some' none
    · exact head first
    · exact last final
    · exact absurd inside (by rw [apart]; decide)
    · cases later

theorem baseAndDigits_of_isHex (hex : ∀ c ∈ digits, isHex c = true) :
    baseAndDigits 16 digits = (16, digits) := by
  unfold baseAndDigits
  split
  · next c rest =>
      have noMark := (hexDigit_of_isHex (hex c (by simp))).noMark
      split
      · next named marked =>
          rw [if_neg]
          rintro (zero | rfl)
          · cases zero
          · exact noMark marked
      · exact if_neg (by decide)
  · exact if_neg (by decide)

theorem digitsValue_of_isHex (hex : ∀ c ∈ digits, isHex c = true) :
    digitsValue 16 digits = hexValue digits := by
  refine List.foldl_ext _ _ _ fun value c held => ?_
  rw [(hexDigit_of_isHex (hex c held)).value, Option.getD_some]

/-- The digits of base 16 are read as their number. -/
theorem toInt_of_isHex (hex : ∀ c ∈ digits, isHex c = true) (some' : digits ≠ []) :
    toInt tables 16 digits = some (hexValue digits : Int) := by
  obtain ⟨c, rest, rfl⟩ := List.exists_cons_of_ne_nil some'
  have first := hexDigit_of_isHex (hex c List.mem_cons_self)
  have natural : unsigned tables 16 (c :: rest) = some (hexValue (c :: rest)) := by
    rw [unsigned, baseAndDigits_of_isHex hex]
    dsimp only
    rw [digitsOf_of_isHex hex some', Option.bind_some, if_neg fun decimal => absurd decimal.1 (by decide),
      if_neg fun zero => absurd zero.1 (by decide), digitsValue_of_isHex hex]
  rw [toInt, ascii_of_isHex hex, List.dropWhile_cons_of_neg (by simp [first.noSpace])]
  split
  · next body same => exact absurd (List.cons.inj same).1 first.noSign.1
  · next body same => exact absurd (List.cons.inj same).1 first.noSign.2
  · rw [natural]
    rfl

theorem bytesOf_eq_none {size value : Nat} :
    bytesOf size value = none ↔ Nat.pow 256 size ≤ value := by
  induction size generalizing value with
  | zero =>
      have one : Nat.pow 256 0 = 1 := rfl
      rw [bytesOf, one]
      split
      · simp [*]
      · simp only [true_iff]
        omega
  | succ size ih =>
      have power : Nat.pow 256 (size + 1) = Nat.pow 256 size * 256 := rfl
      rw [bytesOf, Option.map_eq_none_iff, ih, power]
      exact Nat.le_div_iff_mul_le (by decide)

theorem hexValue_cons (c : Char) (rest : Str) :
    hexValue (c :: rest) = hexDigit c * Nat.pow 16 rest.length + hexValue rest := by
  induction rest using List.reverseRecOn with
  | nil => simp [hexValue]
  | append_singleton rest last ih =>
      have power : Nat.pow 16 (rest.length + 1) = Nat.pow 16 rest.length * 16 := rfl
      rw [← List.cons_append, hexValue_append_singleton, hexValue_append_singleton, ih,
        List.length_append, List.length_singleton, power, Nat.add_mul, Nat.mul_assoc, Nat.add_assoc]

theorem hexValue_lt (hex : ∀ c ∈ digits, isHex c = true) :
    hexValue digits < Nat.pow 16 digits.length := by
  induction digits with
  | nil => exact Nat.one_pos
  | cons c rest ih =>
      have later := ih fun d held => hex d (List.mem_cons_of_mem _ held)
      have small := (hexDigit_of_isHex (hex c List.mem_cons_self)).small
      have power : Nat.pow 16 (rest.length + 1) = Nat.pow 16 rest.length * 16 := rfl
      have product : hexDigit c * Nat.pow 16 rest.length ≤ 15 * Nat.pow 16 rest.length :=
        Nat.mul_le_mul_right _ (by omega)
      rw [hexValue_cons, List.length_cons, power]
      omega

/-- Half as many bytes do not hold a number of an odd number of digits with a first one. -/
theorem bytesOf_hexValue_eq_none (hex : ∀ c ∈ digits, isHex c = true) :
    bytesOf (digits.length / 2) (hexValue digits) = none ↔
      digits.length % 2 = 1 ∧ digits.head? ≠ some '0' := by
  have square : ∀ size, Nat.pow 256 size = Nat.pow 16 (2 * size) := fun size =>
    (Nat.pow_mul 16 2 size).symm
  rw [bytesOf_eq_none, square]
  obtain even | odd := Nat.mod_two_eq_zero_or_one digits.length
  · have whole : 2 * (digits.length / 2) = digits.length := by omega
    have below := hexValue_lt hex
    rw [whole]
    constructor
    · intro above
      omega
    · rintro ⟨odd, -⟩
      omega
  · obtain ⟨c, rest, rfl⟩ := List.exists_cons_of_ne_nil (l := digits) (by rintro rfl; cases odd)
    have whole : 2 * ((c :: rest).length / 2) = rest.length := by
      rw [List.length_cons] at odd ⊢
      omega
    have below := hexValue_lt fun d held => hex d (List.mem_cons_of_mem c held)
    have first := hexDigit_of_isHex (hex c List.mem_cons_self)
    rw [whole, hexValue_cons, List.head?_cons, ne_eq, Option.some.injEq, ← first.zero]
    constructor
    · intro above
      refine ⟨odd, fun zero => ?_⟩
      rw [zero, Nat.zero_mul, Nat.zero_add] at above
      omega
    · rintro ⟨-, some'⟩
      have positive : 1 * Nat.pow 16 rest.length ≤ hexDigit c * Nat.pow 16 rest.length :=
        Nat.mul_le_mul_right _ (Nat.pos_of_ne_zero some')
      omega

end AxolotyEmbedded.PythonInt
