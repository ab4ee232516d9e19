import Mathlib.Data.Finset.Prod
import Mathlib.Data.Int.Bitwise
import AxolotyEmbedded.Library.PythonText

/-!
The abstract values of the initialization interval: sets of integers or `TOP`, what the
accepted instructions compute of them, and what the outcome of a branch leaves of them.
-/
namespace AxolotyEmbedded.Interval

open PythonText

/-- A frozenset of integers, none for `TOP`. -/
abbrev Value := Option (Finset Int)

/-- `STACK`. -/
def stackBase : Int := 2 ^ 48

/-- `RETURN`. -/
def returnToken : Int := -(2 ^ 48)

/-- `SAVED`. -/
def saved : List Nat := [8, 9] ++ List.range' 18 10

def const (n : Int) : Value := some {n}

def union : Value → Value → Value
  | some a, some b => if (a ∪ b).card ≤ 32 then some (a ∪ b) else none
  | _, _ => none

/-- `n & 0xffffffff`. -/
def low (n : Int) : Int := n % 2 ^ 32

def signed (n : Int) : Int := if low n < 0x80000000 then low n else low n - 0x100000000

/-- Integers the analysis takes for symbols and not for words. -/
def IsLarge (x : Int) : Prop := 2 ^ 32 ≤ x.natAbs

instance decidableIsLarge (x : Int) : Decidable (IsLarge x) := inferInstanceAs (Decidable (_ ≤ _))

/-- What `operation` makes of two members. -/
def combine (operation : Int → Int → Int) (x y : Int) : Int :=
  if IsLarge x ∨ IsLarge y then operation x y else low (operation x y)

def arithmetic (a b : Value) (operation : Int → Int → Int) : Value :=
  match a, b with
  | some a, some b =>
      if ∃ x ∈ a ∪ b, x < -(2 ^ 32) then none
      else
        let values := (a ×ˢ b).image fun pair => combine operation pair.1 pair.2
        if values.card ≤ 32 then some values else none
  | _, _ => none

/-! ## Operations -/

/-- The functions that `analyze` passes to `binary`. -/
inductive Operation where
  | add
  | sub
  | and
  | or
  | xor
  | shiftLeft
  | shiftRight
  | less
  | lessUnsigned
  deriving DecidableEq

/-- A shift is by an amount that is not negative. -/
def Operation.apply : Operation → Int → Int → Int
  | .add, a, b => a + b
  | .sub, a, b => a - b
  | .and, a, b => a.land b
  | .or, a, b => a.lor b
  | .xor, a, b => a.xor b
  | .shiftLeft, a, b => a <<< b.toNat
  | .shiftRight, a, b => low a >>> b.toNat
  | .less, a, b => if signed a < signed b then 1 else 0
  | .lessUnsigned, a, b => if low a < low b then 1 else 0

def texts (words : String) : List Str := split ' ' words.toList

/-- The operation of a mnemonic, and whether its second operand is an immediate. -/
def operationOf (m : Str) : Option (Operation × Bool) :=
  if m ∈ texts "addi c.addi c.addi16sp c.addi4spn" then some (.add, true)
  else if m ∈ texts "add c.add" then some (.add, false)
  else if m ∈ texts "sub c.sub" then some (.sub, false)
  else if m ∈ texts "slli c.slli" then some (.shiftLeft, true)
  else if m ∈ texts "srli c.srli" then some (.shiftRight, true)
  else if m ∈ texts "xori ori" then some (if m = "xori".toList then .xor else .or, true)
  else if m ∈ texts "or c.or" then some (.or, false)
  else if m ∈ texts "and c.and" then some (.and, false)
  else if m ∈ texts "xor c.xor" then some (.xor, false)
  else if m ∈ texts "sltiu slti sltu slt" then
    some (if m.getLast? = some 'u' then .lessUnsigned else .less, "slti".toList.isPrefixOf m)
  else none

/-- Of a mask under 32 the results for an unknown operand are listed. -/
def andImmediate (left : Value) (mask : Int) : Value :=
  if left = none ∧ 0 ≤ mask ∧ mask ≤ 31 then
    some (((Finset.range (mask.toNat + 1)).image Int.ofNat).filter fun n => n.land mask = n)
  else arithmetic left (const mask) Operation.and.apply

/-! ## Loads -/

/-- `LOADS`. -/
def loadSize (m : Str) : Option Nat :=
  if m ∈ texts "lb lbu" then some 1
  else if m ∈ texts "lh lhu" then some 2
  else if m ∈ texts "lw c.lw c.lwsp" then some 4
  else none

/-- The sign of a loaded value that is narrower than a word. -/
def extend (m : Str) (size : Nat) (value : Value) : Value :=
  if m ∈ texts "lb lh" then
    value.map fun values => values.image fun v =>
      low (if v < 2 ^ (size * 8 - 1) then v else v - 2 ^ (size * 8))
  else value

/-! ## Register writes -/

/-- What an instruction writes to its register, from the values it has read. `unknown` are
the instructions whose results are not followed. -/
inductive Transfer where
  | binary (m : Str) (left right : Value)
  | andi (left : Value) (mask : Int)
  | load (m : Str) (loaded : Value)
  | lui (immediate : Int)
  | auipc (pc immediate : Int)
  | li (immediate : Int)
  | mv (value : Value)
  | unknown

def Transfer.value : Transfer → Value
  | .binary m left right =>
      match operationOf m with
      | some (op, _) => arithmetic left right op.apply
      | none => none
  | .andi left mask => andImmediate left mask
  | .load m loaded =>
      match loadSize m with
      | some size => extend m size loaded
      | none => none
  | .lui immediate => const (immediate <<< (12 : Nat))
  | .auipc pc immediate => const (low (pc + immediate <<< (12 : Nat)))
  | .li immediate => const (low immediate)
  | .mv value => value
  | .unknown => none

/-! ## Branches -/

/-- `BRANCHES` that compare a register with zero. -/
def zeroBranches : List Str := texts "c.beqz c.bnez"

/-- `BRANCHES` that compare two registers. -/
def pairBranches : List Str := texts "beq bne blt bge bltu bgeu"

/-- What is left of a value on an edge, none if no member takes it. `atTarget` says whether
the edge ends at the address of the target. -/
def refineZero (m : Str) (atTarget : Bool) (value : Value) : Option Value :=
  let equal := atTarget == (m == "c.beqz".toList)
  match value with
  | none => some none
  | some values =>
      if ∀ x ∈ values, -(2 ^ 32) ≤ x then
        let filtered := values.filter fun x => (x == 0) == equal
        if filtered = ∅ then none else some (some filtered)
      else some (some values)

/-- The comparison that decides a branch of two registers. -/
def compares (m : Str) (x y : Int) : Bool :=
  if m ∈ texts "beq bne" then low x == low y
  else if m.getLast? = some 'u' then low x < low y
  else signed x < signed y

def IsWord (x : Int) : Prop := -(2 ^ 32) ≤ x ∧ x < 2 ^ 32

instance decidableIsWord (x : Int) : Decidable (IsWord x) := inferInstanceAs (Decidable (_ ∧ _))

def onlyMember : List Int → Option Int
  | [x] => some x
  | _ => none

theorem onlyMember_perm {first second : List Int} (same : first.Perm second) :
    onlyMember first = onlyMember second := by
  match first, second, same with
  | [], second, same => rw [List.nil_perm.mp same]
  | [x], second, same => rw [List.singleton_perm.mp same]
  | _ :: _ :: _, [], same => cases List.perm_nil.mp same
  | _ :: _ :: _, [y], same => cases List.perm_singleton.mp same
  | _ :: _ :: _, _ :: _ :: _, _ => rfl

/-- The member of a set that has one. -/
def single (values : Finset Int) : Option Int :=
  Quotient.liftOn values.val onlyMember fun _ _ same => onlyMember_perm same

theorem single_eq_some {values : Finset Int} {x : Int} :
    single values = some x ↔ values = {x} := by
  cases values with
  | mk members nodup =>
      induction members using Quotient.inductionOn with
      | h list =>
          rw [← Finset.val_inj]
          change onlyMember list = some x ↔ (list : Multiset Int) = {x}
          rw [← Multiset.coe_singleton, Multiset.coe_eq_coe, List.perm_singleton]
          match list with
          | [] => simp [onlyMember]
          | [y] => simp [onlyMember]
          | _ :: _ :: _ => simp [onlyMember]

/-- The two registers of a comparison on an edge. -/
def refinePair (m : Str) (atTarget : Bool) (left right : Value) : Option (Value × Value) :=
  let less := atTarget == decide (m ∈ texts "beq blt bltu")
  match left, right with
  | some a, some b =>
      if ∀ x ∈ a ∪ b, IsWord x then
        let pairs := (a ×ˢ b).filter fun pair => compares m pair.1 pair.2 == less
        if pairs = ∅ then none else some (some (pairs.image Prod.fst), some (pairs.image Prod.snd))
      else some (left, right)
  | some a, none =>
      match single a with
      | some limit =>
          if m ∈ texts "bltu bgeu" ∧ less = false ∧ 0 ≤ limit ∧ limit ≤ 31 then
            some (left, some ((Finset.range (limit.toNat + 1)).image Int.ofNat))
          else some (left, right)
      | none => some (left, right)
  | none, _ => some (left, right)

end AxolotyEmbedded.Interval
