import Mathlib.Order.Defs.PartialOrder
import AxolotyEmbedded.FirstInit.Program
import AxolotyEmbedded.Interval.Operands

/-!
`Program.function`, which remembers the functions that it has found and checked, and
`Program.read`. What has been answered for an address is answered again later.
-/
namespace AxolotyEmbedded.Interval

open PythonText PythonInt
open FirstInit (Program Function Instruction Executable)
open LinkedStorage (slice number)

/-- A `Program` with `validated` and `owners`. -/
structure Linked extends Program where
  validated : List Nat
  owners : Dict Int Function

/-- `rom_memcpy`. -/
def romMemcpy : Int := 0x400004ac

namespace Linked

variable (python : Interpreter) (linked : Linked)

/-- A lookup by an address, of which only those from 0 on are keys. -/
def atAddress {α : Type} (dict : Dict Nat α) (address : Int) : Option α :=
  if address < 0 then none else dict.get? address.toNat

def instruction (address : Int) : Option Instruction := atAddress linked.instructions address

/-- `self.functions.get(address) or self.owners.get(address)`. -/
def answer (address : Int) : Option Function :=
  (atAddress linked.functions address).or (linked.owners.get? address)

def allFunctions : List Function := linked.functions.entries.map Prod.snd

/-- The functions with an address inside. -/
def containing (address : Int) : List Function :=
  linked.allFunctions.filter fun f => (f.start : Int) ≤ address ∧ address < f.stop

/-- `min(functions, key=lambda f: f.size)`. -/
def smallest : List Function → Option Function
  | [] => none
  | f :: rest => some (rest.foldl (fun least g => if g.size < least.size then g else least) f)

/-- `int(ins.encoding, 16).to_bytes(size, 'little')`. -/
def encodedBytes (ins : Instruction) (size : Nat) : Except Failure (List UInt8) := do
  let encoding ← orRaise .typeError ins.encoding
  let value ← orRaise .valueError (toInt python.ints 16 encoding)
  orRaise .overflowError (toBytes size value)

/-- The bytes at an address in the executable sections that hold them all. -/
def rawBytes (address size : Nat) : List (List UInt8) :=
  (linked.executable.filter fun range => range.start ≤ address ∧ address + size ≤ range.stop).map
    fun range => slice range.bytes (address - range.start) size

/-- One section holds the bytes that an instruction was decoded from. -/
def isEncodedAt (ins : Instruction) (address size : Nat) : Except Failure Bool :=
  match linked.rawBytes address size with
  | [raw] => do return raw = (← encodedBytes python ins size)
  | _ => return false

def bareFunction (kind : String) (address size : Nat) (instructions : List Instruction) :
    Function where
  name := kind.toList ++ '@' :: hexInt address
  start := address
  size
  instructions
  symbolSizes := ∅
  symbolKinds := ∅

/-- A jump of a vector table that belongs to no function. -/
def vectorAt (address : Nat) : Except Failure (Option Function) :=
  match linked.instructions.get? address with
  | none => return none
  | some ins =>
      if ins.mnemonic = "jal".toList ∧ first (operands ins) = "x0".toList ∧ ins.size = 4 then do
        let encoded ← linked.isEncodedAt python ins address 4
        return if encoded then some (bareFunction "vector" address 4 [ins]) else none
      else return none

/-- The end of the gap between two functions that starts at an address. -/
def gapEnd (address : Nat) : Nat :=
  let starts := (linked.allFunctions.map Function.start).filter (address < ·)
  let ends := (linked.executable.filter fun range => range.start ≤ address ∧ address < range.stop).map
    Executable.stop
  ((starts ++ ends).min?).getD address

def gapBody (address stop : Nat) : List Instruction :=
  ((linked.instructions.keys.filter fun pc => address ≤ pc ∧ pc < stop).insertionSort
    (· ≤ ·)).filterMap linked.instructions.get?

/-- The instructions fill a gap with the bytes that they were decoded from. -/
def checkGap : Nat → List Instruction → Except Failure Nat
  | cursor, [] => return cursor
  | cursor, ins :: rest => do
      if ins.address ≠ cursor then
        raise (.unclosed "truncated anonymous executable gap".toList)
      unless ← linked.isEncodedAt python ins cursor ins.size do
        raise (.unclosed "anonymous helper byte mismatch".toList)
      checkGap (cursor + ins.size) rest

/-- A helper without symbol that starts where a function ends. -/
def anonymousAt (address : Nat) : Except Failure (Option Function) :=
  if address ∈ linked.allFunctions.map Function.stop ∧ address ∈ linked.instructions.keys then do
    let stop := linked.gapEnd address
    let body := linked.gapBody address stop
    let cursor ← linked.checkGap python address body
    if cursor ≠ stop then raise (.unclosed "incomplete anonymous executable gap".toList)
    else return some (bareFunction "anonymous" address (stop - address) body)
  else return none

/-- The function made for an address from 0 on that no function contains. -/
def unownedAt (address : Nat) : Except Failure (Option Function) := do
  match ← linked.vectorAt python address with
  | some fn => return some fn
  | none => linked.anonymousAt python address

def missingBody (address : Int) : Failure := .closedAt "missing STT_FUNC body at " address

def unowned (address : Int) : Except Failure Function :=
  if address < 0 then raise (missingBody address)
  else do orRaise (missingBody address) (← linked.unownedAt python address.toNat)

/-- `function` of an address whose function is known. -/
def own (fn : Function) (address : Int) : Except Failure Linked := do
  if fn.start ∈ linked.validated then
    return { linked with owners := linked.owners.set address fn }
  else
    let (data, syms, _) ← orRaise (.keyError fn.start) (linked.origins.get? fn.start)
    (FirstInit.validateLinkedInputs python.ints python.unicode data syms
      ((∅ : Dict Nat Function).set fn.start fn)).mapError .program
    return { linked with
      validated := fn.start :: linked.validated
      owners := linked.owners.set address fn }

def function (address : Int) : Except Failure (Function × Linked) :=
  match linked.answer address with
  | some fn => do return (fn, ← linked.own python fn address)
  | none =>
      match smallest (linked.containing address) with
      | some fn => do return (fn, ← linked.own python fn address)
      | none => do
          let fn ← linked.unowned python address
          return (fn, { linked with
            functions := linked.functions.set fn.start fn
            validated := fn.start :: linked.validated })

/-- The bytes of a constant, of which one read-only section has all. -/
def read (address : Int) (size : Nat) : Value :=
  let held := linked.sections.filter fun part =>
    part.readOnly ∧ (part.address : Int) ≤ address ∧
      address + size ≤ part.address + part.bytes.length
  match held with
  | [part] => const (number true (slice part.bytes (address.toNat - part.address) size))
  | _ => none

/-! ## Later answers -/

/-- Answers and checks are kept, and the image does not change. -/
structure Grows (earlier later : Linked) : Prop where
  instructions : earlier.instructions = later.instructions
  sections : earlier.sections = later.sections
  answers : ∀ address fn, earlier.answer address = some fn → later.answer address = some fn
  validated : earlier.validated ⊆ later.validated

instance : Preorder Linked where
  le := Grows
  le_refl linked := ⟨rfl, rfl, fun _ _ known => known, List.Subset.refl _⟩
  le_trans _ _ _ first second :=
    ⟨first.instructions.trans second.instructions, first.sections.trans second.sections,
      fun address fn known => second.answers address fn (first.answers address fn known),
      List.Subset.trans first.validated second.validated⟩

variable {python linked} {later : Linked} {fn : Function} {address : Int}

theorem answer_remember {checked : List Nat}
    (only : ∀ other, linked.answer address = some other → other = fn) :
    { linked with validated := checked, owners := linked.owners.set address fn : Linked }.answer
      address = some fn := by
  cases held : atAddress linked.functions address with
  | none => simp [answer, held]
  | some other =>
      have same := only other (by simp [answer, held])
      simp [answer, held, same]

/-- Remembering the answer for an address. -/
theorem le_remember {checked : List Nat} (wider : linked.validated ⊆ checked)
    (only : ∀ other, linked.answer address = some other → other = fn) :
    linked ≤ { linked with validated := checked, owners := linked.owners.set address fn } := by
  refine ⟨rfl, rfl, fun place other known => ?_, wider⟩
  by_cases here : place = address
  · subst here
    rw [only other known]
    exact answer_remember only
  · simpa [answer, here] using known

theorem le_of_own (owned : linked.own python fn address = .ok later)
    (only : ∀ other, linked.answer address = some other → other = fn) :
    linked ≤ later ∧ later.answer address = some fn ∧ fn.start ∈ later.validated := by
  rw [own] at owned
  split at owned
  · next checked =>
      cases owned
      exact ⟨le_remember (List.Subset.refl _) only, answer_remember only, checked⟩
  · obtain ⟨origin, _, rest⟩ := Checked.bind_eq_ok.mp owned
    obtain ⟨_, _, done⟩ := Checked.bind_eq_ok.mp rest
    cases done
    exact ⟨le_remember (List.subset_cons_self _ _) only, answer_remember only,
      List.mem_cons_self⟩

theorem function_of_answer (known : linked.answer address = some fn)
    (checked : fn.start ∈ linked.validated) :
    linked.function python address =
      .ok (fn, { linked with owners := linked.owners.set address fn }) := by
  simp only [function, known, own, if_pos checked]
  rfl

theorem vectorAt_start {place : Nat} (made : linked.vectorAt python place = .ok (some fn)) :
    fn.start = place := by
  rw [vectorAt] at made
  split at made
  · cases made
  · split at made
    · obtain ⟨encoded, _, done⟩ := Checked.bind_eq_ok.mp made
      cases encoded with
      | false => cases done
      | true =>
          cases done
          rfl
    · cases made

theorem anonymousAt_start {place : Nat} (made : linked.anonymousAt python place = .ok (some fn)) :
    fn.start = place := by
  rw [anonymousAt] at made
  split at made
  · obtain ⟨cursor, _, done⟩ := Checked.bind_eq_ok.mp made
    split at done
    · cases done
    · cases done
      rfl
  · cases made

theorem unownedAt_start {place : Nat} (made : linked.unownedAt python place = .ok (some fn)) :
    fn.start = place := by
  obtain ⟨vector, found, rest⟩ := Checked.bind_eq_ok.mp made
  cases vector with
  | none => exact anonymousAt_start rest
  | some other =>
      cases rest
      exact vectorAt_start found

theorem unowned_start (made : linked.unowned python address = .ok fn) :
    0 ≤ address ∧ fn.start = address.toNat := by
  rw [unowned] at made
  split at made
  · cases made
  · next natural =>
      obtain ⟨answer, found, rest⟩ := Checked.bind_eq_ok.mp made
      cases answer with
      | none => cases rest
      | some other =>
          cases rest
          exact ⟨Int.not_lt.mp natural, unownedAt_start found⟩

/-- A function that was made answers for its own address. -/
theorem le_made (unknown : linked.answer address = none) (natural : 0 ≤ address)
    (start : fn.start = address.toNat) {checked : List Nat} (wider : linked.validated ⊆ checked) :
    linked ≤ { linked with functions := linked.functions.set fn.start fn, validated := checked } ∧
      { linked with functions := linked.functions.set fn.start fn, validated := checked : Linked
        }.answer address = some fn := by
  constructor
  · refine ⟨rfl, rfl, fun place other known => ?_, wider⟩
    have apart : place ≠ address := by
      intro same
      rw [same, unknown] at known
      cases known
    rw [answer, atAddress] at known ⊢
    by_cases negative : place < 0
    · rwa [if_pos negative] at known ⊢
    · rw [if_neg negative] at known ⊢
      rwa [Dict.get?_set, if_neg (by omega)]
  · simp [answer, atAddress, start, Int.not_lt.mpr natural]

/-- `function` answers as before once it has answered. -/
theorem function_replays {found : Linked}
    (answered : linked.function python address = .ok (fn, found)) :
    linked ≤ found ∧ ∀ later, found ≤ later →
      ∃ last, later.function python address = .ok (fn, last) ∧ later ≤ last := by
  have step : linked ≤ found ∧ found.answer address = some fn ∧ fn.start ∈ found.validated := by
    rw [function] at answered
    split at answered
    · next known =>
        obtain ⟨last, owned, done⟩ := Checked.bind_eq_ok.mp answered
        cases done
        exact le_of_own owned fun other same => Option.some.inj (same.symm.trans known)
    · next unknown =>
        split at answered
        · obtain ⟨last, owned, done⟩ := Checked.bind_eq_ok.mp answered
          cases done
          apply le_of_own owned
          intro other same
          rw [unknown] at same
          cases same
        · obtain ⟨made, found, done⟩ := Checked.bind_eq_ok.mp answered
          cases done
          obtain ⟨natural, start⟩ := unowned_start found
          have grown := le_made unknown natural start (List.subset_cons_self fn.start _)
          exact ⟨grown.1, grown.2, List.mem_cons_self⟩
  refine ⟨step.1, fun later grown => ?_⟩
  have known := grown.answers address fn step.2.1
  refine ⟨_, function_of_answer known (grown.validated step.2.2), ?_⟩
  apply le_remember (List.Subset.refl _)
  intro other same
  exact Option.some.inj (same.symm.trans known)

end Linked
end AxolotyEmbedded.Interval
