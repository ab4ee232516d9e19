import AxolotyEmbedded.Bytes
import AxolotyEmbedded.Library.JsonParse

/-!
The bounded report writer of the carrier scenario: one JSON object built in storage of
the caller. Each append checks its room and reserves the terminator, and the first one
that fails makes every later one fail.
-/
namespace AxolotyEmbedded.Zenoh

/-- A byte string that ends at its terminator. -/
structure CString where
  bytes : List UInt8
  terminated : 0 ∉ bytes

structure ReportSink where
  buffer : Option Memory
  capacity : Nat
  length : Nat
  overflowed : Bool
  first : Bool

namespace ReportSink

/-- `first && next`: the second append is made when the first one succeeded. -/
def andThen (appended : Bool × ReportSink) (next : ReportSink → Bool × ReportSink) :
    Bool × ReportSink :=
  if appended.1 then next appended.2 else appended

variable (sink : ReportSink)

def appendChar (value : UInt8) : Bool × ReportSink :=
  if sink.overflowed then (false, sink)
  else if sink.capacity ≤ sink.length + 1 then (false, { sink with overflowed := true })
  else (true, { sink with
    buffer := sink.buffer.map fun memory => Function.update memory sink.length value
    length := sink.length + 1 })

def appendText : List UInt8 → ReportSink → Bool × ReportSink
  | [], sink => (true, sink)
  | value :: text, sink => andThen (sink.appendChar value) (appendText text)

def appendEscaped : List UInt8 → ReportSink → Bool × ReportSink
  | [], sink => (true, sink)
  | value :: text, sink =>
      if value < 0x20 then (false, { sink with overflowed := true })
      else
        andThen (if value = 0x22 ∨ value = 0x5C then sink.appendChar 0x5C else (true, sink))
          fun sink => andThen (sink.appendChar value) (appendEscaped text)

/-- The digits of a value, the last one first, while there is room for them. -/
def digits : Nat → Nat → List UInt8
  | 0, _ => []
  | room + 1, value =>
      UInt8.ofNat (0x30 + value % 10) :: if value / 10 = 0 then [] else digits room (value / 10)

def appendUnsigned (value : BitVec 32) : Bool × ReportSink :=
  appendText (digits 10 value.toNat).reverse sink

def separator : Bool × ReportSink :=
  andThen (if sink.first then (true, sink) else sink.appendChar 0x2C)
    fun sink => (true, { sink with first := false })

def keyPrefix (key : CString) : Bool × ReportSink :=
  andThen sink.separator fun sink => andThen (sink.appendChar 0x22) fun sink =>
    andThen (appendEscaped key.bytes sink) (appendText [0x22, 0x3A])

def keyString (key value : CString) : Bool × ReportSink :=
  andThen (sink.keyPrefix key) fun sink => andThen (sink.appendChar 0x22) fun sink =>
    andThen (appendEscaped value.bytes sink) fun sink => sink.appendChar 0x22

def keyUnsigned (key : CString) (value : BitVec 32) : Bool × ReportSink :=
  andThen (sink.keyPrefix key) fun sink => sink.appendUnsigned value

end ReportSink

def reportBegin (buffer : Option Memory) (capacity : Nat) : ReportSink :=
  let sink : ReportSink := ⟨buffer, capacity, 0, buffer.isNone || capacity == 0, true⟩
  if sink.overflowed then sink else (sink.appendChar 0x7B).2

/-- The length that is returned, and the sink with its line terminated. -/
def ReportSink.reportEnd (sink : ReportSink) : Nat × ReportSink :=
  let (appended, sink) := sink.appendChar 0x7D
  if appended = false ∨ sink.overflowed then (0, sink)
  else (sink.length, { sink with
    buffer := sink.buffer.map fun memory => Function.update memory sink.length 0 })

/-! ## A report -/

inductive ReportCall where
  | keyString (key value : CString)
  | keyUnsigned (key : CString) (value : BitVec 32)

def ReportSink.call (sink : ReportSink) : ReportCall → Bool × ReportSink
  | .keyString key value => sink.keyString key value
  | .keyUnsigned key value => sink.keyUnsigned key value

/-- What each call returned, and the sink after the last one. -/
def ReportSink.calls : List ReportCall → ReportSink → List Bool × ReportSink
  | [], sink => ([], sink)
  | c :: rest, sink =>
      let (returned, sink) := sink.call c
      let (others, sink) := ReportSink.calls rest sink
      (returned :: others, sink)

/-! ## What should be written -/

def escapeBytes (bytes : List UInt8) : List UInt8 :=
  bytes.flatMap fun value => if value = 0x22 ∨ value = 0x5C then [0x5C, value] else [value]

def quotedBytes (bytes : List UInt8) : List UInt8 := 0x22 :: escapeBytes bytes ++ [0x22]

def decimalBytes (value : Nat) : List UInt8 :=
  (Nat.toDigits 10 value).map fun digit => UInt8.ofNat digit.toNat

/-- No byte is a control character. -/
def printable (bytes : List UInt8) : Bool := bytes.all fun value => 0x20 ≤ value

/-- The bytes as code units of a text. -/
def units (bytes : List UInt8) : Text := bytes.map UInt8.toUInt16

namespace ReportCall

def key : ReportCall → CString
  | .keyString key _ | .keyUnsigned key _ => key

/-- The text of the value. -/
def item : ReportCall → List UInt8
  | .keyString _ value => quotedBytes value.bytes
  | .keyUnsigned _ value => decimalBytes value.toNat

def text (c : ReportCall) : List UInt8 := quotedBytes c.key.bytes ++ 0x3A :: c.item

def isPrintable : ReportCall → Bool
  | .keyString key value => printable key.bytes && printable value.bytes
  | .keyUnsigned key _ => printable key.bytes

/-- The pair as a member of a JSON object. -/
def pair : ReportCall → Text × Json Numeral
  | .keyString key value => (units key.bytes, .str (units value.bytes))
  | .keyUnsigned key value => (units key.bytes, .num (.integer value.toNat))

end ReportCall

/-- The complete object. -/
def objectText (calls : List ReportCall) : List UInt8 :=
  0x7B :: [0x2C].intercalate (calls.map ReportCall.text) ++ [0x7D]

/-! ## What is written -/

/-- More text, where it leaves room for a terminator. Nothing is written after a failure,
and nothing for a piece that is refused. -/
def grown (capacity : Nat) (text piece : Option (List UInt8)) : Option (List UInt8) :=
  text.bind fun written => piece.bind fun more =>
    if (written ++ more).length < capacity then some (written ++ more) else none

/-- One piece after another. -/
def joined (first second : Option (List UInt8)) : Option (List UInt8) :=
  first.bind fun first => second.map fun second => first ++ second

section Growth
variable {capacity : Nat} {text first second : Option (List UInt8)}

@[simp] theorem grown_none : grown capacity none first = none := rfl

theorem grown_refused : grown capacity text none = none := by
  cases text <;> rfl

theorem grown_empty {written : List UInt8} (room : written.length < capacity) :
    grown capacity (some written) (some []) = some written := by
  simp [grown, room]

theorem grown_joined : grown capacity text (joined first second) =
    grown capacity (grown capacity text first) second := by
  cases text with
  | none => rfl
  | some written =>
  cases first with
  | none => rfl
  | some first =>
  cases second with
  | none => rw [grown_refused]; rfl
  | some second =>
      simp only [grown, joined, Option.bind_some, Option.map_some]
      by_cases room : (written ++ first).length < capacity
      · rw [if_pos room, Option.bind_some, List.append_assoc]
      · rw [if_neg room, Option.bind_none, if_neg]
        simp only [List.length_append] at room ⊢
        omega

end Growth

/-- The sink has written this text into the storage `start` of this capacity, or failed. -/
structure ReportSink.Holds (start : Option Memory) (capacity : Nat) (first : Bool)
    (text : Option (List UInt8)) (sink : ReportSink) : Prop where
  size : sink.capacity = capacity
  flag : sink.first = first
  frame : ∀ memory, sink.buffer = some memory → ∃ before, start = some before ∧
    ∀ offset, capacity ≤ offset → memory offset = before offset
  failed : sink.overflowed = text.isNone
  written : ∀ bytes, text = some bytes → sink.length = bytes.length ∧ bytes.length < capacity ∧
    ∃ memory, sink.buffer = some memory ∧ memory.bytes bytes.length = bytes

/-- An append returned, with this text written. -/
structure ReportSink.Appends (start : Option Memory) (capacity : Nat) (first : Bool)
    (text : Option (List UInt8)) (result : Bool × ReportSink) : Prop where
  returned : result.1 = text.isSome
  holds : result.2.Holds start capacity first text

namespace ReportSink
variable {start : Option Memory} {capacity : Nat} {first : Bool} {text p q : Option (List UInt8)}
  {sink : ReportSink}

/-- A sink that failed stays as it is. -/
theorem Holds.refused (holds : sink.Holds start capacity first none) :
    Appends start capacity first none (false, sink) := ⟨rfl, holds⟩

theorem Holds.overflow (holds : sink.Holds start capacity first text) :
    ({ sink with overflowed := true } : ReportSink).Holds start capacity first none where
  size := holds.size
  flag := holds.flag
  frame := holds.frame
  failed := rfl
  written _ impossible := by cases impossible

theorem Holds.appendChar (holds : sink.Holds start capacity first text) (value : UInt8) :
    Appends start capacity first (grown capacity text (some [value])) (sink.appendChar value) := by
  obtain ⟨size, flag, frame, failed, written⟩ := id holds
  cases text with
  | none =>
      rw [ReportSink.appendChar, if_pos (show sink.overflowed = true from failed)]
      exact holds.refused
  | some bytes =>
      obtain ⟨length, room, memory, buffer, same⟩ := written bytes rfl
      have alive : ¬ sink.overflowed = true := by simp [failed]
      rw [ReportSink.appendChar, if_neg alive, grown, Option.bind_some, Option.bind_some,
        List.length_append, List.length_singleton]
      by_cases full : sink.capacity ≤ sink.length + 1
      · rw [if_pos full, if_neg (by omega)]
        exact ⟨rfl, holds.overflow⟩
      · rw [if_neg full, if_pos (by omega)]
        refine ⟨rfl, size, flag, ?_, failed, ?_⟩
        · intro memory' stored
          obtain ⟨before, started, beyond⟩ := frame memory buffer
          obtain rfl : Function.update memory sink.length value = memory' := by
            simpa [buffer] using stored
          refine ⟨before, started, fun offset outside => ?_⟩
          rw [Function.update_of_ne (by omega)]
          exact beyond offset outside
        · rintro _ ⟨rfl⟩
          rw [List.length_append, List.length_singleton]
          refine ⟨congrArg (· + 1) length, by omega, Function.update memory sink.length value,
            by rw [buffer, Option.map_some], ?_⟩
          rw [Memory.bytes, List.range_succ, List.map_append, List.map_singleton, length,
            Function.update_self]
          refine congrArg (· ++ [value]) (Eq.trans ?_ same)
          refine Memory.bytes_congr fun offset inside => ?_
          rw [Function.update_of_ne (by omega)]

/-- The second append is made on what the first one wrote. -/
theorem Appends.andThen {result : Bool × ReportSink}
    {next : ReportSink → Bool × ReportSink}
    (done : Appends start capacity first (grown capacity text p) result)
    (then' : ∀ sink, sink.Holds start capacity first (grown capacity text p) →
      (grown capacity text p).isSome = true → Appends start capacity first (grown capacity (grown capacity text p) q) (next sink)) :
    Appends start capacity first (grown capacity text (joined p q))
      (ReportSink.andThen result next) := by
  rw [grown_joined, ReportSink.andThen]
  obtain ⟨returned, holds⟩ := done
  cases after : grown capacity text p with
  | none =>
      rw [after] at returned holds
      rw [returned, if_neg (by simp)]
      exact ⟨returned, holds⟩
  | some bytes =>
      rw [after] at returned holds then'
      rw [returned, if_pos (by simp)]
      exact then' _ holds rfl

/-- Nothing to append to a sink that has not failed. -/
theorem Holds.unchanged (holds : sink.Holds start capacity first text)
    (alive : text.isSome = true) :
    Appends start capacity first (grown capacity text (some [])) (true, sink) := by
  obtain ⟨bytes, rfl⟩ := Option.isSome_iff_exists.mp alive
  rw [grown_empty (holds.written bytes rfl).2.1]
  exact ⟨rfl, holds⟩

theorem Holds.appendText (holds : sink.Holds start capacity first text)
    (alive : text.isSome = true) (bytes : List UInt8) :
    Appends start capacity first (grown capacity text (some bytes)) (appendText bytes sink) := by
  induction bytes generalizing sink text with
  | nil => exact holds.unchanged alive
  | cons value bytes ih =>
      exact (holds.appendChar value).andThen (q := some bytes) fun sink after still => ih after still

/-- The escaped text, refused with a control character in it. -/
def escapedPiece (bytes : List UInt8) : Option (List UInt8) :=
  if printable bytes then some (escapeBytes bytes) else none

theorem escapedPiece_cons {value : UInt8} (visible : ¬ value < 0x20) (bytes : List UInt8) :
    escapedPiece (value :: bytes) =
      joined (some (if value = 0x22 ∨ value = 0x5C then [0x5C] else []))
        (joined (some [value]) (escapedPiece bytes)) := by
  have seen : printable (value :: bytes) = printable bytes := by
    simp [printable, UInt8.not_lt.mp visible]
  have escaped : escapeBytes (value :: bytes) =
      (if value = 0x22 ∨ value = 0x5C then [0x5C] else []) ++ value :: escapeBytes bytes := by
    rw [escapeBytes, List.flatMap_cons, ← escapeBytes]
    split <;> rfl
  rw [escapedPiece, seen, escaped, escapedPiece]
  cases printable bytes <;> rfl

theorem Holds.appendEscaped (holds : sink.Holds start capacity first text)
    (alive : text.isSome = true) (bytes : List UInt8) :
    Appends start capacity first (grown capacity text (escapedPiece bytes))
      (appendEscaped bytes sink) := by
  induction bytes generalizing sink text with
  | nil => exact holds.unchanged alive
  | cons value bytes ih =>
      rw [ReportSink.appendEscaped]
      by_cases control : value < 0x20
      · have hidden : escapedPiece (value :: bytes) = none := by
          simp [escapedPiece, printable, UInt8.not_le.mpr control]
        rw [if_pos control, hidden, grown_refused]
        exact ⟨rfl, holds.overflow⟩
      · rw [if_neg control, escapedPiece_cons control]
        refine Appends.andThen ?_ fun sink after _ =>
          (after.appendChar value).andThen fun sink later still => ih later still
        split
        · exact holds.appendChar 0x5C
        · exact holds.unchanged alive

/-- What separates a pair from the one before it. -/
def separatorText (first : Bool) : List UInt8 := if first then [] else [0x2C]

theorem Holds.separator (holds : sink.Holds start capacity first text)
    (alive : text.isSome = true) :
    Appends start capacity false (grown capacity text (some (separatorText first)))
      sink.separator := by
  rw [ReportSink.separator, holds.flag]
  cases first with
  | true =>
      have unchanged := holds.unchanged alive
      refine ⟨unchanged.returned, ?_⟩
      exact { unchanged.holds with flag := rfl }
  | false =>
      obtain ⟨returned, after⟩ := holds.appendChar 0x2C
      rw [if_neg Bool.false_ne_true, andThen]
      split
      · rename_i appended
        exact ⟨appended ▸ returned, { after with flag := rfl }⟩
      · exact ⟨returned, after⟩

/-- The text of a key, with its separator and its colon. -/
def keyPiece (first : Bool) (key : CString) : Option (List UInt8) :=
  joined (some (separatorText first)) (joined (some [0x22])
    (joined (escapedPiece key.bytes) (some [0x22, 0x3A])))

theorem Holds.keyPrefix (holds : sink.Holds start capacity first text) (key : CString) :
    Appends start capacity false (grown capacity text (keyPiece first key)) (sink.keyPrefix key) := by
  cases text with
  | none =>
      have failed : sink.overflowed = true := holds.failed
      have flag := holds.flag
      cases first with
      | true =>
          have after : ({ sink with first := false } : ReportSink).Holds start capacity false none :=
            { holds with flag := rfl }
          simp only [ReportSink.keyPrefix, ReportSink.separator, ReportSink.andThen, flag, if_true,
            ReportSink.appendChar, failed, Bool.false_eq_true, if_false]
          exact ⟨rfl, after.overflow⟩
      | false =>
          simp only [ReportSink.keyPrefix, ReportSink.separator, ReportSink.andThen, flag, if_false,
            ReportSink.appendChar, failed, if_true, Bool.false_eq_true]
          exact holds.refused
  | some bytes =>
      refine (holds.separator rfl).andThen fun sink after _ => ?_
      refine (after.appendChar 0x22).andThen fun sink after alive => ?_
      exact (after.appendEscaped alive key.bytes).andThen fun sink after alive =>
        after.appendText alive [0x22, 0x3A]

theorem Holds.keyString (holds : sink.Holds start capacity first text) (key value : CString) :
    Appends start capacity false (grown capacity text (joined (keyPiece first key)
      (joined (some [0x22]) (joined (escapedPiece value.bytes) (some [0x22])))))
      (sink.keyString key value) := by
  refine Appends.andThen (holds.keyPrefix key) fun sink after _ => ?_
  refine (after.appendChar 0x22).andThen fun sink after alive => ?_
  exact (after.appendEscaped alive value.bytes).andThen fun sink after _ => after.appendChar 0x22

theorem toDigits_of_ge {value : Nat} (large : 10 ≤ value) :
    Nat.toDigits 10 value = Nat.toDigits 10 (value / 10) ++ [Nat.digitChar (value % 10)] := by
  rw [Nat.toDigits_eq_if (by omega), if_neg (by omega)]

theorem ofNat_digitChar {digit : Nat} (small : digit < 10) :
    UInt8.ofNat (Nat.digitChar digit).toNat = UInt8.ofNat (0x30 + digit) := by
  interval_cases digit <;> rfl

/-- With room for them all, the digits are those of the value. -/
theorem reverse_digits {room value : Nat} (fits : value < 10 ^ (room + 1)) :
    (digits (room + 1) value).reverse = decimalBytes value := by
  induction room generalizing value with
  | zero =>
      have small : value < 10 := by simpa using fits
      rw [digits, if_pos (by omega), decimalBytes, Nat.toDigits_of_lt_base small,
        Nat.mod_eq_of_lt small]
      exact congrArg (fun byte => [byte]) (ofNat_digitChar small).symm
  | succ room ih =>
      rw [digits]
      by_cases small : value < 10
      · rw [if_pos (by omega), decimalBytes, Nat.toDigits_of_lt_base small, Nat.mod_eq_of_lt small]
        exact congrArg (fun byte => [byte]) (ofNat_digitChar small).symm
      · have shorter : value / 10 < 10 ^ (room + 1) := by
          rw [Nat.pow_succ] at fits
          omega
        have digit := ofNat_digitChar (Nat.mod_lt value (show 10 > 0 by omega))
        rw [if_neg (by omega), List.reverse_cons, ih shorter, ← digit]
        simp only [decimalBytes, toDigits_of_ge (Nat.le_of_not_lt small), List.map_append,
          List.map_singleton]

theorem Holds.keyUnsigned (holds : sink.Holds start capacity first text) (key : CString)
    (value : BitVec 32) :
    Appends start capacity false
      (grown capacity text (joined (keyPiece first key) (some (decimalBytes value.toNat))))
      (sink.keyUnsigned key value) := by
  refine Appends.andThen (holds.keyPrefix key) fun sink after alive => ?_
  rw [appendUnsigned, reverse_digits (lt_trans value.isLt (by norm_num))]
  exact after.appendText alive _

/-- A pair with its separator, refused with a control character in it. -/
def pairPiece (first : Bool) (c : ReportCall) : Option (List UInt8) :=
  if c.isPrintable then some (separatorText first ++ c.text) else none

theorem Holds.call (holds : sink.Holds start capacity first text) (c : ReportCall) :
    Appends start capacity false (grown capacity text (pairPiece first c)) (sink.call c) := by
  cases c with
  | keyString key value =>
      have piece : pairPiece first (.keyString key value) = joined (keyPiece first key)
          (joined (some [0x22]) (joined (escapedPiece value.bytes) (some [0x22]))) := by
        rw [pairPiece, keyPiece, escapedPiece, escapedPiece,
          show (ReportCall.keyString key value).isPrintable =
            (printable key.bytes && printable value.bytes) from rfl]
        cases printable key.bytes <;> cases printable value.bytes <;>
          simp [joined, ReportCall.text, ReportCall.item, ReportCall.key, quotedBytes]
      rw [piece]
      exact holds.keyString key value
  | keyUnsigned key value =>
      have piece : pairPiece first (.keyUnsigned key value) =
          joined (keyPiece first key) (some (decimalBytes value.toNat)) := by
        rw [pairPiece, keyPiece, escapedPiece,
          show (ReportCall.keyUnsigned key value).isPrintable = printable key.bytes from rfl]
        cases printable key.bytes <;>
          simp [joined, ReportCall.text, ReportCall.item, ReportCall.key, quotedBytes]
      rw [piece]
      exact holds.keyUnsigned key value

/-! ## Whole reports -/

/-- All pairs with their separators. -/
def pairPieces : Bool → List ReportCall → Option (List UInt8)
  | _, [] => some []
  | first, c :: calls => joined (pairPiece first c) (pairPieces false calls)

theorem Holds.grown_empty (holds : sink.Holds start capacity first text) :
    grown capacity text (some []) = text := by
  cases text with
  | none => rfl
  | some bytes => exact Zenoh.grown_empty (holds.written bytes rfl).2.1

theorem Holds.calls (holds : sink.Holds start capacity first text) (calls : List ReportCall) :
    ∃ first', (ReportSink.calls calls sink).2.Holds start capacity first'
      (grown capacity text (pairPieces first calls)) := by
  induction calls generalizing sink first text with
  | nil =>
      rw [pairPieces, holds.grown_empty]
      exact ⟨first, holds⟩
  | cons c calls ih =>
      rw [pairPieces, grown_joined]
      exact ih (holds.call c).holds

theorem calls_cons (c : ReportCall) (calls : List ReportCall) (sink : ReportSink) :
    ReportSink.calls (c :: calls) sink = ((sink.call c).1 :: (ReportSink.calls calls (sink.call c).2).1,
      (ReportSink.calls calls (sink.call c).2).2) := rfl

/-- After a failure every call fails. -/
theorem Holds.calls_failed (holds : sink.Holds start capacity first none)
    (calls : List ReportCall) : ∀ value ∈ (ReportSink.calls calls sink).1, value = false := by
  induction calls generalizing sink first with
  | nil => simp [ReportSink.calls]
  | cons c calls ih =>
      obtain ⟨returned, after⟩ := holds.call c
      rintro value (_ | ⟨_, member⟩)
      · exact returned
      · exact ih after value member

theorem Holds.calls_sticky (holds : sink.Holds start capacity first text) {calls : List ReportCall}
    {before after : List Bool}
    (failed : (ReportSink.calls calls sink).1 = before ++ false :: after) :
    (∀ value ∈ after, value = false) ∧ (ReportSink.calls calls sink).2.overflowed = true := by
  induction calls generalizing sink first text before with
  | nil => simp [ReportSink.calls] at failed
  | cons c calls ih =>
      obtain ⟨returned, held⟩ := holds.call c
      rw [calls_cons] at failed ⊢
      cases before with
      | cons value before => exact ih held (List.cons.inj failed).2
      | nil =>
          obtain ⟨refused, rfl⟩ := List.cons.inj failed
          rw [refused] at returned
          rw [Option.isSome_eq_false_iff.mp returned.symm |> Option.isNone_iff_eq_none.mp] at held
          obtain ⟨_, last⟩ := held.calls calls
          exact ⟨held.calls_failed calls, last.failed⟩

/-- The closing brace, the terminator and the length, where they fit. -/
theorem Holds.reportEnd (holds : sink.Holds start capacity first text) :
    (∀ memory, sink.reportEnd.2.buffer = some memory → ∃ before, start = some before ∧
      ∀ offset, capacity ≤ offset → memory offset = before offset) ∧
    (∀ bytes, grown capacity text (some [0x7D]) = some bytes → sink.reportEnd.1 = bytes.length ∧
      ∃ memory, sink.reportEnd.2.buffer = some memory ∧
        memory.bytes (bytes.length + 1) = bytes ++ [0]) ∧
    (grown capacity text (some [0x7D]) = none → sink.reportEnd.1 = 0) := by
  obtain ⟨returned, after⟩ := holds.appendChar 0x7D
  rw [ReportSink.reportEnd]
  generalize sink.appendChar 0x7D = appended at returned after
  obtain ⟨value, closed⟩ := appended
  dsimp only at returned after ⊢
  cases ended : grown capacity text (some [0x7D]) with
  | none =>
      rw [ended] at returned after
      rw [returned, if_pos (.inl rfl)]
      exact ⟨after.frame, fun _ impossible => (by cases impossible), fun _ => rfl⟩
  | some bytes =>
      rw [ended] at returned after
      obtain ⟨length, room, memory, buffer, same⟩ := after.written bytes rfl
      obtain ⟨before, started, beyond⟩ := after.frame memory buffer
      rw [returned, after.failed, if_neg (by simp), buffer, length, Option.map_some]
      refine ⟨?_, ?_, fun impossible => (by cases impossible)⟩
      · intro memory' stored
        obtain rfl := Option.some.inj stored
        refine ⟨before, started, fun offset outside => ?_⟩
        rw [Function.update_of_ne (by omega)]
        exact beyond offset outside
      · rintro _ ⟨rfl⟩
        refine ⟨rfl, Function.update memory bytes.length 0, rfl, ?_⟩
        rw [Memory.bytes, List.range_succ, List.map_append, List.map_singleton,
          Function.update_self]
        refine congrArg (· ++ [0]) (Eq.trans ?_ same)
        refine Memory.bytes_congr fun offset inside => ?_
        rw [Function.update_of_ne (by omega)]

theorem holds_reportBegin (start : Option Memory) (capacity : Nat) :
    (reportBegin start capacity).Holds start capacity true
      (if start.isSome then grown capacity (some []) (some [0x7B]) else none) := by
  cases start with
  | none =>
      exact ⟨rfl, rfl, fun _ impossible => (by cases impossible), rfl,
        fun _ impossible => (by cases impossible)⟩
  | some memory =>
      rw [reportBegin, Option.isSome_some, if_pos rfl]
      by_cases empty : capacity = 0
      · subst empty
        exact ⟨rfl, rfl, fun memory' stored => ⟨memory', stored, fun _ _ => rfl⟩, rfl,
          fun _ impossible => (by cases impossible)⟩
      · have opened : (⟨some memory, capacity, 0, false, true⟩ : ReportSink).Holds (some memory)
            capacity true (some []) := by
          refine ⟨rfl, rfl, fun memory' stored => ⟨memory', stored, fun _ _ => rfl⟩, rfl, ?_⟩
          rintro _ ⟨rfl⟩
          exact ⟨rfl, Nat.pos_of_ne_zero empty, memory, rfl, rfl⟩
        have fresh : ((some memory).isNone || capacity == 0) = false := by simp [empty]
        dsimp only
        rw [fresh, if_neg Bool.false_ne_true]
        exact (opened.appendChar 0x7B).holds

end ReportSink

/-! ## The text of a report -/

theorem intercalate_pairs (c : ReportCall) (calls : List ReportCall) :
    [0x2C].intercalate ((c :: calls).map ReportCall.text) =
      c.text ++ calls.flatMap fun c => 0x2C :: c.text := by
  induction calls generalizing c with
  | nil => simp [List.intercalate]
  | cons c' calls ih =>
      rw [List.map_cons, List.map_cons, List.intercalate_cons_cons, ← List.map_cons, ih,
        List.flatMap_cons]
      simp

theorem pairPieces_false (calls : List ReportCall) :
    ReportSink.pairPieces false calls =
      if calls.all ReportCall.isPrintable then some (calls.flatMap fun c => 0x2C :: c.text)
      else none := by
  induction calls with
  | nil => rfl
  | cons c calls ih =>
      rw [ReportSink.pairPieces, ih, ReportSink.pairPiece, List.all_cons, List.flatMap_cons]
      cases c.isPrintable <;> cases calls.all ReportCall.isPrintable <;> rfl

/-- The pairs of a report with their separators, where no byte is refused. -/
theorem pairPieces_true (calls : List ReportCall) :
    ReportSink.pairPieces true calls =
      if calls.all ReportCall.isPrintable then some ([0x2C].intercalate (calls.map ReportCall.text))
      else none := by
  cases calls with
  | nil => rfl
  | cons c calls =>
      rw [ReportSink.pairPieces, pairPieces_false, ReportSink.pairPiece, List.all_cons,
        intercalate_pairs]
      cases c.isPrintable <;> cases calls.all ReportCall.isPrintable <;> rfl

theorem units_append (first second : List UInt8) :
    units (first ++ second) = units first ++ units second := List.map_append

theorem units_escapeBytes (bytes : List UInt8) : units (escapeBytes bytes) = Json.escape (units bytes) := by
  rw [units, escapeBytes, Json.escape, units, List.map_flatMap, List.flatMap_map]
  refine List.flatMap_congr fun value _ => ?_
  have special : (value = 0x22 ∨ value = 0x5C) ↔
      (value.toUInt16 = unit '"' ∨ value.toUInt16 = unit '\\') := by
    rw [show unit '"' = (0x22 : UInt8).toUInt16 from rfl,
      show unit '\\' = (0x5C : UInt8).toUInt16 from rfl, UInt8.toUInt16_inj, UInt8.toUInt16_inj]
  by_cases escaped : value = 0x22 ∨ value = 0x5C
  · rw [if_pos escaped, if_pos (special.mp escaped)]
    rfl
  · rw [if_neg escaped, if_neg (special.not.mp escaped)]
    rfl

theorem units_quotedBytes (bytes : List UInt8) :
    units (quotedBytes bytes) = Json.quoted (Json.escape (units bytes)) := by
  rw [quotedBytes, units_append, ← units_escapeBytes]
  rfl

theorem units_decimalBytes (value : Nat) : units (decimalBytes value) = Json.decimal value := by
  rw [units, decimalBytes, Json.decimal, List.map_map]
  refine List.map_congr_left fun digit member => ?_
  have bounds := Json.toNat_of_isDigit (Nat.isDigit_of_mem_toDigits (by omega) (le_refl _) member)
  exact UInt8.toUInt16_ofNat' (by
    rw [UInt8.size]
    omega)

theorem toNat_units {bytes : List UInt8} (visible : printable bytes = true) :
    ∀ u ∈ units bytes, 0x20 ≤ u.toNat := by
  intro u member
  obtain ⟨value, inside, rfl⟩ := List.mem_map.mp member
  have shown := List.all_eq_true.mp visible value inside
  simpa [UInt8.le_iff_toNat_le] using shown

/-- The value of a pair is read back. -/
theorem readsAs_item {c : ReportCall} (visible : c.isPrintable = true) :
    Json.ReadsAs id (units c.item) c.pair.2 := by
  cases c with
  | keyString key value =>
      rw [ReportCall.item, units_quotedBytes]
      rw [ReportCall.isPrintable, Bool.and_eq_true] at visible
      exact Json.readsAs_quoted_of (Json.quotedReads_escape (toNat_units visible.2))
  | keyUnsigned key value =>
      rw [ReportCall.item, units_decimalBytes]
      exact Json.readsAs_decimal id value.toNat

theorem printable_key {c : ReportCall} (visible : c.isPrintable = true) :
    printable c.key.bytes = true := by
  cases c with
  | keyString key value => exact (Bool.and_eq_true_iff.mp visible).1
  | keyUnsigned key value => exact visible

/-- A pair as the writer of JSON texts takes it: the written name and the written value. -/
def writtenPair (c : ReportCall) : Text × Text :=
  (Json.escape (units c.key.bytes), units c.item)

theorem units_pairs (calls : List ReportCall) :
    units ([0x2C].intercalate (calls.map ReportCall.text)) ++ [unit '}'] =
      Json.enclosed (calls.map writtenPair) := by
  induction calls with
  | nil => rfl
  | cons c calls ih =>
      have pair : units c.text = Json.quoted (writtenPair c).1 ++ unit ':' :: (writtenPair c).2 := by
        rw [ReportCall.text, units_append, units_quotedBytes]
        rfl
      cases calls with
      | nil =>
          rw [intercalate_pairs, List.flatMap_nil, List.append_nil, pair]
          rfl
      | cons c' calls =>
          have whole : Json.enclosed ((c :: c' :: calls).map writtenPair) =
              Json.quoted (writtenPair c).1 ++ unit ':' :: (writtenPair c).2 ++
                unit ',' :: Json.enclosed ((c' :: calls).map writtenPair) := rfl
          rw [whole, ← ih, List.map_cons, List.map_cons, List.intercalate_cons_cons,
            ← List.map_cons, units_append, units_append, pair]
          simp [units]

theorem units_objectText (calls : List ReportCall) :
    units (objectText calls) = Json.braces (calls.map writtenPair) := by
  rw [objectText, Json.braces, ← units_pairs, List.cons_append, units, List.map_cons,
    List.map_append]
  rfl

/-- The text of a report is read as its pairs, in order. -/
theorem parse_objectText {calls : List ReportCall}
    (visible : calls.all ReportCall.isPrintable = true) :
    Json.parse id (units (objectText calls)) = some (.obj (calls.map ReportCall.pair)) := by
  rw [units_objectText]
  cases calls with
  | nil => rfl
  | cons c rest =>
      refine Json.parse_of_readsAs (Json.readsAs_braces_of ?_ (List.cons_ne_nil _ _))
      rw [Json.MembersReadAs, List.forall₂_map_left_iff, List.forall₂_map_right_iff]
      refine List.forall₂_same.mpr fun c member => ?_
      have shown := List.all_eq_true.mp visible c member
      refine ⟨?_, readsAs_item shown⟩
      have named := Json.quotedReads_escape (toNat_units (printable_key shown))
      cases c <;> exact named

/-! ## Reports -/

/-- A report from `begin` to `end`. -/
structure Report where
  returned : List Bool
  ended : Nat
  buffer : Option Memory

def report (buffer : Option Memory) (capacity : Nat) (calls : List ReportCall) : Report :=
  let (returned, sink) := ReportSink.calls calls (reportBegin buffer capacity)
  let (ended, sink) := sink.reportEnd
  ⟨returned, ended, sink.buffer⟩

/-- The text of a whole report, from an empty one to the closing brace. -/
theorem grown_objectText (capacity : Nat) (calls : List ReportCall) :
    grown capacity (grown capacity (grown capacity (some []) (some [0x7B]))
      (ReportSink.pairPieces true calls)) (some [0x7D]) =
        if calls.all ReportCall.isPrintable = true ∧ (objectText calls).length < capacity then
          some (objectText calls)
        else none := by
  rw [← grown_joined, ← grown_joined, pairPieces_true]
  cases calls.all ReportCall.isPrintable with
  | false => rfl
  | true =>
      have whole : joined (some [0x7B]) (joined
          (some ([0x2C].intercalate (calls.map ReportCall.text))) (some [0x7D])) =
            some (objectText calls) := rfl
      rw [if_pos rfl, whole, grown]
      simp only [Option.bind_some, List.nil_append, true_and]

/-- For every storage, capacity and sequence of calls: nothing changes at or beyond the
capacity; `end` returns a length exactly when the object and its terminator fit and no
byte is a control character; the length is then that of the object, the object with its
terminator is in the storage, and it is read as the pairs, in order; and after a call that
failed every later one fails, and `end` too. -/
theorem report_correct (start : Option Memory) (capacity : Nat) (calls : List ReportCall) :
    let written := report start capacity calls
    (∀ memory, written.buffer = some memory → ∃ before, start = some before ∧
      ∀ offset, capacity ≤ offset → memory offset = before offset) ∧
    (written.ended ≠ 0 ↔ start.isSome = true ∧ (objectText calls).length + 1 ≤ capacity ∧
      ∀ c ∈ calls, c.isPrintable = true) ∧
    (written.ended ≠ 0 → written.ended = (objectText calls).length ∧
      (∃ memory, written.buffer = some memory ∧
        memory.bytes (written.ended + 1) = objectText calls ++ [0]) ∧
      Json.parse id (units (objectText calls)) = some (.obj (calls.map ReportCall.pair))) ∧
    ∀ before after, written.returned = before ++ false :: after →
      (∀ value ∈ after, value = false) ∧ written.ended = 0 := by
  have begun := ReportSink.holds_reportBegin start capacity
  obtain ⟨first, called⟩ := begun.calls calls
  obtain ⟨frame, fits, short⟩ := called.reportEnd
  intro written
  have text : grown capacity (grown capacity
      (if start.isSome then grown capacity (some []) (some [0x7B]) else none)
        (ReportSink.pairPieces true calls)) (some [0x7D]) =
      if start.isSome = true ∧ (objectText calls).length + 1 ≤ capacity ∧
        (∀ c ∈ calls, c.isPrintable = true) then some (objectText calls) else none := by
    cases start with
    | none => rfl
    | some memory =>
        rw [if_pos Option.isSome_some, grown_objectText]
        simp only [List.all_eq_true, Option.isSome_some, true_and, Nat.succ_le_iff, and_comm]
  rw [text] at fits short
  refine ⟨frame, ?_, ?_, ?_⟩
  · constructor
    · intro returned
      by_contra other
      exact returned (short (if_neg other))
    · intro whole
      have size : written.ended = (objectText calls).length := (fits _ (if_pos whole)).1
      rw [size]
      simp [objectText]
  · intro returned
    have whole : start.isSome = true ∧ (objectText calls).length + 1 ≤ capacity ∧
        ∀ c ∈ calls, c.isPrintable = true := by
      by_contra other
      exact returned (short (if_neg other))
    obtain ⟨size, memory, stored, bytes⟩ := fits _ (if_pos whole)
    have size' : written.ended = (objectText calls).length := size
    refine ⟨size', ⟨memory, stored, size'.symm ▸ bytes⟩, ?_⟩
    exact parse_objectText (List.all_eq_true.mpr whole.2.2)
  · intro before after failed
    obtain ⟨others, last⟩ := begun.calls_sticky failed
    refine ⟨others, short ?_⟩
    rw [← text, Option.isNone_iff_eq_none.mp (called.failed.symm.trans last), grown_none]

end AxolotyEmbedded.Zenoh
