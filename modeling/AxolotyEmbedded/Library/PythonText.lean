import Mathlib.Data.List.Basic

/-!
The parts of Python's `str` and `bytes` that line-oriented readers use: decoding with
`"replace"`, `splitlines`, the blanks of `\s`, hexadecimal numbers and `json.dumps` of a
string. A text is the list of its characters; none is a surrogate.
-/
namespace AxolotyEmbedded.PythonText

abbrev Str := List Char

/-- One proof for all membership tests on lists of texts. -/
instance lawfulBEqStr : LawfulBEq Str := inferInstance

/-! ## `bytes.decode("utf-8", "replace")` -/

/-- Inside a character: the bytes still owed, the bounds of the next one, and the value
of the bits so far. -/
structure Pending where
  owed : Nat
  low : Nat
  high : Nat
  value : Nat

def replacement : Char := '\uFFFD'

/-- A byte between characters: what it writes at once, and the character it opens. -/
def firstByte (b : Nat) : Str × Option Pending :=
  if b < 0x80 then ([Char.ofNat b], none)
  else if b < 0xC2 then ([replacement], none)
  else if b < 0xE0 then ([], some ⟨1, 0x80, 0xBF, b - 0xC0⟩)
  else if b < 0xF0 then
    ([], some ⟨2, if b = 0xE0 then 0xA0 else 0x80, if b = 0xED then 0x9F else 0xBF, b - 0xE0⟩)
  else if b < 0xF5 then
    ([], some ⟨3, if b = 0xF0 then 0x90 else 0x80, if b = 0xF4 then 0x8F else 0xBF, b - 0xF0⟩)
  else ([replacement], none)

/-- A byte that does not continue the open character ends it as one replacement and is
read again from between characters. -/
def decodeFrom : Option Pending → List UInt8 → Str
  | none, [] => []
  | some _, [] => [replacement]
  | none, b :: bytes => (firstByte b.toNat).1 ++ decodeFrom (firstByte b.toNat).2 bytes
  | some pending, b :: bytes =>
      if pending.low ≤ b.toNat ∧ b.toNat ≤ pending.high then
        let value := pending.value * 64 + (b.toNat - 0x80)
        if pending.owed = 1 then Char.ofNat value :: decodeFrom none bytes
        else decodeFrom (some ⟨pending.owed - 1, 0x80, 0xBF, value⟩) bytes
      else
        replacement :: (firstByte b.toNat).1 ++ decodeFrom (firstByte b.toNat).2 bytes

def decode (bytes : List UInt8) : Str := decodeFrom none bytes

/-! ## Lines and blanks -/

/-- The line boundaries of `splitlines`. -/
def isLineBreak (c : Char) : Bool :=
  (0x0A ≤ c.toNat && c.toNat ≤ 0x0D) || (0x1C ≤ c.toNat && c.toNat ≤ 0x1E) ||
    c.toNat == 0x85 || c.toNat == 0x2028 || c.toNat == 0x2029

/-- The lines of a text, `line` read of the first one, the last character first. -/
def splitLinesFrom (line : Str) : Str → List Str
  | [] => if line.isEmpty then [] else [line.reverse]
  | '\r' :: '\n' :: text => line.reverse :: splitLinesFrom [] text
  | c :: text =>
      if isLineBreak c then line.reverse :: splitLinesFrom [] text
      else splitLinesFrom (c :: line) text

def splitLines (text : Str) : List Str := splitLinesFrom [] text

theorem unbroken_of_mem_splitLinesFrom {line text found : Str} {c : Char}
    (unbroken : ∀ c ∈ line, isLineBreak c = false) (member : found ∈ splitLinesFrom line text)
    (held : c ∈ found) : isLineBreak c = false := by
  have begun : c ∈ line.reverse → isLineBreak c = false := fun inside =>
    unbroken c (List.mem_reverse.mp inside)
  induction line, text using splitLinesFrom.induct with
  | case1 line nothing => simp [splitLinesFrom, nothing] at member
  | case2 line something =>
      simp only [splitLinesFrom, something] at member
      obtain rfl := List.mem_singleton.mp member
      exact begun held
  | case3 line text ih =>
      rw [splitLinesFrom] at member
      obtain rfl | later := List.mem_cons.mp member
      · exact begun held
      · exact ih (by simp) later (by simp)
  | case4 line c text other ends ih =>
      rw [splitLinesFrom, if_pos ends] at member
      · obtain rfl | later := List.mem_cons.mp member
        · exact begun held
        · exact ih (by simp) later (by simp)
      · exact other
  | case5 line next text other goesOn ih =>
      rw [splitLinesFrom, if_neg goesOn] at member
      · have extended : ∀ c ∈ next :: line, isLineBreak c = false := by
          intro c inside
          obtain rfl | inside := List.mem_cons.mp inside
          · simpa using goesOn
          · exact unbroken c inside
        exact ih extended member fun inside => extended c (List.mem_reverse.mp inside)
      · exact other

/-- No line holds a line break: `.` matches every character of a line. -/
theorem unbroken_of_mem_splitLines {text line : Str} {c : Char}
    (member : line ∈ splitLines text) (held : c ∈ line) : isLineBreak c = false :=
  unbroken_of_mem_splitLinesFrom (by simp) member held

theorem splitLinesFrom_append {piece : Str} (unbroken : ∀ c ∈ piece, isLineBreak c = false)
    (line rest : Str) :
    splitLinesFrom line (piece ++ rest) = splitLinesFrom (piece.reverse ++ line) rest := by
  induction piece generalizing line with
  | nil => rfl
  | cons c piece ih =>
      have held := unbroken c List.mem_cons_self
      have step : splitLinesFrom line (c :: (piece ++ rest)) =
          splitLinesFrom (c :: line) (piece ++ rest) := by
        rw [splitLinesFrom, if_neg (by simp [held])]
        rintro next rfl -
        cases held
      rw [List.cons_append, step, ih fun d inside => unbroken d (List.mem_cons_of_mem _ inside),
        List.reverse_cons, List.append_assoc, List.singleton_append]

/-- The lines, each with its end. -/
def endedLines (lines : List Str) : Str := lines.flatMap fun line => line ++ ['\n']

theorem splitLines_endedLines {lines : List Str}
    (unbroken : ∀ line ∈ lines, ∀ c ∈ line, isLineBreak c = false) :
    splitLines (endedLines lines) = lines := by
  induction lines with
  | nil => rfl
  | cons line rest ih =>
      have later := ih fun other inside => unbroken other (List.mem_cons_of_mem _ inside)
      rw [endedLines, List.flatMap_cons, ← endedLines, splitLines, List.append_assoc,
        splitLinesFrom_append (unbroken line List.mem_cons_self), List.append_nil,
        List.singleton_append, splitLinesFrom, if_pos (by decide), List.reverse_reverse,
        ← splitLines, later]
      exact fun next equal => absurd equal (by decide)

/-- Lines without breaks of their own are read back from the text that joins them. -/
theorem splitLines_intercalate {lines : List Str}
    (unbroken : ∀ line ∈ lines, ∀ c ∈ line, isLineBreak c = false)
    (nonempty : ∀ line ∈ lines, line ≠ []) :
    splitLines (['\n'].intercalate lines) = lines := by
  induction lines with
  | nil => rfl
  | cons line rest ih =>
      have here := unbroken line List.mem_cons_self
      have later := ih (fun other inside => unbroken other (List.mem_cons_of_mem _ inside))
        fun other inside => nonempty other (List.mem_cons_of_mem _ inside)
      cases rest with
      | nil =>
          have whole := splitLinesFrom_append here [] []
          rw [List.append_nil, List.append_nil] at whole
          rw [List.intercalate_singleton, splitLines, whole, splitLinesFrom,
            if_neg (by simpa using nonempty line List.mem_cons_self), List.reverse_reverse]
      | cons next rest =>
          rw [List.intercalate_cons_cons, splitLines, List.append_assoc,
            splitLinesFrom_append here, List.append_nil, List.singleton_append, splitLinesFrom,
            if_pos (by decide), List.reverse_reverse, ← splitLines, later]
          exact fun next equal => absurd equal (by decide)

/-- The characters of `\s`. -/
def isSpace (c : Char) : Bool :=
  (0x09 ≤ c.toNat && c.toNat ≤ 0x0D) || (0x1C ≤ c.toNat && c.toNat ≤ 0x20) ||
    c.toNat == 0x85 || c.toNat == 0xA0 || c.toNat == 0x1680 ||
    (0x2000 ≤ c.toNat && c.toNat ≤ 0x200A) || c.toNat == 0x2028 || c.toNat == 0x2029 ||
    c.toNat == 0x202F || c.toNat == 0x205F || c.toNat == 0x3000

/-- `text.strip()`. -/
def strip (text : Str) : Str :=
  ((text.dropWhile isSpace).reverse.dropWhile isSpace).reverse

/-- `text.split(separator)` of one character. -/
def split (separator : Char) : Str → List Str
  | [] => [[]]
  | c :: rest =>
      if c = separator then [] :: split separator rest
      else
        match split separator rest with
        | [] => [[c]]
        | first :: others => (c :: first) :: others

/-- `part in text`. -/
def contains (part text : Str) : Bool := text.tails.any part.isPrefixOf

/-- `first <= second`, by the code points. -/
def strLe : Str → Str → Bool
  | [], _ => true
  | _ :: _, [] => false
  | a :: first, b :: second => a.toNat < b.toNat || (a.toNat == b.toNat && strLe first second)

theorem strLe_total : ∀ first second : Str, strLe first second = true ∨ strLe second first = true
  | [], _ => .inl rfl
  | _ :: _, [] => .inr rfl
  | a :: first, b :: second => by
      have later := strLe_total first second
      simp only [strLe, Bool.or_eq_true, Bool.and_eq_true, decide_eq_true_eq, beq_iff_eq]
      obtain less | equal | greater := Nat.lt_trichotomy a.toNat b.toNat
      · exact .inl (.inl less)
      · exact later.imp (fun le => .inr ⟨equal, le⟩) fun le => .inr ⟨equal.symm, le⟩
      · exact .inr (.inl greater)

theorem strLe_trans : ∀ {first second third : Str}, strLe first second = true →
    strLe second third = true → strLe first third = true
  | [], _, _, _, _ => rfl
  | _ :: _, [], _, absurd, _ => nomatch absurd
  | _ :: _, _ :: _, [], _, absurd => nomatch absurd
  | a :: first, b :: second, c :: third, below, above => by
      simp only [strLe, Bool.or_eq_true, Bool.and_eq_true, decide_eq_true_eq, beq_iff_eq] at *
      obtain less | ⟨equal, le⟩ := below
      · exact .inl (by omega)
      · obtain less | ⟨same, next⟩ := above
        · exact .inl (by omega)
        · exact .inr ⟨equal.trans same, strLe_trans le next⟩

theorem strLe_antisymm : ∀ {first second : Str}, strLe first second = true →
    strLe second first = true → first = second
  | [], [], _, _ => rfl
  | [], _ :: _, _, absurd => nomatch absurd
  | _ :: _, [], absurd, _ => nomatch absurd
  | a :: first, b :: second, below, above => by
      simp only [strLe, Bool.or_eq_true, Bool.and_eq_true, decide_eq_true_eq, beq_iff_eq] at *
      obtain ⟨equal, le⟩ := below.resolve_left (by omega)
      obtain ⟨-, ge⟩ := above.resolve_left (by omega)
      rw [strLe_antisymm le ge, Char.toNat_inj.mp equal]

/-! ## Hexadecimal numbers -/

def isHex (c : Char) : Bool :=
  ('0' ≤ c && c ≤ '9') || ('a' ≤ c && c ≤ 'f') || ('A' ≤ c && c ≤ 'F')

def hexDigit (c : Char) : Nat :=
  if c ≤ '9' then c.toNat - '0'.toNat
  else if c ≤ 'F' then c.toNat - 'A'.toNat + 10
  else c.toNat - 'a'.toNat + 10

/-- `int(digits, 16)`. -/
def hexValue (digits : Str) : Nat :=
  digits.foldl (fun value c => value * 16 + hexDigit c) 0

/-- The format `x`. -/
def hexText (value : Nat) : Str := Nat.toDigits 16 value

theorem isHex_digitChar {digit : Nat} (small : digit < 16) : isHex digit.digitChar = true :=
  (by decide : ∀ digit : Fin 16, isHex digit.val.digitChar = true) ⟨digit, small⟩

theorem hexDigit_digitChar {digit : Nat} (small : digit < 16) : hexDigit digit.digitChar = digit :=
  (by decide : ∀ digit : Fin 16, hexDigit digit.val.digitChar = digit.val) ⟨digit, small⟩

theorem hexText_of_le {value : Nat} (large : 16 ≤ value) :
    hexText value = hexText (value / 16) ++ [(value % 16).digitChar] :=
  Nat.toDigits_of_base_le (by decide) large

theorem hexText_of_lt {value : Nat} (small : value < 16) : hexText value = [value.digitChar] :=
  Nat.toDigits_of_lt_base small

theorem isHex_of_mem_hexText {value : Nat} {c : Char} (held : c ∈ hexText value) :
    isHex c = true := by
  induction value using Nat.strongRecOn with
  | ind value ih =>
      by_cases small : value < 16
      · rw [hexText_of_lt small, List.mem_singleton] at held
        exact held ▸ isHex_digitChar small
      · rw [hexText_of_le (Nat.le_of_not_lt small), List.mem_append, List.mem_singleton] at held
        obtain inside | rfl := held
        · exact ih _ (Nat.div_lt_self (by omega) (by decide)) inside
        · exact isHex_digitChar (Nat.mod_lt _ (by decide))

theorem hexValue_append_singleton (digits : Str) (c : Char) :
    hexValue (digits ++ [c]) = hexValue digits * 16 + hexDigit c := by
  rw [hexValue, List.foldl_append, List.foldl_cons, List.foldl_nil, ← hexValue]

theorem hexValue_hexText (value : Nat) : hexValue (hexText value) = value := by
  induction value using Nat.strongRecOn with
  | ind value ih =>
      by_cases small : value < 16
      · have single := hexValue_append_singleton [] value.digitChar
        rw [hexDigit_digitChar small] at single
        rw [hexText_of_lt small]
        simpa [hexValue] using single
      · rw [hexText_of_le (Nat.le_of_not_lt small), hexValue_append_singleton,
          ih _ (Nat.div_lt_self (by omega) (by decide)),
          hexDigit_digitChar (Nat.mod_lt _ (by decide))]
        omega

theorem hexText_ne_nil (value : Nat) : hexText value ≠ [] := by
  by_cases small : value < 16
  · simp [hexText_of_lt small]
  · simp [hexText_of_le (Nat.le_of_not_lt small)]

/-- Zeros before a number do not change it. -/
theorem hexValue_replicate_append (count : Nat) (digits : Str) :
    hexValue (List.replicate count '0' ++ digits) = hexValue digits := by
  induction count with
  | zero => rfl
  | succ count ih =>
      rw [List.replicate_succ, List.cons_append, ← ih, hexValue, List.foldl_cons]
      rfl

/-! ## `repr` of a string -/

/-- An escape of a fixed number of hexadecimal digits. -/
def hexEscape (letter : Char) (width value : Nat) : Str :=
  '\\' :: letter :: (List.replicate (width - (hexText value).length) '0' ++ hexText value)

def reprChar (printableBeyondAscii : Char → Bool) (quote c : Char) : Str :=
  if c = quote ∨ c = '\\' then ['\\', c]
  else if c = '\t' then ['\\', 't']
  else if c = '\n' then ['\\', 'n']
  else if c = '\r' then ['\\', 'r']
  else if c.toNat < 0x20 ∨ c.toNat = 0x7F then hexEscape 'x' 2 c.toNat
  else if c.toNat < 0x7F ∨ printableBeyondAscii c then [c]
  else if c.toNat < 0x100 then hexEscape 'x' 2 c.toNat
  else if c.toNat < 0x10000 then hexEscape 'u' 4 c.toNat
  else hexEscape 'U' 8 c.toNat

/-- The quotes are double ones only around single ones. -/
def reprText (printableBeyondAscii : Char → Bool) (text : Str) : Str :=
  let quote := if '\'' ∈ text ∧ '"' ∉ text then '"' else '\''
  quote :: text.flatMap (reprChar printableBeyondAscii quote) ++ [quote]

/-! ## `json.dumps` of a string -/

/-- The escape of one code unit, four digits long. -/
def unitEscape (unit : Nat) : Str :=
  '\\' :: 'u' :: (List.replicate (4 - (hexText unit).length) '0' ++ hexText unit)

def jsonChar (c : Char) : Str :=
  if c = '"' then ['\\', '"']
  else if c = '\\' then ['\\', '\\']
  else if c = '\n' then ['\\', 'n']
  else if c = '\r' then ['\\', 'r']
  else if c = '\t' then ['\\', 't']
  else if c.toNat = 0x08 then ['\\', 'b']
  else if c.toNat = 0x0C then ['\\', 'f']
  else if 0x20 ≤ c.toNat ∧ c.toNat ≤ 0x7E then [c]
  else if c.toNat < 0x10000 then unitEscape c.toNat
  else
    unitEscape (0xD800 + (c.toNat - 0x10000) / 0x400) ++
      unitEscape (0xDC00 + (c.toNat - 0x10000) % 0x400)

def jsonString (text : Str) : Str := '"' :: text.flatMap jsonChar ++ ['"']

end AxolotyEmbedded.PythonText
