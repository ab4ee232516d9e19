import Mathlib.Data.List.Infix

/-!
The parts of Python's `bytes` that readers of a capture use: `splitlines(keepends=True)`,
`strip`, and the search for a part. The kept lines of a capture are the capture, those of its
first lines are these lines, and after a line feed the lines of what is appended follow.
-/
namespace AxolotyEmbedded.ByteLines

abbrev Bytes := List UInt8

/-- The bytes of an ASCII literal of the source. -/
def ascii (literal : String) : Bytes := literal.toList.map fun c => UInt8.ofNat c.toNat

/-- The blanks of `bytes.strip`. -/
def isBlank (b : UInt8) : Bool := b = 0x20 || (0x09 ≤ b && b ≤ 0x0D)

/-- `line.strip()`. -/
def strip (line : Bytes) : Bytes :=
  ((line.dropWhile isBlank).reverse.dropWhile isBlank).reverse

/-- `part in line`. -/
def contains (part line : Bytes) : Bool := line.tails.any part.isPrefixOf

def isLineEnd (b : UInt8) : Bool := b = 0x0A || b = 0x0D

/-- The lines with their ends, `line` read of the first one, the last byte first. -/
def keptLinesFrom (line : Bytes) : Bytes → List Bytes
  | [] => if line.isEmpty then [] else [line.reverse]
  | 0x0D :: 0x0A :: raw => (0x0A :: 0x0D :: line).reverse :: keptLinesFrom [] raw
  | b :: raw =>
      if isLineEnd b then (b :: line).reverse :: keptLinesFrom [] raw
      else keptLinesFrom (b :: line) raw

/-- `raw.splitlines(keepends=True)`. -/
def keptLines (raw : Bytes) : List Bytes := keptLinesFrom [] raw

theorem keptLinesFrom_ends {b : UInt8} {line raw : Bytes} (ends : isLineEnd b = true)
    (other : b = 0x0D → raw.head? ≠ some 0x0A) :
    keptLinesFrom line (b :: raw) = (b :: line).reverse :: keptLinesFrom [] raw := by
  rw [keptLinesFrom, if_pos ends]
  rintro next carriage rfl
  exact other carriage rfl

theorem keptLinesFrom_goesOn {b : UInt8} {line raw : Bytes} (goesOn : isLineEnd b = false) :
    keptLinesFrom line (b :: raw) = keptLinesFrom (b :: line) raw := by
  rw [keptLinesFrom, if_neg (by simp [goesOn])]
  rintro next rfl -
  cases goesOn

/-- A line feed alone or one after a carriage return ends a line in one way each. -/
@[elab_as_elim]
theorem keptLinesFrom_induction {motive : Bytes → Bytes → Prop}
    (nil : ∀ line, motive line [])
    (crlf : ∀ line raw, motive [] raw → motive line (0x0D :: 0x0A :: raw))
    (ends : ∀ line b raw, isLineEnd b = true → (b = 0x0D → raw.head? ≠ some 0x0A) →
      motive [] raw → motive line (b :: raw))
    (goesOn : ∀ line b raw, isLineEnd b = false → motive (b :: line) raw → motive line (b :: raw))
    (line raw : Bytes) : motive line raw := by
  induction line, raw using keptLinesFrom.induct with
  | case1 line _ => exact nil line
  | case2 line _ => exact nil line
  | case3 line raw ih => exact crlf line raw ih
  | case4 line b raw other ended ih =>
      refine ends line b raw ended (fun carriage feed => ?_) ih
      obtain ⟨rest, rfl⟩ := List.head?_eq_some_iff.mp feed
      exact other rest carriage rfl
  | case5 line b raw _ still ih => exact goesOn line b raw (by simpa using still) ih

theorem flatten_keptLinesFrom (line raw : Bytes) :
    (keptLinesFrom line raw).flatten = line.reverse ++ raw := by
  induction line, raw using keptLinesFrom_induction with
  | nil line => cases line <;> simp [keptLinesFrom]
  | crlf line raw ih => simp [keptLinesFrom, ih]
  | ends line b raw ends other ih => simp [keptLinesFrom_ends ends other, ih]
  | goesOn line b raw goesOn ih => simp [keptLinesFrom_goesOn goesOn, ih]

/-- Nothing of a capture is lost in its lines. -/
theorem flatten_keptLines (raw : Bytes) : (keptLines raw).flatten = raw :=
  flatten_keptLinesFrom [] raw

/-- After a line feed a new line begins, whatever is appended. -/
theorem keptLinesFrom_ended {line raw : Bytes} (ended : raw.getLast? = some 0x0A)
    (suffix : Bytes) :
    keptLinesFrom line (raw ++ suffix) = keptLinesFrom line raw ++ keptLines suffix := by
  induction line, raw using keptLinesFrom_induction with
  | nil => cases ended
  | crlf line raw ih =>
      have later : keptLinesFrom [] (raw ++ suffix) = keptLinesFrom [] raw ++ keptLines suffix := by
        cases raw with
        | nil => rfl
        | cons b raw => exact ih (by simpa using ended)
      simp [keptLinesFrom, later]
  | ends line b raw ends other ih =>
      cases raw with
      | nil =>
          obtain rfl := Option.some.inj ended
          have carriage : (0x0A : UInt8) = 0x0D → suffix.head? ≠ some 0x0A := fun same =>
            absurd same (by decide)
          rw [List.singleton_append, keptLinesFrom_ends ends carriage, keptLinesFrom_ends ends other]
          rfl
      | cons next raw =>
          have later := ih (by simpa using ended)
          rw [List.cons_append, keptLinesFrom_ends ends (by simpa using other),
            keptLinesFrom_ends ends other, later, List.cons_append]
  | goesOn line b raw goesOn ih =>
      cases raw with
      | nil =>
          obtain rfl := Option.some.inj ended
          cases goesOn
      | cons next raw =>
          rw [List.cons_append, keptLinesFrom_goesOn goesOn, keptLinesFrom_goesOn goesOn,
            ih (by simpa using ended)]

theorem keptLines_append {raw : Bytes} (ended : raw.getLast? = some 0x0A) (suffix : Bytes) :
    keptLines (raw ++ suffix) = keptLines raw ++ keptLines suffix :=
  keptLinesFrom_ended ended suffix

theorem keptLinesFrom_append {piece : Bytes} (unended : ∀ b ∈ piece, isLineEnd b = false)
    (line raw : Bytes) :
    keptLinesFrom line (piece ++ raw) = keptLinesFrom (piece.reverse ++ line) raw := by
  induction piece generalizing line with
  | nil => rfl
  | cons b piece ih =>
      rw [List.cons_append, keptLinesFrom_goesOn (unended b List.mem_cons_self),
        ih fun d inside => unended d (List.mem_cons_of_mem _ inside),
        List.reverse_cons, List.append_assoc, List.singleton_append]

theorem keptLines_reverse_append {line : Bytes} (unended : ∀ b ∈ line, isLineEnd b = false)
    (raw : Bytes) : keptLines (line.reverse ++ raw) = keptLinesFrom line raw := by
  have whole := keptLinesFrom_append (fun b held => unended b (List.mem_reverse.mp held)) [] raw
  rwa [List.reverse_reverse, List.append_nil] at whole

theorem head_flatten_take {raw : Bytes} {count : Nat} {b : UInt8}
    (first : ((keptLines raw).take count).flatten.head? = some b) : raw.head? = some b := by
  have whole : ((keptLines raw).take count).flatten ++ ((keptLines raw).drop count).flatten = raw := by
    rw [← List.flatten_append, List.take_append_drop, flatten_keptLines]
  rw [← whole, List.head?_append, first]
  rfl

/-- The first lines of a capture are the lines of its beginning. -/
theorem keptLines_flatten_take {line raw : Bytes} (unended : ∀ b ∈ line, isLineEnd b = false)
    (count : Nat) :
    keptLines ((keptLinesFrom line raw).take count).flatten =
      (keptLinesFrom line raw).take count := by
  induction line, raw using keptLinesFrom_induction generalizing count with
  | nil line =>
      cases count with
      | zero => rfl
      | succ count =>
          cases line with
          | nil => rfl
          | cons b line =>
              have whole := keptLines_reverse_append unended []
              rw [List.append_nil] at whole
              simpa [keptLinesFrom] using whole
  | crlf line raw ih =>
      cases count with
      | zero => rfl
      | succ count =>
          have later := ih (by simp) count
          have split : (0x0A :: 0x0D :: line).reverse ++ ((keptLinesFrom [] raw).take count).flatten =
              line.reverse ++ 0x0D :: 0x0A :: ((keptLinesFrom [] raw).take count).flatten := by simp
          rw [keptLinesFrom, List.take_succ_cons, List.flatten_cons, split,
            keptLines_reverse_append unended, keptLinesFrom, ← keptLines, later]
  | ends line b raw ends other ih =>
      cases count with
      | zero => rfl
      | succ count =>
          have later := ih (by simp) count
          have split : (b :: line).reverse ++ ((keptLinesFrom [] raw).take count).flatten =
              line.reverse ++ b :: ((keptLinesFrom [] raw).take count).flatten := by simp
          have kept : b = 0x0D →
              ((keptLinesFrom [] raw).take count).flatten.head? ≠ some 0x0A := fun carriage feed =>
            other carriage (head_flatten_take feed)
          rw [keptLinesFrom_ends ends other, List.take_succ_cons, List.flatten_cons, split,
            keptLines_reverse_append unended, keptLinesFrom_ends ends kept, ← keptLines, later]
  | goesOn line b raw goesOn ih =>
      have extended : ∀ c ∈ b :: line, isLineEnd c = false := by
        intro c held
        obtain rfl | inside := List.mem_cons.mp held
        · exact goesOn
        · exact unended c inside
      rw [keptLinesFrom_goesOn goesOn]
      exact ih extended count

theorem keptLines_flatten_of_append {raw : Bytes} {read later : List Bytes}
    (split : keptLines raw = read ++ later) : keptLines read.flatten = read := by
  have first : (keptLines raw).take read.length = read := by rw [split, List.take_left]
  have whole : keptLines ((keptLines raw).take read.length).flatten = _ :=
    keptLines_flatten_take (by simp) read.length
  rwa [← keptLines, first] at whole

end AxolotyEmbedded.ByteLines
