import Mathlib.Tactic.IntervalCases
import AxolotyEmbedded.Library.Json

/-!
Reading JSON text by recursive descent, and writing the values a device prints: plain
strings, unsigned numbers and objects of them. What is written without white space is
read back as the value it was written from.
-/
namespace AxolotyEmbedded
namespace Json

variable {ν : Type}

def isSpace (u : UInt16) : Bool := u = 0x20 || u = 0x09 || u = 0x0A || u = 0x0D

def skip (input : Text) : Text := input.dropWhile isSpace

/-- The rest after white space and the character `c`. -/
def expect (c : Char) (input : Text) : Option Text :=
  match skip input with
  | u :: rest => if u = unit c then some rest else none
  | [] => none

def keyword (word : String) (input : Text) : Option Text :=
  if text word <+: skip input then some ((skip input).drop word.length) else none

def isDigit (u : UInt16) : Bool := 0x30 ≤ u.toNat && u.toNat ≤ 0x39

def digitsValue (digits : Text) : Nat :=
  Nat.ofDigitChars 10 (digits.map fun u => Char.ofNat u.toNat) 0

def hexValue (u : UInt16) : Option Nat :=
  if isDigit u then some (u.toNat - 0x30)
  else if 0x41 ≤ u.toNat ∧ u.toNat ≤ 0x46 then some (u.toNat - 0x37)
  else if 0x61 ≤ u.toNat ∧ u.toNat ≤ 0x66 then some (u.toNat - 0x57)
  else none

def escaped (u : UInt16) : Option UInt16 :=
  if u = unit '"' ∨ u = unit '\\' ∨ u = unit '/' then some u
  else if u = unit 'b' then some 0x08
  else if u = unit 'f' then some 0x0C
  else if u = unit 'n' then some 0x0A
  else if u = unit 'r' then some 0x0D
  else if u = unit 't' then some 0x09
  else none

/-- A string after its opening quote, and what follows its closing one. -/
def string : Text → Option (Text × Text)
  | [] => none
  | u :: rest =>
    if u = unit '"' then some ([], rest)
    else if u.toNat < 0x20 then none
    else if u = unit '\\' then
      match rest with
      | e :: a :: b :: c :: d :: after =>
        if e = unit 'u' then
          match hexValue a, hexValue b, hexValue c, hexValue d with
          | some a, some b, some c, some d =>
            (string after).map fun r =>
              (UInt16.ofNat (((a * 16 + b) * 16 + c) * 16 + d) :: r.1, r.2)
          | _, _, _, _ => none
        else
          match escaped e with
          | some v => (string (a :: b :: c :: d :: after)).map fun r => (v :: r.1, r.2)
          | none => none
      | e :: after =>
        match escaped e with
        | some v => (string after).map fun r => (v :: r.1, r.2)
        | none => none
      | [] => none
    else (string rest).map fun r => (u :: r.1, r.2)

def fraction : Text → Option (Text × Text)
  | u :: rest =>
    if u = unit '.' then
      if rest.takeWhile isDigit = [] then none
      else some (rest.takeWhile isDigit, rest.dropWhile isDigit)
    else some ([], u :: rest)
  | [] => some ([], [])

/-- The exponent of a numeral, if it has one. -/
def exponent : Text → Option (Option ℤ × Text)
  | u :: rest =>
    if u = unit 'e' ∨ u = unit 'E' then
      let negative := rest.head? = some (unit '-')
      let digits := if negative ∨ rest.head? = some (unit '+') then rest.tail else rest
      if digits.takeWhile isDigit = [] then none
      else
        let size : ℤ := digitsValue (digits.takeWhile isDigit)
        some (some (if negative then -size else size), digits.dropWhile isDigit)
    else some (none, u :: rest)
  | [] => some (none, [])

def numeral (input : Text) : Option (Numeral × Text) := do
  let negative := input.head? = some (unit '-')
  let input := if negative then input.tail else input
  let whole := input.takeWhile isDigit
  if whole = [] ∨ (whole.head? = some (unit '0') ∧ whole ≠ [unit '0']) then none
  let (decimals, rest) ← fraction (input.dropWhile isDigit)
  let (power, rest) ← exponent rest
  let size : ℤ := digitsValue (whole ++ decimals)
  let signed := if negative then -size else size
  if decimals = [] ∧ power = none then some (.integer signed, rest)
  else some (.decimal signed (power.getD 0 - decimals.length), rest)

mutual

/-- Every call consumes a unit of the input, so its length is fuel enough. -/
def value (read : Numeral → ν) : Nat → Text → Option (Json ν × Text)
  | 0, _ => none
  | fuel + 1, input =>
    match expect '{' input with
    | some rest =>
      match expect '}' rest with
      | some rest => some (.obj [], rest)
      | none => (members read fuel rest).map fun r => (.obj r.1, r.2)
    | none =>
      match expect '[' input with
      | some rest =>
        match expect ']' rest with
        | some rest => some (.arr [], rest)
        | none => (elements read fuel rest).map fun r => (.arr r.1, r.2)
      | none =>
        match expect '"' input with
        | some rest => (string rest).map fun r => (.str r.1, r.2)
        | none =>
          match keyword "true" input with
          | some rest => some (.bool true, rest)
          | none =>
            match keyword "false" input with
            | some rest => some (.bool false, rest)
            | none =>
              match keyword "null" input with
              | some rest => some (.null, rest)
              | none => (numeral (skip input)).map fun r => (.num (read r.1), r.2)

/-- The members of an object up to its closing brace. -/
def members (read : Numeral → ν) : Nat → Text → Option (List (Text × Json ν) × Text)
  | 0, _ => none
  | fuel + 1, input => do
    let rest ← expect '"' input
    let (name, rest) ← string rest
    let rest ← expect ':' rest
    let (item, rest) ← value read fuel rest
    match expect '}' rest with
    | some rest => some ([(name, item)], rest)
    | none =>
      let rest ← expect ',' rest
      let (others, rest) ← members read fuel rest
      some ((name, item) :: others, rest)

def elements (read : Numeral → ν) : Nat → Text → Option (List (Json ν) × Text)
  | 0, _ => none
  | fuel + 1, input => do
    let (item, rest) ← value read fuel input
    match expect ']' rest with
    | some rest => some ([item], rest)
    | none =>
      let rest ← expect ',' rest
      let (others, rest) ← elements read fuel rest
      some (item :: others, rest)

end

def parse (read : Numeral → ν) (input : Text) : Option (Json ν) :=
  match value read (input.length + 1) input with
  | some (result, rest) => if skip rest = [] then some result else none
  | none => none

/-! ### Writing -/

def quoted (s : Text) : Text := unit '"' :: s ++ [unit '"']

/-- A string with a backslash before each quote and each backslash. -/
def escape (s : Text) : Text :=
  s.flatMap fun u => if u = unit '"' ∨ u = unit '\\' then [unit '\\', u] else [u]

def decimal (n : Nat) : Text := (Nat.toDigits 10 n).map unit

/-- The members of an object with the texts of their values, and the closing brace. -/
def enclosed : List (Text × Text) → Text
  | [] => [unit '}']
  | [(name, item)] => quoted name ++ unit ':' :: item ++ [unit '}']
  | (name, item) :: others => quoted name ++ unit ':' :: item ++ unit ',' :: enclosed others

def braces (members : List (Text × Text)) : Text := unit '{' :: enclosed members

/-- A string that needs no escape. -/
def Plain (s : Text) : Prop := ∀ u ∈ s, 0x20 ≤ u.toNat ∧ u ≠ unit '"' ∧ u ≠ unit '\\'

instance (s : Text) : Decidable (Plain s) := List.decidableBAll _ s

/-- What may follow a value without changing how it is read. -/
def Follows (rest : Text) : Prop :=
  ∀ u ∈ rest.head?, isDigit u = false ∧ u ≠ unit '.' ∧ u ≠ unit 'e' ∧ u ≠ unit 'E'

/-- Whatever follows it, the text is read as the value. -/
def ReadsAs (read : Numeral → ν) (t : Text) (v : Json ν) : Prop :=
  ∀ fuel rest, t.length ≤ fuel → Follows rest → value read fuel (t ++ rest) = some (v, rest)

theorem skip_cons {u : UInt16} (visible : isSpace u = false) (rest : Text) :
    skip (u :: rest) = u :: rest := by
  simp [skip, visible]

theorem expect_cons {c : Char} (visible : isSpace (unit c) = false) (rest : Text) :
    expect c (unit c :: rest) = some rest := by
  simp [expect, skip_cons visible]

theorem expect_ne {c : Char} {u : UInt16} (visible : isSpace u = false) (other : u ≠ unit c)
    (rest : Text) : expect c (u :: rest) = none := by
  simp [expect, skip_cons visible, other]

theorem keyword_ne (word : String) {u : UInt16} (visible : isSpace u = false)
    (other : (text word).head? ≠ some u) (wordy : text word ≠ []) (rest : Text) :
    keyword word (u :: rest) = none := by
  rw [keyword, skip_cons visible]
  refine if_neg fun starts => ?_
  obtain ⟨tail, whole⟩ := starts
  cases letters : text word with
  | nil => exact wordy letters
  | cons first others =>
      rw [letters, List.cons_append] at whole
      injection whole with same
      exact other (by rw [letters, same]; rfl)

theorem string_quote (rest : Text) : string (unit '"' :: rest) = some ([], rest) := by
  rw [string.eq_def]
  exact if_pos rfl

theorem string_plain {s : Text} (plain : Plain s) (rest : Text) :
    string (s ++ unit '"' :: rest) = some (s, rest) := by
  induction s with
  | nil => exact string_quote rest
  | cons u s ih =>
      obtain ⟨printable, unquoted, unescaped⟩ := plain u List.mem_cons_self
      have others := ih fun v member => plain v (List.mem_cons_of_mem u member)
      rw [List.cons_append, string.eq_def]
      simp only [if_neg unquoted, if_neg (not_lt.mpr printable), if_neg unescaped, others]
      rfl

theorem string_escape {e u : UInt16} (short : e ≠ unit 'u') (escapes : escaped e = some u)
    (rest : Text) :
    string (unit '\\' :: e :: rest) = (string rest).map fun r => (u :: r.1, r.2) := by
  have marker : unit '\\' ≠ unit '"' ∧ ¬ (unit '\\').toNat < 0x20 := by decide
  rw [string.eq_def]
  simp only [if_neg marker.1, if_neg marker.2, if_true]
  split
  · rename_i whole
    obtain ⟨rfl, rfl⟩ := List.cons.inj whole
    simp only [if_neg short, escapes]
  · rename_i whole
    obtain ⟨rfl, rfl⟩ := List.cons.inj whole
    simp only [escapes]
  · rename_i whole
    cases whole

/-- Between quotes the text `t` is read as the string `s`. -/
def QuotedReads (t s : Text) : Prop := ∀ rest, string (t ++ unit '"' :: rest) = some (s, rest)

theorem quotedReads_plain {s : Text} (plain : Plain s) : QuotedReads s s := string_plain plain

theorem quotedReads_escape {s : Text} (printable : ∀ u ∈ s, 0x20 ≤ u.toNat) :
    QuotedReads (escape s) s := by
  induction s with
  | nil => exact string_quote
  | cons u s ih =>
      intro rest
      have others := ih (fun v member => printable v (List.mem_cons_of_mem u member)) rest
      rw [escape, List.flatMap_cons, ← escape]
      split
      · rename_i special
        have escapes : escaped u = some u :=
          if_pos (special.imp_right .inl)
        have short : u ≠ unit 'u' := by
          rintro rfl
          revert special
          decide
        rw [List.append_assoc, List.cons_append, List.singleton_append,
          string_escape short escapes, others]
        rfl
      · rename_i plain
        obtain ⟨unquoted, unescaped⟩ := not_or.mp plain
        have visible := printable u List.mem_cons_self
        rw [List.append_assoc, List.singleton_append, string.eq_def]
        simp only [if_neg unquoted, if_neg (not_lt.mpr visible), if_neg unescaped, others]
        rfl

theorem readsAs_quoted_of {read : Numeral → ν} {t s : Text} (reads : QuotedReads t s) :
    ReadsAs read (quoted t) (.str s) := by
  intro fuel rest enough follows
  cases fuel with
  | zero => simp [quoted] at enough
  | succ fuel =>
      have whole : quoted t ++ rest = unit '"' :: (t ++ unit '"' :: rest) := by simp [quoted]
      rw [whole, value, expect_ne (by decide) (by decide), expect_ne (by decide) (by decide),
        expect_cons (by decide)]
      dsimp only
      rw [reads]
      rfl

theorem readsAs_quoted (read : Numeral → ν) {s : Text} (plain : Plain s) :
    ReadsAs read (quoted s) (.str s) :=
  readsAs_quoted_of (quotedReads_plain plain)

theorem toNat_of_isDigit {c : Char} (digit : c.isDigit = true) : 48 ≤ c.toNat ∧ c.toNat ≤ 57 := by
  simp only [Char.isDigit, Bool.and_eq_true, decide_eq_true_eq, ge_iff_le,
    UInt32.le_iff_toNat_le] at digit
  exact digit

theorem toNat_unit {c : Char} (digit : c.isDigit = true) : (unit c).toNat = c.toNat := by
  have bounds := toNat_of_isDigit digit
  simp only [unit, UInt16.toNat_ofNat']
  omega

theorem isDigit_unit {c : Char} (digit : c.isDigit = true) : isDigit (unit c) = true := by
  have bounds := toNat_of_isDigit digit
  simp only [isDigit, toNat_unit digit, Bool.and_eq_true, decide_eq_true_eq]
  omega

theorem isDigit_of_mem_decimal {n : Nat} {u : UInt16} (member : u ∈ decimal n) :
    isDigit u = true := by
  obtain ⟨c, digit, rfl⟩ := List.mem_map.mp member
  exact isDigit_unit (Nat.isDigit_of_mem_toDigits (by omega) (le_refl _) digit)

theorem digitsValue_decimal (n : Nat) : digitsValue (decimal n) = n := by
  have back : (decimal n).map (fun u => Char.ofNat u.toNat) = Nat.toDigits 10 n := by
    rw [decimal, List.map_map]
    conv_rhs => rw [← List.map_id (Nat.toDigits 10 n)]
    apply List.map_congr_left
    intro c member
    have digit := Nat.isDigit_of_mem_toDigits (by omega) (le_refl _) member
    simp [toNat_unit digit]
  rw [digitsValue, back, Nat.ofDigitChars_ten_toDigits]

theorem decimal_injective : Function.Injective decimal := by
  intro m n same
  rw [← digitsValue_decimal m, same, digitsValue_decimal]

theorem decimal_ne_nil (n : Nat) : decimal n ≠ [] := by
  simp [decimal]

theorem head_toDigits_ne_zero {n : Nat} (positive : 0 < n) :
    (Nat.toDigits 10 n).head? ≠ some '0' := by
  induction n using Nat.strongRecOn with
  | ind n ih =>
      rw [Nat.toDigits_eq_if (by omega)]
      split
      · next small =>
          interval_cases n <;> decide
      · next large =>
          rw [List.head?_append_of_ne_nil _ Nat.toDigits_ne_nil]
          exact ih (n / 10) (by omega) (by omega)

/-- A number is written without a leading zero. -/
theorem decimal_leading (n : Nat) :
    ¬((decimal n).head? = some (unit '0') ∧ decimal n ≠ [unit '0']) := by
  rintro ⟨leading, longer⟩
  by_cases zero : n = 0
  · subst zero
    exact longer rfl
  · refine head_toDigits_ne_zero (Nat.pos_of_ne_zero zero) ?_
    rw [decimal, List.head?_map, Option.map_eq_some_iff] at leading
    obtain ⟨c, head, same⟩ := leading
    have digit : c.isDigit = true :=
      Nat.isDigit_of_mem_toDigits (by omega) (le_refl _) (List.mem_of_mem_head? head)
    have value : c.toNat = '0'.toNat := by
      rw [← toNat_unit digit, same]
      rfl
    rw [head, Char.toNat_inj.mp value]

theorem span_decimal {n : Nat} {rest : Text} (follows : Follows rest) :
    (decimal n ++ rest).takeWhile isDigit = decimal n ∧
      (decimal n ++ rest).dropWhile isDigit = rest := by
  have digits : ∀ u ∈ decimal n, isDigit u = true := fun u => isDigit_of_mem_decimal
  rw [List.takeWhile_append_of_pos digits, List.dropWhile_append_of_pos digits]
  cases rest with
  | nil => simp
  | cons u rest =>
      have stops : isDigit u = false := (follows u rfl).1
      simp [stops]

theorem fraction_follows {rest : Text} (follows : Follows rest) :
    fraction rest = some ([], rest) := by
  cases rest with
  | nil => rfl
  | cons u rest => exact if_neg (follows u rfl).2.1

theorem exponent_follows {rest : Text} (follows : Follows rest) :
    exponent rest = some (none, rest) := by
  cases rest with
  | nil => rfl
  | cons u rest => exact if_neg (not_or.mpr (follows u rfl).2.2)

theorem numeral_decimal (n : Nat) {rest : Text} (follows : Follows rest) :
    numeral (decimal n ++ rest) = some (.integer n, rest) := by
  have unsigned : ¬(decimal n ++ rest).head? = some (unit '-') := by
    rw [List.head?_append_of_ne_nil _ (decimal_ne_nil n)]
    intro sign
    exact absurd (isDigit_of_mem_decimal (List.mem_of_mem_head? sign)) (by decide)
  obtain ⟨digits, others⟩ := span_decimal (n := n) follows
  simp only [numeral, if_neg unsigned, digits, others, decimal_leading, decimal_ne_nil, or_self,
    if_false, fraction_follows follows, exponent_follows follows, List.append_nil,
    digitsValue_decimal, and_self, if_true, Option.bind_eq_bind, Option.bind_some]

theorem visible_of_isDigit {u : UInt16} (digit : isDigit u = true) : isSpace u = false := by
  simp only [isDigit, Bool.and_eq_true, decide_eq_true_eq] at digit
  simp only [isSpace, Bool.or_eq_false_iff, decide_eq_false_iff_not, ← UInt16.toNat_inj]
  simp only [UInt16.reduceToNat]
  omega

theorem readsAs_decimal (read : Numeral → ν) (n : Nat) :
    ReadsAs read (decimal n) (.num (read (.integer n))) := by
  intro fuel rest enough follows
  cases digits : decimal n with
  | nil => exact absurd digits (decimal_ne_nil n)
  | cons u others =>
      have digit : isDigit u = true := isDigit_of_mem_decimal (n := n) (by simp [digits])
      have visible : isSpace u = false := visible_of_isDigit digit
      have other : ∀ c : Char, isDigit (unit c) = false → u ≠ unit c := by
        intro c marker same
        rw [same, marker] at digit
        cases digit
      have wordless : ∀ c : Char, isDigit (unit c) = false → some (unit c) ≠ some u := by
        intro c marker same
        exact other c marker (Option.some.inj same).symm
      cases fuel with
      | zero => simp [digits] at enough
      | succ fuel =>
          have number := numeral_decimal n follows
          rw [digits, List.cons_append] at number
          rw [List.cons_append, value, expect_ne visible (other _ (by decide)),
            expect_ne visible (other _ (by decide)), expect_ne visible (other _ (by decide)),
            keyword_ne "true" visible (wordless 't' (by decide)) (by decide),
            keyword_ne "false" visible (wordless 'f' (by decide)) (by decide),
            keyword_ne "null" visible (wordless 'n' (by decide)) (by decide),
            skip_cons visible, number]
          rfl

/-- The names and the texts of an object's members are read as the given names and values. -/
def MembersReadAs (read : Numeral → ν) (members : List (Text × Text))
    (values : List (Text × Json ν)) : Prop :=
  List.Forall₂ (fun m v => QuotedReads m.1 v.1 ∧ ReadsAs read m.2 v.2) members values

/-- The texts of an object's members are read as the given values. -/
def MembersRead (read : Numeral → ν) (members : List (Text × Text))
    (values : List (Text × Json ν)) : Prop :=
  List.Forall₂ (fun m v => m.1 = v.1 ∧ Plain m.1 ∧ ReadsAs read m.2 v.2) members values

theorem MembersRead.readAs {read : Numeral → ν} {members : List (Text × Text)}
    {values : List (Text × Json ν)} (reads : MembersRead read members values) :
    MembersReadAs read members values :=
  reads.imp fun _ _ entry => ⟨entry.1 ▸ quotedReads_plain entry.2.1, entry.2.2⟩

theorem follows_cons {c : Char} (stops : isDigit (unit c) = false)
    (other : unit c ≠ unit '.' ∧ unit c ≠ unit 'e' ∧ unit c ≠ unit 'E') (rest : Text) :
    Follows (unit c :: rest) := by
  intro u head
  obtain rfl : unit c = u := Option.some.inj head
  exact ⟨stops, other⟩

/-- One member is read up to what follows its value. -/
theorem members_member {read : Numeral → ν} {name written item : Text} {result : Json ν}
    (named : QuotedReads written name) (reads : ReadsAs read item result) {fuel : Nat} {rest : Text}
    (enough : item.length ≤ fuel) (follows : Follows rest) :
    members read (fuel + 1) (quoted written ++ unit ':' :: item ++ rest) =
      match expect '}' rest with
      | some rest => some ([(name, result)], rest)
      | none => (expect ',' rest).bind fun rest =>
        (members read fuel rest).bind fun r => some ((name, result) :: r.1, r.2) := by
  have whole : quoted written ++ unit ':' :: item ++ rest =
      unit '"' :: (written ++ unit '"' :: (unit ':' :: (item ++ rest))) := by simp [quoted]
  rw [whole, members, expect_cons (by decide)]
  simp only [Option.bind_eq_bind, Option.bind_some]
  rw [named]
  simp only [Option.bind_some]
  rw [expect_cons (by decide)]
  simp only [Option.bind_some]
  rw [reads fuel rest enough follows]
  rfl

theorem members_enclosed_of {read : Numeral → ν} {texts : List (Text × Text)}
    {values : List (Text × Json ν)} (reads : MembersReadAs read texts values)
    (nonempty : texts ≠ []) (fuel : Nat) (rest : Text)
    (enough : (enclosed texts).length ≤ fuel) :
    members read fuel (enclosed texts ++ rest) = some (values, rest) := by
  induction reads generalizing fuel with
  | nil => exact absurd rfl nonempty
  | @cons m v others values entry reads ih =>
      obtain ⟨written, item⟩ := m
      obtain ⟨name, result⟩ := v
      obtain ⟨named, reads_item⟩ := entry
      dsimp only at reads_item named
      cases others with
      | nil =>
          cases reads
          have size : item.length + 2 ≤ fuel := by
            simp only [enclosed, quoted, List.length_append, List.length_cons] at enough
            omega
          obtain ⟨spent, rfl⟩ := Nat.exists_eq_add_of_le' (le_trans (Nat.le_add_left 1 _) size)
          have whole : enclosed [(written, item)] ++ rest =
              quoted written ++ unit ':' :: item ++ unit '}' :: rest := by simp [enclosed]
          rw [whole, members_member named reads_item (by omega)
            (follows_cons (by decide) (by decide) rest), expect_cons (by decide)]
      | cons next others =>
          have size : item.length + (enclosed (next :: others)).length + 2 ≤ fuel := by
            simp only [enclosed, quoted, List.length_append, List.length_cons] at enough
            omega
          obtain ⟨spent, rfl⟩ := Nat.exists_eq_add_of_le' (le_trans (Nat.le_add_left 1 _) size)
          have whole : enclosed ((written, item) :: next :: others) ++ rest =
              quoted written ++ unit ':' :: item ++ unit ',' :: (enclosed (next :: others) ++ rest) := by
            simp [enclosed]
          rw [whole, members_member named reads_item (by omega)
            (follows_cons (by decide) (by decide) _), expect_ne (by decide) (by decide),
            expect_cons (by decide)]
          simp only [Option.bind_some]
          rw [ih (List.cons_ne_nil next others) spent (by omega)]
          rfl

theorem readsAs_braces_of {read : Numeral → ν} {texts : List (Text × Text)}
    {values : List (Text × Json ν)} (reads : MembersReadAs read texts values)
    (nonempty : texts ≠ []) : ReadsAs read (braces texts) (.obj values) := by
  intro fuel rest enough _
  cases fuel with
  | zero => simp [braces] at enough
  | succ fuel =>
      have opened : ∃ tail, enclosed texts = unit '"' :: tail := by
        cases texts with
        | nil => exact absurd rfl nonempty
        | cons m others =>
            cases others with
            | nil => exact ⟨_, rfl⟩
            | cons next others => exact ⟨_, rfl⟩
      obtain ⟨tail, first⟩ := opened
      have inside := members_enclosed_of reads nonempty fuel rest (by
        simp only [braces, List.length_cons] at enough
        omega)
      rw [braces, List.cons_append, value, expect_cons (by decide)]
      dsimp only
      rw [first, List.cons_append] at inside ⊢
      rw [expect_ne (by decide) (by decide)]
      dsimp only
      rw [inside]
      rfl

theorem readsAs_braces {read : Numeral → ν} {texts : List (Text × Text)}
    {values : List (Text × Json ν)} (reads : MembersRead read texts values)
    (nonempty : texts ≠ []) : ReadsAs read (braces texts) (.obj values) :=
  readsAs_braces_of reads.readAs nonempty

/-- A whole text that is read as a value is parsed to it. -/
theorem parse_of_readsAs {read : Numeral → ν} {t : Text} {v : Json ν}
    (reads : ReadsAs read t v) : parse read t = some v := by
  have whole := reads (t.length + 1) [] (Nat.le_succ _) (fun u head => by cases head)
  rw [List.append_nil] at whole
  rw [parse, whole]
  rfl

end Json
end AxolotyEmbedded
