import AxolotyEmbedded.Interval.Faithful

/-!
The values that an instruction is taken to write against the words that it writes: where
each member of the operands is harmless, the value stands for the word, and of operands
with one member exactly there.
-/
namespace AxolotyEmbedded.Interval

open Words PythonText

/-! ## RV32 -/

/-- The instructions with two operands. -/
def rv32 (m : Str) : Option Operation :=
  if m ∈ texts "addi c.addi c.addi16sp c.addi4spn add c.add" then some .add
  else if m ∈ texts "sub c.sub" then some .sub
  else if m ∈ texts "slli c.slli" then some .shiftLeft
  else if m ∈ texts "srli c.srli" then some .shiftRight
  else if m ∈ texts "xori xor c.xor" then some .xor
  else if m ∈ texts "ori or c.or" then some .or
  else if m ∈ texts "and c.and" then some .and
  else if m ∈ texts "slti slt" then some .less
  else if m ∈ texts "sltiu sltu" then some .lessUnsigned
  else none

/-- Loads of the lowest bytes of a word. -/
def rv32Load (m : Str) : Option (Word → Word) :=
  if m = "lb".toList then some fun u => (u.setWidth 8).signExtend 32
  else if m = "lbu".toList then some fun u => (u.setWidth 8).setWidth 32
  else if m = "lh".toList then some fun u => (u.setWidth 16).signExtend 32
  else if m = "lhu".toList then some fun u => (u.setWidth 16).setWidth 32
  else if m ∈ texts "lw c.lw c.lwsp" then some id
  else none

def rv32Mnemonics : List Str :=
  texts "addi c.addi c.addi16sp c.addi4spn add c.add sub c.sub slli c.slli srli c.srli" ++
    texts "xori xor c.xor ori or c.or and c.and slti slt sltiu sltu"

theorem mem_rv32Mnemonics {m : Str} {op : Operation} (instruction : rv32 m = some op) :
    m ∈ rv32Mnemonics := by
  have covered : ∀ m ∉ rv32Mnemonics, rv32 m = none := by
    intro m absent
    have parts : rv32Mnemonics =
        texts "addi c.addi c.addi16sp c.addi4spn add c.add" ++ texts "sub c.sub" ++
          texts "slli c.slli" ++ texts "srli c.srli" ++ texts "xori xor c.xor" ++
          texts "ori or c.or" ++ texts "and c.and" ++ texts "slti slt" ++
          texts "sltiu sltu" := by decide
    rw [parts] at absent
    simp only [List.mem_append, not_or] at absent
    simp only [rv32, absent, if_false]
  by_contra absent
  rw [covered m absent] at instruction
  cases instruction

theorem operationOf_of_rv32 {m : Str} {op : Operation} (instruction : rv32 m = some op) :
    (operationOf m).map Prod.fst = some op := by
  have every : ∀ m ∈ rv32Mnemonics, (operationOf m).map Prod.fst = rv32 m := by decide
  rw [every m (mem_rv32Mnemonics instruction), instruction]

/-- The amount of a shift is an immediate of five bits. -/
def Encodable (op : Operation) (right : Value) : Prop :=
  op.Shifts → ∃ n, right = const n ∧ 0 ≤ n ∧ n < 32

/-- The words that an instruction can write where its operands are among those that the
values stand for. Immediates are those that an instruction can encode. -/
def Transfer.Yields (reading : Reading) (w : Word) : Transfer → Prop
  | .binary m left right =>
      ∃ op u v, rv32 m = some op ∧ Encodable op right ∧ reading.Stands left u ∧
        reading.Stands right v ∧ op.word u v = w
  | .andi left mask =>
      ∃ u, -2048 ≤ mask ∧ mask < 2048 ∧ reading.Stands left u ∧ u &&& BitVec.ofInt 32 mask = w
  | .load m loaded => ∃ f u, rv32Load m = some f ∧ reading.Stands loaded u ∧ f u = w
  | .lui immediate => 0 ≤ immediate ∧ immediate < 2 ^ 20 ∧ BitVec.ofInt 32 immediate <<< 12 = w
  | .auipc pc immediate => BitVec.ofInt 32 pc + BitVec.ofInt 32 immediate <<< 12 = w
  | .li immediate => BitVec.ofInt 32 immediate = w
  | .mv value => reading.Stands value w
  | .unknown => True

def Transfer.Sound (t : Transfer) : Prop :=
  ∀ reading w, t.Yields reading w → reading.Stands t.value w

/-! ## Two operands -/

/-- Pairs of words and faithful pairs, unless a member makes the result unknown. -/
def Combines (op : Operation) (left right : Value) : Prop :=
  ∀ a b, left = some a → right = some b →
    (∃ x ∈ a ∪ b, x < -(2 ^ 32)) ∨
      ∀ x ∈ a, ∀ y ∈ b, ¬IsLarge x ∧ ¬IsLarge y ∨ op.Faithful x y

theorem encodes_of_encodable {op : Operation} {b : Finset Int} (encodable : Encodable op (some b))
    {y : Int} (member : y ∈ b) : op.Encodes y := by
  intro shifts
  cases encodable shifts with
  | intro n amount =>
      cases amount.1
      rw [Finset.mem_singleton.mp member]
      exact amount.2

theorem stands_arithmetic {op : Operation} {left right : Value} {reading : Reading} {u v : Word}
    (encodable : Encodable op right) (combines : Combines op left right)
    (first : reading.Stands left u) (second : reading.Stands right v) :
    reading.Stands (arithmetic left right op.apply) (op.word u v) := by
  match left, right with
  | none, _ => exact stands_none
  | some a, none => exact stands_none
  | some a, some b =>
      rw [stands_some] at first second
      simp only [arithmetic]
      split
      · exact stands_none
      · next deep =>
          split
          · obtain ⟨x, inFirst, rfl⟩ := first
            obtain ⟨y, inSecond, rfl⟩ := second
            have shallow : ∀ z ∈ a ∪ b, -(2 ^ 32) ≤ z := by
              intro z member
              by_contra below
              exact deep ⟨z, member, Int.not_le.mp below⟩
            have pair := (combines a b rfl rfl).resolve_left deep x inFirst y inSecond
            rw [stands_some]
            refine ⟨combine op.apply x y, ?_, ?_⟩
            · exact Finset.mem_image.mpr ⟨(x, y), Finset.mk_mem_product inFirst inSecond, rfl⟩
            · exact (combine_exact op (shallow x (Finset.mem_union_left b inFirst))
                (shallow y (Finset.mem_union_right a inSecond))
                (encodes_of_encodable encodable inSecond)).mpr pair reading
          · exact stands_none

theorem arithmetic_const (operation : Int → Int → Int) (x y : Int) :
    arithmetic (const x) (const y) operation =
      if x < -(2 ^ 32) ∨ y < -(2 ^ 32) then none else const (combine operation x y) := by
  simp [arithmetic, const]

theorem combines_of_stands {op : Operation} {x y : Int} (encodes : op.Encodes y)
    (stands : ∀ reading : Reading,
      reading.Stands (arithmetic (const x) (const y) op.apply)
        (op.word (reading.word x) (reading.word y))) :
    Combines op (const x) (const y) := by
  intro a b left right
  cases left
  cases right
  by_cases deep : ∃ z ∈ ({x} ∪ {y} : Finset Int), z < -(2 ^ 32)
  · exact .inl deep
  · right
    intro x' inFirst y' inSecond
    rw [Finset.mem_singleton] at inFirst inSecond
    subst inFirst
    subst inSecond
    have shallow : -(2 ^ 32) ≤ x' ∧ -(2 ^ 32) ≤ y' := by
      simp only [Finset.mem_union, Finset.mem_singleton, not_exists, not_and, not_lt] at deep
      exact ⟨deep x' (.inl rfl), deep y' (.inr rfl)⟩
    rw [← combine_exact op shallow.1 shallow.2 encodes]
    intro reading
    have here := stands reading
    rw [arithmetic_const, if_neg (by omega), const, stands_some] at here
    simpa using here

/-! ## Loads -/

/-- The members that a load of so many bits leaves right. -/
def Narrow (m : Str) (bits : Nat) (x : Int) : Prop :=
  ¬IsToken x ∧ ¬IsStack x ∧
    if m ∈ texts "lb lh" then
      if x < 2 ^ (bits - 1) then low (x + 2 ^ (bits - 1)) < 2 ^ bits
      else x < 3 * 2 ^ (bits - 1)
    else low x < 2 ^ bits

instance decidableNarrow (m : Str) (bits : Nat) (x : Int) : Decidable (Narrow m bits x) :=
  inferInstanceAs (Decidable (_ ∧ _ ∧ _))

/-- What a load makes of a member. -/
def extendMember (m : Str) (size : Nat) (x : Int) : Int :=
  if m ∈ texts "lb lh" then
    low (if x < 2 ^ (size * 8 - 1) then x else x - 2 ^ (size * 8))
  else x

theorem extend_eq (m : Str) (size : Nat) (value : Value) :
    extend m size value = value.map fun values => values.image (extendMember m size) := by
  by_cases signed : m ∈ texts "lb lh"
  · have member : extendMember m size = fun v =>
        low (if v < 2 ^ (size * 8 - 1) then v else v - 2 ^ (size * 8)) := by
      funext x
      exact if_pos signed
    rw [extend, if_pos signed, member]
  · have member : extendMember m size = id := by
      funext x
      exact if_neg signed
    rw [extend, if_neg signed, member]
    cases value with
    | none => rfl
    | some values => exact congrArg some Finset.image_id.symm

theorem word_any {x : Int} (symbol : IsToken x ∨ IsStack x) (w : Word) :
    ∃ reading : Reading, reading.word x = w := by
  cases symbol with
  | inl token => exact ⟨⟨0, fun _ => w⟩, if_pos token⟩
  | inr stack =>
      refine ⟨⟨w - BitVec.ofInt 32 x, fun _ => 0⟩, ?_⟩
      rw [word_of_isStack _ stack]
      exact BitVec.sub_add_cancel w _

/-- No load of fewer bits than a word is the same for all words. -/
theorem word_ne_of_symbol {x : Int} (symbol : IsToken x ∨ IsStack x) {f : Word → Word} {z : Word}
    (varies : f 0#32 ≠ f (BitVec.allOnes 32)) :
    ¬∀ reading : Reading, z = f (reading.word x) := by
  intro same
  obtain ⟨none, zero⟩ := word_any symbol 0#32
  obtain ⟨all, ones⟩ := word_any symbol (BitVec.allOnes 32)
  apply varies
  rw [← zero, ← ones, ← same none, ← same all]

theorem signed_exact {m : Str} {size : Nat} {x : Int} (narrow : size = 1 ∨ size = 2)
    (signed : m ∈ texts "lb lh") :
    (∀ reading : Reading, reading.word (extendMember m size x) =
      ((reading.word x).setWidth (size * 8)).signExtend 32) ↔ Narrow m (size * 8) x := by
  have known (reading : Reading) : reading.word (extendMember m size x) =
      BitVec.ofInt 32 (extendMember m size x) := by
    rw [extendMember, if_pos signed]
    generalize (if x < 2 ^ (size * 8 - 1) then x else x - 2 ^ (size * 8)) = e
    have := low_nonneg e
    have := low_lt e
    apply word_of_plain
    · exact not_isToken_of_le (by omega)
    · simp only [IsStack]
      omega
  simp only [known]
  by_cases symbol : IsToken x ∨ IsStack x
  · apply iff_of_false
    · apply word_ne_of_symbol (f := fun u => (u.setWidth (size * 8)).signExtend 32) symbol
      cases narrow with
      | inl one => subst one; decide
      | inr two => subst two; decide
    · intro narrow
      exact symbol.elim narrow.1 narrow.2.1
  · simp only [not_or] at symbol
    have plain (reading : Reading) := word_of_plain reading symbol.1 symbol.2
    have some_reading : Nonempty Reading := ⟨⟨0, fun _ => 0⟩⟩
    simp only [plain, forall_const, signExtend_setWidth x (show size * 8 ≤ 32 by omega),
      ofInt_eq_iff, Narrow, if_pos signed, extendMember, symbol, not_false_eq_true, true_and]
    simp only [IsStack] at symbol
    rcases narrow with rfl | rfl
    -- The reading from the high bit on against the member as it is stored.
    all_goals
      simp only [low, Int.bmod_def]
      split
      · split
        · omega
        · omega
      · split
        · omega
        · omega

theorem unsigned_exact {m : Str} {size : Nat} {x : Int} (narrow : size = 1 ∨ size = 2)
    (unsigned : m ∉ texts "lb lh") :
    (∀ reading : Reading, reading.word (extendMember m size x) =
      ((reading.word x).setWidth (size * 8)).setWidth 32) ↔ Narrow m (size * 8) x := by
  simp only [extendMember, if_neg unsigned]
  by_cases symbol : IsToken x ∨ IsStack x
  · apply iff_of_false
    · intro same
      obtain ⟨all, ones⟩ := word_any symbol (BitVec.allOnes 32)
      have here := same all
      rw [ones] at here
      cases narrow with
      | inl one => subst one; revert here; decide
      | inr two => subst two; revert here; decide
    · intro narrow
      exact symbol.elim narrow.1 narrow.2.1
  · simp only [not_or] at symbol
    have plain (reading : Reading) := word_of_plain reading symbol.1 symbol.2
    have some_reading : Nonempty Reading := ⟨⟨0, fun _ => 0⟩⟩
    simp only [plain, forall_const, setWidth_setWidth x (show size * 8 ≤ 32 by omega),
      ofInt_eq_iff, Narrow, if_neg unsigned, symbol, not_false_eq_true, true_and, low]
    cases narrow with
    | inl one => subst one; omega
    | inr two => subst two; omega

/-- The members that a load leaves right. -/
def Loads (m : Str) (x : Int) : Prop :=
  ∀ size, loadSize m = some size → size = 4 ∨ Narrow m (size * 8) x

/-- What a load does to the word that it reads. -/
theorem rv32Load_cases {m : Str} {f : Word → Word} (instruction : rv32Load m = some f) :
    (∃ size, (size = 1 ∨ size = 2) ∧ loadSize m = some size ∧
      (m ∈ texts "lb lh" ∧ f = (fun u => (u.setWidth (size * 8)).signExtend 32) ∨
        m ∉ texts "lb lh" ∧ f = fun u => (u.setWidth (size * 8)).setWidth 32)) ∨
      loadSize m = some 4 ∧ m ∉ texts "lb lh" ∧ f = id := by
  rw [rv32Load] at instruction
  by_cases lb : m = "lb".toList
  · subst lb
    cases instruction
    exact .inl ⟨1, .inl rfl, by decide, .inl ⟨by decide, rfl⟩⟩
  rw [if_neg lb] at instruction
  by_cases lbu : m = "lbu".toList
  · subst lbu
    cases instruction
    exact .inl ⟨1, .inl rfl, by decide, .inr ⟨by decide, rfl⟩⟩
  rw [if_neg lbu] at instruction
  by_cases lh : m = "lh".toList
  · subst lh
    cases instruction
    exact .inl ⟨2, .inr rfl, by decide, .inl ⟨by decide, rfl⟩⟩
  rw [if_neg lh] at instruction
  by_cases lhu : m = "lhu".toList
  · subst lhu
    cases instruction
    exact .inl ⟨2, .inr rfl, by decide, .inr ⟨by decide, rfl⟩⟩
  rw [if_neg lhu] at instruction
  by_cases words : m ∈ texts "lw c.lw c.lwsp"
  · rw [if_pos words] at instruction
    cases instruction
    have own : ∀ m ∈ texts "lw c.lw c.lwsp", loadSize m = some 4 ∧ m ∉ texts "lb lh" := by decide
    exact .inr ⟨(own m words).1, (own m words).2, rfl⟩
  · rw [if_neg words] at instruction
    cases instruction

theorem load_exact {m : Str} {f : Word → Word} {x : Int} (instruction : rv32Load m = some f) :
    ∃ size, loadSize m = some size ∧
      ((∀ reading : Reading, reading.word (extendMember m size x) = f (reading.word x)) ↔
        Loads m x) := by
  cases rv32Load_cases instruction with
  | inl part =>
      obtain ⟨size, narrow, own, kind⟩ := part
      have known : Loads m x ↔ Narrow m (size * 8) x := by
        have shorter : size ≠ 4 := by omega
        simp [Loads, own, shorter]
      refine ⟨size, own, ?_⟩
      cases kind with
      | inl signed =>
          obtain ⟨signed, rfl⟩ := signed
          exact (signed_exact narrow signed).trans known.symm
      | inr unsigned =>
          obtain ⟨unsigned, rfl⟩ := unsigned
          exact (unsigned_exact narrow unsigned).trans known.symm
  | inr whole =>
      obtain ⟨own, unsigned, rfl⟩ := whole
      refine ⟨4, own, iff_of_true ?_ ?_⟩
      · intro reading
        rw [extendMember, if_neg unsigned]
        rfl
      · intro size same
        rw [own] at same
        cases same
        exact .inl rfl

theorem rv32Load_of_loadSize {m : Str} {size : Nat} (own : loadSize m = some size) :
    ∃ f, rv32Load m = some f := by
  have listed : m ∈ texts "lb lbu" ++ texts "lh lhu" ++ texts "lw c.lw c.lwsp" := by
    by_contra absent
    simp only [List.mem_append, not_or] at absent
    simp [loadSize, absent] at own
  have every : ∀ m ∈ texts "lb lbu" ++ texts "lh lhu" ++ texts "lw c.lw c.lwsp",
      (rv32Load m).isSome := by decide
  exact Option.isSome_iff_exists.mp (every m listed)

/-! ## Transfers -/

/-- Operands of which no member can cover for another. -/
def AtMostOne (value : Value) : Prop := ∀ values, value = some values → ∃ x, values ⊆ {x}

/-- The operands for which a transfer does what its instruction does. -/
def Transfer.Harmless : Transfer → Prop
  | .binary m left right =>
      ∀ op, rv32 m = some op → Encodable op right → Combines op left right
  | .andi left mask => -2048 ≤ mask → mask < 2048 → Combines .and left (const mask)
  | .load m loaded => ∀ values, loaded = some values → ∀ x ∈ values, Loads m x
  | .lui _ | .auipc .. | .li _ | .mv _ | .unknown => True

def Transfer.Single : Transfer → Prop
  | .binary _ left right => AtMostOne left ∧ AtMostOne right
  | .andi left _ => AtMostOne left
  | .load _ loaded => AtMostOne loaded
  | .lui _ | .auipc .. | .li _ | .mv _ | .unknown => True

theorem value_binary {m : Str} {op : Operation} (instruction : rv32 m = some op)
    (left right : Value) :
    (Transfer.binary m left right).value = arithmetic left right op.apply := by
  have own := operationOf_of_rv32 instruction
  rw [Transfer.value]
  cases operation : operationOf m with
  | none =>
      rw [operation] at own
      cases own
  | some found =>
      rw [operation] at own
      cases own
      rfl

theorem stands_const_mask {mask : Int} (lower : -2048 ≤ mask) (upper : mask < 2048)
    (reading : Reading) : reading.Stands (const mask) (BitVec.ofInt 32 mask) := by
  rw [const, stands_some]
  refine ⟨mask, Finset.mem_singleton_self mask, ?_⟩
  apply word_of_plain
  · exact not_isToken_of_le (by omega)
  · simp only [IsStack]
    omega

/-- Of an unknown word every result of a small mask is listed. -/
theorem stands_masks (reading : Reading) (u : Word) {mask : Int} (lower : 0 ≤ mask)
    (upper : mask ≤ 31) :
    reading.Stands (andImmediate none mask) (u &&& BitVec.ofInt 32 mask) := by
  obtain ⟨k, rfl⟩ := Int.eq_ofNat_of_zero_le lower
  have cut : (u &&& BitVec.ofInt 32 (k : Int)).toNat = u.toNat &&& k := by
    rw [BitVec.ofInt_natCast, BitVec.toNat_and, BitVec.toNat_ofNat, Nat.mod_eq_of_lt (by omega)]
  have inside : u.toNat &&& k ≤ k := Nat.and_le_right
  rw [andImmediate, if_pos ⟨rfl, lower, upper⟩, stands_some]
  refine ⟨((u.toNat &&& k : Nat) : Int), ?_, ?_⟩
  · rw [Finset.mem_filter]
    constructor
    · apply Finset.mem_image_of_mem
      rw [Finset.mem_range, Int.toNat_natCast]
      omega
    · change ((u.toNat &&& k &&& k : Nat) : Int) = _
      rw [Nat.and_assoc, Nat.and_self]
  · rw [word_of_plain, BitVec.ofInt_natCast, ← cut, BitVec.ofNat_toNat, BitVec.setWidth_eq]
    · exact not_isToken_of_le (by omega)
    · simp only [IsStack]
      omega

theorem stands_extend {m : Str} {f : Word → Word} (instruction : rv32Load m = some f)
    {value : Value} (loads : ∀ values, value = some values → ∀ x ∈ values, Loads m x)
    {reading : Reading} {u : Word} (stands : reading.Stands value u) :
    reading.Stands (Transfer.load m value).value (f u) := by
  have sized : ∃ size, loadSize m = some size := by
    obtain ⟨size, own, _⟩ := load_exact (x := 0) instruction
    exact ⟨size, own⟩
  obtain ⟨size, own⟩ := sized
  rw [Transfer.value, own]
  change reading.Stands (extend m size value) (f u)
  rw [extend_eq]
  cases value with
  | none => exact stands_none
  | some values =>
      rw [stands_some] at stands
      obtain ⟨x, member, rfl⟩ := stands
      obtain ⟨_, same, exact⟩ := load_exact (x := x) instruction
      cases own.symm.trans same
      rw [Option.map_some, stands_some]
      exact ⟨_, Finset.mem_image_of_mem _ member, exact.mpr (loads values rfl x member) reading⟩

theorem word_low (reading : Reading) (x : Int) : reading.word (low x) = BitVec.ofInt 32 x := by
  have := low_nonneg x
  have := low_lt x
  rw [word_of_plain, ofInt_eq_iff]
  · exact Int.emod_emod_of_dvd _ (Int.dvd_refl _)
  · exact not_isToken_of_le (by omega)
  · simp only [IsStack]
    omega

theorem Transfer.sound {t : Transfer} (harmless : t.Harmless) : t.Sound := by
  intro reading w yields
  cases t with
  | binary m left right =>
      obtain ⟨op, u, v, instruction, encodable, first, second, rfl⟩ := yields
      rw [value_binary instruction]
      exact stands_arithmetic encodable (harmless op instruction encodable) first second
  | andi left mask =>
      obtain ⟨u, lower, upper, stands, rfl⟩ := yields
      by_cases listed : left = none ∧ 0 ≤ mask ∧ mask ≤ 31
      · rw [listed.1]
        exact stands_masks reading u listed.2.1 listed.2.2
      · rw [Transfer.value, andImmediate, if_neg listed]
        have encodable : Encodable .and (const mask) := by
          intro shifts
          exact absurd shifts (by decide)
        exact stands_arithmetic encodable (harmless lower upper) stands
          (stands_const_mask lower upper reading)
  | load m loaded =>
      obtain ⟨f, u, instruction, stands, rfl⟩ := yields
      exact stands_extend instruction harmless stands
  | lui immediate =>
      obtain ⟨lower, upper, rfl⟩ := yields
      rw [Transfer.value, const, stands_some]
      refine ⟨_, Finset.mem_singleton_self _, ?_⟩
      rw [word_of_plain, ofInt_shiftLeft]
      · exact not_isToken_of_le (by rw [Int.shiftLeft_eq]; omega)
      · rw [IsStack, Int.shiftLeft_eq]
        omega
  | auipc pc immediate =>
      cases yields
      rw [Transfer.value, const, stands_some]
      refine ⟨_, Finset.mem_singleton_self _, ?_⟩
      rw [word_low, BitVec.ofInt_add, ofInt_shiftLeft]
  | li immediate =>
      cases yields
      rw [Transfer.value, const, stands_some]
      exact ⟨_, Finset.mem_singleton_self _, word_low reading immediate⟩
  | mv value => exact yields
  | unknown => exact stands_none

theorem AtMostOne.cases {values : Finset Int} (few : AtMostOne (some values)) :
    values = ∅ ∨ ∃ x, values = {x} := by
  obtain ⟨x, within⟩ := few values rfl
  exact (Finset.subset_singleton_iff.mp within).imp_right fun only => ⟨x, only⟩

/-- Two values of at most one member each, the second encodable. -/
theorem combines_of_single {op : Operation} {left right : Value} (few : AtMostOne left)
    (few' : AtMostOne right) (encodable : Encodable op right)
    (stands : ∀ (reading : Reading) u v, reading.Stands left u → reading.Stands right v →
      reading.Stands (arithmetic left right op.apply) (op.word u v)) :
    Combines op left right := by
  intro a b first second
  subst first
  subst second
  cases few.cases with
  | inl none =>
      subst none
      right
      intro x member
      exact absurd member (Finset.notMem_empty x)
  | inr one =>
      obtain ⟨x, rfl⟩ := one
      cases few'.cases with
      | inl none =>
          subst none
          right
          intro _ _ y member
          exact absurd member (Finset.notMem_empty y)
      | inr other =>
          obtain ⟨y, rfl⟩ := other
          have encodes := encodes_of_encodable encodable (Finset.mem_singleton_self y)
          apply combines_of_stands encodes _ _ _ rfl rfl
          intro reading
          exact stands reading _ _ (by simp) (by simp)

theorem Transfer.harmless_of_sound {t : Transfer} (single : t.Single) (sound : t.Sound) :
    t.Harmless := by
  cases t with
  | binary m left right =>
      intro op instruction encodable
      apply combines_of_single single.1 single.2 encodable
      intro reading u v first second
      rw [← value_binary instruction]
      exact sound reading _ ⟨op, u, v, instruction, encodable, first, second, rfl⟩
  | andi left mask =>
      intro lower upper
      have one : AtMostOne (const mask) := by
        intro values same
        cases same
        exact ⟨mask, Finset.Subset.refl _⟩
      cases left with
      | none => exact fun a b none => nomatch none
      | some members =>
          apply combines_of_single single one
          · intro shifts
            exact absurd shifts (by decide)
          · intro reading u v first second
            have own := stands_const_mask lower upper reading
            have same : v = BitVec.ofInt 32 mask := by
              rw [const, stands_some] at own second
              simp only [Finset.mem_singleton, exists_eq_left] at own second
              rw [← own, ← second]
            have here := sound reading _ ⟨u, lower, upper, first, rfl⟩
            rw [Transfer.value, andImmediate, if_neg (by simp)] at here
            rw [same]
            exact here
  | load m loaded =>
      intro values same x member size own
      subst same
      have only : values = {x} := by
        cases AtMostOne.cases single with
        | inl none =>
            subst none
            exact absurd member (Finset.notMem_empty x)
        | inr one =>
            obtain ⟨y, rfl⟩ := one
            rw [Finset.mem_singleton.mp member]
      subst only
      obtain ⟨f, instruction⟩ := rv32Load_of_loadSize own
      obtain ⟨_, same, exact⟩ := load_exact (x := x) instruction
      cases own.symm.trans same
      apply exact.mp _ size own
      intro reading
      have here := sound reading _ ⟨f, reading.word x, instruction, by simp, rfl⟩
      rw [Transfer.value, own] at here
      change reading.Stands (extend m size _) _ at here
      rw [extend_eq, Option.map_some, Finset.image_singleton, stands_some] at here
      simpa using here
  | lui | auipc | li | mv | unknown => trivial

end AxolotyEmbedded.Interval
