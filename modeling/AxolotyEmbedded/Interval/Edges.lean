import AxolotyEmbedded.Interval.Operations

/-!
The edges of branches: which words are still among those that the refined values stand for.
An edge keeps the states that take it, and where the target is the address that follows
both outcomes take the one edge that there is.
-/
namespace AxolotyEmbedded.Interval

open Words PythonText

/-! ## RV32 -/

/-- Whether a branch that compares a register with zero is taken. -/
def rv32Zero (m : Str) (u : Word) : Option Bool :=
  if m = "c.beqz".toList then some (u == 0#32)
  else if m = "c.bnez".toList then some (u != 0#32)
  else none

/-- Whether a branch that compares two registers is taken. -/
def rv32Pair (m : Str) (u v : Word) : Option Bool :=
  if m = "beq".toList then some (u == v)
  else if m = "bne".toList then some (u != v)
  else if m = "blt".toList then some (u.slt v)
  else if m = "bge".toList then some !(u.slt v)
  else if m = "bltu".toList then some (u.ult v)
  else if m = "bgeu".toList then some !(u.ult v)
  else none

/-- The destination of a branch with an outcome. -/
def goesTo (following target : Int) (taken : Bool) : Int := if taken then target else following

/-! ## Comparisons with zero -/

section Zero

variable (m : Str) (following target destination : Int)

/-- The states that take an edge are kept. -/
def ZeroSound (value : Value) : Prop :=
  ∀ (reading : Reading) u taken, reading.Stands value u → rv32Zero m u = some taken →
    goesTo following target taken = destination →
    ∃ refined, refineZero m (destination == target) value = some refined ∧
      reading.Stands refined u

/-- Whether the edge is the one of zero. -/
def ofZero : Bool := (destination == target) == (m == "c.beqz".toList)

/-- When an edge keeps its states. -/
def ZeroHarmless (value : Value) : Prop :=
  m ∈ zeroBranches → ∀ values, value = some values → (∀ x ∈ values, -(2 ^ 32) ≤ x) →
    destination = target ∨ destination = following →
      if following = target then
        if m = "c.beqz".toList then ∀ x ∈ values, x = 0 ∨ x = -(2 ^ 32) ∧ 0 ∈ values
        else
          0 ∉ values ∨ -(2 ^ 32) ∈ values ∨
            ∀ w, ∃ x ∈ values, IsStack x ∧ BitVec.ofInt 32 x = w
      else
        ofZero m target destination = true →
          0 ∈ values ∨ ∀ x ∈ values, ¬IsStack x ∧ x ≠ -(2 ^ 32)

variable {m following target destination}

theorem mem_zeroBranches : m ∈ zeroBranches ↔ m = "c.beqz".toList ∨ m = "c.bnez".toList := by
  have listed : zeroBranches = ["c.beqz".toList, "c.bnez".toList] := by decide
  rw [listed, List.mem_pair]

theorem rv32Zero_eq {u : Word} {taken : Bool} :
    rv32Zero m u = some taken ↔
      m ∈ zeroBranches ∧ taken = ((u == 0#32) == (m == "c.beqz".toList)) := by
  rw [mem_zeroBranches, rv32Zero]
  split
  · next zero => simp [zero, eq_comm]
  · next other =>
      split
      · next nonzero => simp [nonzero, eq_comm, bne]
      · next neither =>
          exact iff_of_false (fun none => nomatch none) fun known => known.1.elim other neither

/-- Each member that can take the edge must have one that is left for the same word. -/
theorem zeroSound_iff {values : Finset Int} :
    ZeroSound m following target destination (some values) ↔
      (m ∈ zeroBranches → (∀ x ∈ values, -(2 ^ 32) ≤ x) → ∀ reading : Reading, ∀ x ∈ values,
        goesTo following target ((reading.word x == 0#32) == (m == "c.beqz".toList)) =
          destination →
        ∃ y ∈ values, ((y == 0) = ofZero m target destination) ∧
          reading.word y = reading.word x) := by
  constructor
  · intro sound known shallow reading x member goes
    obtain ⟨refined, same, stands⟩ := sound reading (reading.word x) _
      (stands_some.mpr ⟨x, member, rfl⟩) (rv32Zero_eq.mpr ⟨known, rfl⟩) goes
    simp only [refineZero] at same
    rw [if_pos shallow] at same
    split at same
    · cases same
    · cases same
      obtain ⟨y, kept, word⟩ := stands_some.mp stands
      rw [Finset.mem_filter, beq_iff_eq] at kept
      exact ⟨y, kept.1, kept.2, word⟩
  · intro covered reading u taken stands outcome goes
    simp only [refineZero]
    by_cases shallow : ∀ x ∈ values, -(2 ^ 32) ≤ x
    · obtain ⟨x, member, rfl⟩ := stands_some.mp stands
      obtain ⟨known, rfl⟩ := rv32Zero_eq.mp outcome
      obtain ⟨y, inside, edge, word⟩ := covered known shallow reading x member goes
      have kept : y ∈ values.filter fun x =>
          (x == 0) == ((destination == target) == (m == "c.beqz".toList)) := by
        rw [Finset.mem_filter, beq_iff_eq]
        exact ⟨inside, edge⟩
      rw [if_pos shallow, if_neg (Finset.ne_empty_of_mem kept)]
      exact ⟨_, rfl, stands_some.mpr ⟨y, kept, word⟩⟩
    · rw [if_neg shallow]
      exact ⟨_, rfl, stands⟩

theorem word_zero (reading : Reading) : reading.word 0 = 0#32 :=
  word_of_plain reading (not_isToken_of_le (by decide)) (by decide)

theorem word_bottom (reading : Reading) : reading.word (-(2 ^ 32)) = 0#32 :=
  word_of_plain reading (not_isToken_of_le (by decide)) (by decide)

/-- Members that stand for zero. -/
theorem word_eq_zero {reading : Reading} {x : Int} (shallow : -(2 ^ 32) ≤ x)
    (zero : reading.word x = 0#32) : x = 0 ∨ x = -(2 ^ 32) ∨ IsStack x := by
  by_cases stack : IsStack x
  · exact .inr (.inr stack)
  · rw [word_of_plain reading (not_isToken_of_le shallow) stack] at zero
    have low := (ofInt_eq_iff (y := 0)).mp zero
    rw [IsStack] at stack
    omega

theorem stack_zero {x : Int} (stack : IsStack x) : ∃ reading : Reading, reading.word x = 0#32 := by
  refine ⟨⟨-BitVec.ofInt 32 x, fun _ => 0⟩, ?_⟩
  rw [word_of_isStack _ stack]
  exact BitVec.add_left_neg _

theorem stack_one {x : Int} (stack : IsStack x) : ∃ reading : Reading, reading.word x ≠ 0#32 := by
  refine ⟨⟨1 - BitVec.ofInt 32 x, fun _ => 0⟩, ?_⟩
  rw [word_of_isStack _ stack, BitVec.sub_add_cancel]
  decide

/-- Where the target follows, every state takes the edge. -/
theorem zero_coincident {values : Finset Int} (shallow : ∀ x ∈ values, -(2 ^ 32) ≤ x) :
    (∀ reading : Reading, ∀ x ∈ values,
      ∃ y ∈ values, (y == 0) = true ∧ reading.word y = reading.word x) ↔
    ∀ x ∈ values, x = 0 ∨ x = -(2 ^ 32) ∧ 0 ∈ values := by
  constructor
  · intro covered x member
    have zero : 0 ∈ values ∧ ∀ reading : Reading, reading.word x = 0#32 := by
      constructor
      · obtain ⟨y, inside, none, _⟩ := covered ⟨0, fun _ => 0⟩ x member
        rwa [← beq_iff_eq.mp none]
      · intro reading
        obtain ⟨y, _, none, word⟩ := covered reading x member
        rw [← word, beq_iff_eq.mp none, word_zero]
    cases word_eq_zero (shallow x member) (zero.2 ⟨0, fun _ => 0⟩) with
    | inl own => exact .inl own
    | inr others =>
        cases others with
        | inl bottom => exact .inr ⟨bottom, zero.1⟩
        | inr stack =>
            obtain ⟨reading, varies⟩ := stack_one stack
            exact absurd (zero.2 reading) varies
  · intro zeros reading x member
    cases zeros x member with
    | inl own => exact ⟨x, member, beq_iff_eq.mpr own, rfl⟩
    | inr bottom =>
        refine ⟨0, bottom.2, rfl, ?_⟩
        rw [bottom.1, word_zero, word_bottom]

theorem nonzero_coincident {values : Finset Int} (shallow : ∀ x ∈ values, -(2 ^ 32) ≤ x) :
    (∀ reading : Reading, ∀ x ∈ values,
      ∃ y ∈ values, (y == 0) = false ∧ reading.word y = reading.word x) ↔
    0 ∉ values ∨ -(2 ^ 32) ∈ values ∨
      ∀ w, ∃ x ∈ values, IsStack x ∧ BitVec.ofInt 32 x = w := by
  constructor
  · intro covered
    by_contra uncovered
    simp only [not_or, not_not] at uncovered
    apply uncovered.2.2
    intro w
    obtain ⟨y, inside, nonzero, word⟩ := covered ⟨-w, fun _ => 0⟩ 0 uncovered.1
    rw [word_zero] at word
    have stack := word_eq_zero (shallow y inside) word
    simp only [beq_eq_false_iff_ne.mp nonzero, false_or] at stack
    have symbol := stack.resolve_left fun bottom => uncovered.2.1 (bottom ▸ inside)
    refine ⟨y, inside, symbol, ?_⟩
    rw [word_of_isStack _ symbol] at word
    grind
  · intro covered reading x member
    by_cases zero : x = 0
    · subst zero
      rw [word_zero]
      cases covered with
      | inl absent => exact absurd member absent
      | inr others =>
          cases others with
          | inl bottom => exact ⟨_, bottom, rfl, word_bottom reading⟩
          | inr all =>
              obtain ⟨y, inside, stack, same⟩ := all (-reading.entrySp)
              refine ⟨y, inside, ?_, ?_⟩
              · rw [beq_eq_false_iff_ne]
                rw [IsStack] at stack
                omega
              · rw [word_of_isStack _ stack, same]
                exact BitVec.add_right_neg _
    · exact ⟨x, member, beq_eq_false_iff_ne.mpr zero, rfl⟩

/-- Where the target does not follow, the states with the word zero take their own edge. -/
theorem zero_distinct {values : Finset Int} (shallow : ∀ x ∈ values, -(2 ^ 32) ≤ x) :
    (∀ reading : Reading, ∀ x ∈ values, (reading.word x == 0#32) = true →
      ∃ y ∈ values, (y == 0) = true ∧ reading.word y = reading.word x) ↔
    0 ∈ values ∨ ∀ x ∈ values, ¬IsStack x ∧ x ≠ -(2 ^ 32) := by
  constructor
  · intro covered
    by_contra uncovered
    simp only [not_or] at uncovered
    apply uncovered.2
    intro x member
    have never (reading : Reading) : reading.word x ≠ 0#32 := by
      intro zero
      obtain ⟨y, inside, none, _⟩ := covered reading x member (beq_iff_eq.mpr zero)
      exact uncovered.1 (beq_iff_eq.mp none ▸ inside)
    constructor
    · intro stack
      obtain ⟨reading, zero⟩ := stack_zero stack
      exact never reading zero
    · intro bottom
      apply never ⟨0, fun _ => 0⟩
      rw [bottom, word_bottom]
  · intro covered reading x member zero
    rw [beq_iff_eq] at zero
    cases covered with
    | inl present => exact ⟨0, present, rfl, by rw [word_zero, zero]⟩
    | inr plain =>
        have own := word_eq_zero (shallow x member) zero
        simp only [plain x member, or_false] at own
        exact ⟨x, member, beq_iff_eq.mpr own, rfl⟩

theorem goesTo_eq_iff {taken : Bool} (distinct : following ≠ target)
    (edge : destination = target ∨ destination = following) :
    goesTo following target taken = destination ↔ taken = (destination == target) := by
  cases taken with
  | true =>
      simp only [goesTo, if_true, Bool.true_eq, beq_iff_eq]
      exact eq_comm
  | false =>
      cases edge with
      | inl own =>
          subst own
          simp [goesTo, distinct]
      | inr own =>
          subst own
          simp [goesTo, distinct]

theorem edge_of_goesTo {taken : Bool} (goes : goesTo following target taken = destination) :
    destination = target ∨ destination = following := by
  cases taken with
  | true => exact .inl goes.symm
  | false => exact .inr goes.symm

theorem zeroSound_iff_harmless {value : Value} :
    ZeroSound m following target destination value ↔
      ZeroHarmless m following target destination value := by
  cases value with
  | none =>
      apply iff_of_true
      · exact fun reading u taken stands _ _ => ⟨none, rfl, stands⟩
      · exact fun _ values some => nomatch some
  | some values =>
      rw [zeroSound_iff]
      simp only [ZeroHarmless, Option.some.injEq, forall_eq']
      apply forall_congr'
      intro known
      apply forall_congr'
      intro shallow
      by_cases edge : destination = target ∨ destination = following
      · simp only [edge, forall_const]
        by_cases same : following = target
        · have here : destination = target := by simpa [same] using edge
          subst here
          subst same
          simp only [goesTo, ite_self, forall_const, if_true, ofZero, beq_self_eq_true,
            Bool.true_beq]
          by_cases zero : m = "c.beqz".toList
          · simp only [zero, if_true, beq_self_eq_true]
            exact zero_coincident shallow
          · simp only [if_neg zero, beq_eq_false_iff_ne.mpr zero]
            exact nonzero_coincident shallow
        · have own (taken : Bool) :
              goesTo following target (taken == (m == "c.beqz".toList)) = destination ↔
                taken = ofZero m target destination := by
            rw [goesTo_eq_iff same edge, ofZero]
            generalize (m == "c.beqz".toList) = zero
            generalize (destination == target) = there
            revert taken zero there
            decide
          simp only [own, if_neg same]
          cases ofZero m target destination with
          | true => simpa using zero_distinct shallow
          | false =>
              apply iff_of_true
              · intro reading x member nonzero
                refine ⟨x, member, ?_, rfl⟩
                rw [beq_eq_false_iff_ne] at nonzero ⊢
                intro zero
                rw [zero, word_zero] at nonzero
                exact nonzero rfl
              · exact fun zero => nomatch zero
      · simp only [edge, false_implies, iff_true]
        intro reading x member goes
        exact absurd (edge_of_goesTo goes) edge

end Zero

/-! ## Comparisons of two registers -/

section Pair

variable (m : Str) (following target destination : Int)

/-- The states that take an edge are kept. -/
def PairSound (left right : Value) : Prop :=
  ∀ (reading : Reading) u v taken, reading.Stands left u → reading.Stands right v →
    rv32Pair m u v = some taken → goesTo following target taken = destination →
    ∃ refined, refinePair m (destination == target) left right = some refined ∧
      reading.Stands refined.1 u ∧ reading.Stands refined.2 v

/-- The branches that are taken where their comparison holds. -/
def upward : Bool := decide (m ∈ texts "beq blt bltu")

/-- Whether the edge is the one of a comparison that holds. -/
def ofLess : Bool := (destination == target) == upward m

/-- The operands that the list of small words is put in place of. -/
def Listed (left right : Value) : Prop :=
  m = "bgeu".toList ∧ right = none ∧ ∃ limit, left = const limit ∧ 0 ≤ limit ∧ limit ≤ 31

/-- When an edge keeps its states. -/
def PairHarmless (left right : Value) : Prop :=
  m ∈ pairBranches → destination = target → following = target →
    ¬Listed m left right ∧
      ∀ a b, left = some a → right = some b → (∀ x ∈ a ∪ b, IsWord x) →
        ∀ x ∈ a, ∀ y ∈ b,
          (∃ y' ∈ b, compares m x y' = upward m) ∧ ∃ x' ∈ a, compares m x' y = upward m

variable {m following target destination}

theorem mem_pairBranches :
    m ∈ pairBranches ↔ m = "beq".toList ∨ m = "bne".toList ∨ m = "blt".toList ∨
      m = "bge".toList ∨ m = "bltu".toList ∨ m = "bgeu".toList := by
  have listed : pairBranches = ["beq".toList, "bne".toList, "blt".toList, "bge".toList,
      "bltu".toList, "bgeu".toList] := by decide
  simp only [listed, List.mem_cons, List.not_mem_nil, or_false]

theorem plain_of_isWord {x : Int} (word : IsWord x) (reading : Reading) :
    reading.word x = BitVec.ofInt 32 x := by
  apply word_of_plain
  · exact not_isToken_of_le word.1
  · exact Int.not_le.mpr word.2

/-- The word that decides a branch. -/
def compareWords (m : Str) (u v : Word) : Bool :=
  if m ∈ texts "beq bne" then u == v
  else if m.getLast? = some 'u' then u.ult v
  else u.slt v

theorem rv32Pair_eq {u v : Word} {taken : Bool} :
    rv32Pair m u v = some taken ↔
      m ∈ pairBranches ∧ taken = (compareWords m u v == upward m) := by
  have equals : texts "beq bne" = ["beq".toList, "bne".toList] := by decide
  have ups : texts "beq blt bltu" = ["beq".toList, "blt".toList, "bltu".toList] := by decide
  by_cases known : m ∈ pairBranches
  · simp only [known, true_and]
    rw [mem_pairBranches] at known
    rcases known with rfl | rfl | rfl | rfl | rfl | rfl
    all_goals simp [rv32Pair, compareWords, upward, equals, ups, eq_comm, bne]
  · apply iff_of_false
    · rw [mem_pairBranches] at known
      simp only [not_or] at known
      simp only [rv32Pair, known, if_false]
      exact fun none => nomatch none
    · exact fun both => known both.1

/-- The analysis compares the words that integers stand for. -/
theorem compares_eq (m : Str) (x y : Int) :
    compares m x y = compareWords m (BitVec.ofInt 32 x) (BitVec.ofInt 32 y) := by
  simp only [compares, compareWords]
  split
  · rw [Bool.eq_iff_iff, beq_iff_eq, beq_iff_eq]
    exact ofInt_eq_iff.symm
  · split
    · exact (ult_ofInt x y).symm
    · rw [slt_ofInt, signed_eq_bmod, signed_eq_bmod]

/-- The members of words that are left on an edge. -/
theorem refinePair_words {a b : Finset Int} (words : ∀ x ∈ a ∪ b, IsWord x) {refined : Value × Value} :
    refinePair m (destination == target) (some a) (some b) = some refined ↔
      (∃ x ∈ a, ∃ y ∈ b, compares m x y = ofLess m target destination) ∧
        refined = (some (a.filter fun x => ∃ y ∈ b, compares m x y = ofLess m target destination),
          some (b.filter fun y => ∃ x ∈ a, compares m x y = ofLess m target destination)) := by
  simp only [refinePair]
  rw [if_pos words]
  set pairs := (a ×ˢ b).filter fun pair => compares m pair.1 pair.2 ==
    ((destination == target) == decide (m ∈ texts "beq blt bltu")) with own
  have member (x y : Int) :
      (x, y) ∈ pairs ↔ (x ∈ a ∧ y ∈ b) ∧ compares m x y = ofLess m target destination := by
    rw [own, Finset.mem_filter, Finset.mem_product, beq_iff_eq]
    rfl
  have left : pairs.image Prod.fst =
      a.filter fun x => ∃ y ∈ b, compares m x y = ofLess m target destination := by
    ext x
    simp [member, and_assoc]
  have right : pairs.image Prod.snd =
      b.filter fun y => ∃ x ∈ a, compares m x y = ofLess m target destination := by
    ext y
    simp only [Finset.mem_image, Prod.exists, exists_eq_right, member, Finset.mem_filter]
    grind
  rw [left, right]
  by_cases none : pairs = ∅
  · rw [if_pos none]
    apply iff_of_false
    · exact fun same => nomatch same
    · intro both
      obtain ⟨⟨x, inFirst, y, inSecond, edge⟩, _⟩ := both
      exact Finset.notMem_empty _ (none ▸ (member x y).mpr ⟨⟨inFirst, inSecond⟩, edge⟩)
  · rw [if_neg none, Option.some.injEq, eq_comm]
    apply (and_iff_right _).symm
    obtain ⟨⟨x, y⟩, held⟩ := Finset.nonempty_iff_ne_empty.mpr none
    obtain ⟨⟨inFirst, inSecond⟩, edge⟩ := (member x y).mp held
    exact ⟨x, inFirst, y, inSecond, edge⟩

/-- The pairs that are left on an edge. -/
theorem pairSound_iff {a b : Finset Int} :
    PairSound m following target destination (some a) (some b) ↔
      (m ∈ pairBranches → (∀ x ∈ a ∪ b, IsWord x) → ∀ x ∈ a, ∀ y ∈ b,
        goesTo following target (compares m x y == upward m) = destination →
        (∃ y' ∈ b, compares m x y' = ofLess m target destination) ∧
          ∃ x' ∈ a, compares m x' y = ofLess m target destination) := by
  constructor
  · intro sound known words x inFirst y inSecond goes
    have reading : Reading := ⟨0, fun _ => 0⟩
    have plain {z : Int} (within : z ∈ a ∪ b) := plain_of_isWord (words z within) reading
    have first := plain (Finset.mem_union_left b inFirst)
    have second := plain (Finset.mem_union_right a inSecond)
    rw [compares_eq] at goes
    obtain ⟨refined, same, stands, stands'⟩ := sound reading _ _ _
      (stands_some.mpr ⟨x, inFirst, first⟩) (stands_some.mpr ⟨y, inSecond, second⟩)
      (rv32Pair_eq.mpr ⟨known, rfl⟩) goes
    obtain ⟨_, rfl⟩ := (refinePair_words words).mp same
    obtain ⟨x', left, word⟩ := stands_some.mp stands
    obtain ⟨y', right, word'⟩ := stands_some.mp stands'
    obtain ⟨inLeft, z, inside, edge⟩ := Finset.mem_filter.mp left
    obtain ⟨inRight, z', inside', edge'⟩ := Finset.mem_filter.mp right
    rw [plain (Finset.mem_union_left b inLeft)] at word
    rw [plain (Finset.mem_union_right a inRight)] at word'
    rw [compares_eq] at edge edge'
    constructor
    · refine ⟨z, inside, ?_⟩
      rw [compares_eq, ← word]
      exact edge
    · refine ⟨z', inside', ?_⟩
      rw [compares_eq, ← word']
      exact edge'
  · intro covered reading u v taken stands stands' outcome goes
    by_cases words : ∀ x ∈ a ∪ b, IsWord x
    · obtain ⟨x, inFirst, first⟩ := stands_some.mp stands
      obtain ⟨y, inSecond, second⟩ := stands_some.mp stands'
      obtain ⟨known, rfl⟩ := rv32Pair_eq.mp outcome
      have plain {z : Int} (within : z ∈ a ∪ b) := plain_of_isWord (words z within) reading
      have first' := (plain (Finset.mem_union_left b inFirst)).symm.trans first
      have second' := (plain (Finset.mem_union_right a inSecond)).symm.trans second
      rw [← first', ← second', ← compares_eq] at goes
      obtain ⟨here, there⟩ := covered known words x inFirst y inSecond goes
      obtain ⟨y', inside, edge⟩ := here
      refine ⟨_, (refinePair_words words).mpr ⟨⟨x, inFirst, y', inside, edge⟩, rfl⟩, ?_, ?_⟩
      · exact stands_some.mpr ⟨x, Finset.mem_filter.mpr ⟨inFirst, y', inside, edge⟩, first⟩
      · exact stands_some.mpr ⟨y, Finset.mem_filter.mpr ⟨inSecond, there⟩, second⟩
    · simp only [refinePair]
      rw [if_neg words]
      exact ⟨_, rfl, stands, stands'⟩

theorem word_of_small (reading : Reading) {n : Nat} (small : n ≤ 31) :
    reading.word (Int.ofNat n) = BitVec.ofNat 32 n := by
  rw [plain_of_isWord]
  · exact BitVec.ofInt_natCast 32 n
  · simp only [IsWord, Int.ofNat_eq_natCast]
    omega

/-- The words up to a small limit. -/
theorem stands_range (reading : Reading) {limit : Int} (lower : 0 ≤ limit) (upper : limit ≤ 31)
    (v : Word) :
    reading.Stands (some ((Finset.range (limit.toNat + 1)).image Int.ofNat)) v ↔
      (BitVec.ofInt 32 limit).ult v = false := by
  have least : (BitVec.ofInt 32 limit).toNat = limit.toNat := toNat_ofInt_amount (by omega)
  rw [stands_some, BitVec.ult, least, decide_eq_false_iff_not]
  simp only [Finset.mem_image, Finset.mem_range]
  constructor
  · intro listed
    obtain ⟨_, ⟨n, inside, rfl⟩, word⟩ := listed
    rw [word_of_small reading (by omega)] at word
    have := congrArg BitVec.toNat word
    rw [BitVec.toNat_ofNat, Nat.mod_eq_of_lt (by omega)] at this
    omega
  · intro within
    refine ⟨_, ⟨v.toNat, by omega, rfl⟩, ?_⟩
    rw [word_of_small reading (by omega), BitVec.ofNat_toNat, BitVec.setWidth_eq]

theorem compareWords_unsigned (unsigned : m ∈ texts "bltu bgeu") (u v : Word) :
    compareWords m u v = u.ult v := by
  have kind : ∀ m ∈ texts "bltu bgeu", m ∉ texts "beq bne" ∧ m.getLast? = some 'u' := by decide
  rw [compareWords, if_neg (kind m unsigned).1, if_pos (kind m unsigned).2]

/-- The edge on which the list takes the place of an unknown register. -/
structure Limited (m : Str) (target destination limit : Int) : Prop where
  unsigned : m ∈ texts "bltu bgeu"
  edge : ofLess m target destination = false
  lower : 0 ≤ limit
  upper : limit ≤ 31

namespace Limited

variable {limit : Int}

theorem known (limited : Limited m target destination limit) : m ∈ pairBranches := by
  have kind : ∀ m ∈ texts "bltu bgeu", m ∈ pairBranches := by decide
  exact kind m limited.unsigned

theorem word (limited : Limited m target destination limit) (reading : Reading) :
    reading.word limit = BitVec.ofInt 32 limit := by
  have := limited.lower
  have := limited.upper
  exact plain_of_isWord (by simp only [IsWord]; omega) reading

theorem refinePair_eq (limited : Limited m target destination limit) :
    refinePair m (destination == target) (some {limit}) none =
      some (some {limit}, some ((Finset.range (limit.toNat + 1)).image Int.ofNat)) := by
  simp only [refinePair, single_eq_some.mpr rfl]
  exact if_pos ⟨limited.unsigned, limited.edge, limited.lower, limited.upper⟩

/-- At the target it is the edge of `bgeu`. -/
theorem eq_bgeu (limited : Limited m target target limit) : m = "bgeu".toList := by
  have names : texts "bltu bgeu" = ["bltu".toList, "bgeu".toList] := by decide
  have up : upward "bltu".toList = true := by decide
  have unsigned := limited.unsigned
  have edge := limited.edge
  rw [names, List.mem_pair] at unsigned
  apply unsigned.resolve_left
  intro first
  subst first
  rw [ofLess, up, beq_self_eq_true] at edge
  cases edge

/-- Where both ends are one, a word above the list takes the edge too. -/
theorem not_pairSound (limited : Limited m target target limit) :
    ¬PairSound m target target target (some {limit}) none := by
  intro sound
  have reading : Reading := ⟨0, fun _ => 0⟩
  have lower := limited.lower
  have upper := limited.upper
  have goes : goesTo target target
      (compareWords m (BitVec.ofInt 32 limit) 32#32 == upward m) = target := by
    rw [goesTo, ite_self]
  obtain ⟨_, same, _, stands⟩ := sound reading (BitVec.ofInt 32 limit) 32#32 _
    (stands_some.mpr ⟨limit, Finset.mem_singleton_self limit, limited.word reading⟩) stands_none
    (rv32Pair_eq.mpr ⟨limited.known, rfl⟩) goes
  cases limited.refinePair_eq.symm.trans same
  rw [stands_range reading lower upper, BitVec.ult,
    toNat_ofInt_amount (show 0 ≤ limit ∧ limit < 32 by omega)] at stands
  simp only [BitVec.toNat_ofNat, decide_eq_false_iff_not] at stands
  omega

theorem pairSound (limited : Limited m target destination limit)
    (apart : ¬(destination = target ∧ following = target)) :
    PairSound m following target destination (some {limit}) none := by
  intro reading u v taken stands _ outcome goes
  refine ⟨_, limited.refinePair_eq, stands, ?_⟩
  obtain ⟨_, only, word⟩ := stands_some.mp stands
  cases Finset.mem_singleton.mp only
  have distinct : following ≠ target := by
    intro same
    subst same
    rw [goesTo, ite_self] at goes
    exact apart ⟨goes.symm, rfl⟩
  have side := (goesTo_eq_iff distinct (edge_of_goesTo goes)).mp goes
  have compared := (rv32Pair_eq.mp outcome).2
  have edge := limited.edge
  rw [compareWords_unsigned limited.unsigned] at compared
  rw [stands_range reading limited.lower limited.upper, ← limited.word reading, word]
  rw [ofLess, ← side, compared] at edge
  revert edge
  generalize u.ult v = less
  generalize upward m = up
  revert less up
  decide

end Limited

/-- Elsewhere an unknown register stays unknown. -/
theorem pairSound_of_kept {a : Finset Int}
    (kept : refinePair m (destination == target) (some a) none = some (some a, none)) :
    PairSound m following target destination (some a) none :=
  fun _ _ _ _ stands _ _ _ => ⟨_, kept, stands, stands_none⟩

theorem limited_of_listed {a : Finset Int} (listed : Listed m (some a) none) :
    ∃ limit, a = {limit} ∧ Limited m target target limit := by
  obtain ⟨rfl, _, limit, only, lower, upper⟩ := listed
  refine ⟨limit, Option.some.inj only, by decide, ?_, lower, upper⟩
  have ends : upward "bgeu".toList = false := by decide
  rw [ofLess, ends, beq_self_eq_true]
  rfl

theorem pairSound_unknown {a : Finset Int} :
    PairSound m following target destination (some a) none ↔
      (m ∈ pairBranches → destination = target → following = target →
        ¬Listed m (some a) none) := by
  by_cases listed : ∃ limit, a = {limit} ∧ Limited m target destination limit
  · obtain ⟨limit, rfl, limited⟩ := listed
    by_cases coincident : destination = target ∧ following = target
    · obtain ⟨rfl, rfl⟩ := coincident
      apply iff_of_false
      · exact limited.not_pairSound
      · intro harmless
        apply harmless limited.known rfl rfl
        exact ⟨limited.eq_bgeu, rfl, limit, rfl, limited.lower, limited.upper⟩
    · apply iff_of_true
      · exact limited.pairSound coincident
      · intro _ here there
        exact absurd ⟨here, there⟩ coincident
  · apply iff_of_true
    · apply pairSound_of_kept
      simp only [refinePair]
      cases one : single a with
      | none => rfl
      | some limit =>
          apply if_neg
          intro special
          exact listed ⟨limit, single_eq_some.mp one, special.1, special.2.1, special.2.2.1,
            special.2.2.2⟩
    · intro _ here _ special
      subst here
      exact listed (limited_of_listed special)

theorem pairSound_iff_harmless {left right : Value} :
    PairSound m following target destination left right ↔
      PairHarmless m following target destination left right := by
  match left, right with
  | none, right =>
      apply iff_of_true
      · exact fun reading u v taken _ stands _ _ => ⟨(none, right), rfl, stands_none, stands⟩
      · intro known here there
        constructor
        · intro listed
          obtain ⟨_, _, limit, only, _⟩ := listed
          cases only
        · exact fun a b none => nomatch none
  | some a, none =>
      rw [pairSound_unknown]
      simp only [PairHarmless, reduceCtorEq, false_implies, implies_true, and_true]
  | some a, some b =>
      rw [pairSound_iff]
      constructor
      · intro covered known here there
        subst here
        subst there
        constructor
        · exact fun listed => nomatch listed.2.1
        · intro a' b' first second words x inFirst y inSecond
          cases first
          cases second
          have kept := covered known words x inFirst y inSecond (ite_self _)
          simpa only [ofLess, beq_self_eq_true, Bool.true_beq] using kept
      · intro harmless known words x inFirst y inSecond goes
        by_cases same : following = target
        · subst same
          have here : following = destination := by rwa [goesTo, ite_self] at goes
          subst here
          have kept := (harmless known rfl rfl).2 a b rfl rfl words x inFirst y inSecond
          simpa only [ofLess, beq_self_eq_true, Bool.true_beq] using kept
        · have side := (goesTo_eq_iff same (edge_of_goesTo goes)).mp goes
          have own : compares m x y = ofLess m target destination := by
            rw [ofLess, ← side]
            generalize compares m x y = less
            generalize upward m = up
            revert less up
            decide
          exact ⟨⟨y, inSecond, own⟩, x, inFirst, own⟩

end Pair

end AxolotyEmbedded.Interval
