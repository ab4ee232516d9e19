import Mathlib.Data.List.Chain
import Mathlib.Data.List.Infix
import AxolotyEmbedded.Zenoh.KeyExpression

/-!
The key-expression grammar as derivations, and that the scanner of the carrier
accepts exactly what has one. A derivation cannot be ill formed: its plain bytes
are not reserved, its chunks have items, and no two pairs stand side by side.
-/
namespace AxolotyEmbedded.Zenoh.KeyExpression

/-- `/`, `#`, `?`, `*` and `$`. -/
def reserved : List UInt8 := [0x2F, 0x23, 0x3F, 0x2A, 0x24]

inductive Item where
  | byte (value : UInt8) (plain : value ∉ reserved)
  /-- The in-chunk wildcard `$*`. -/
  | pair
  deriving DecidableEq

def Item.bytes : Item → List UInt8
  | .byte value _ => [value]
  | .pair => [0x24, 0x2A]

/-- Two neighbours that are not both pairs. -/
def Apart (first second : Item) : Prop := ¬ (first = .pair ∧ second = .pair)

/-- A nonempty sequence of items without adjacent pairs. -/
structure Items where
  items : List Item
  nonempty : items ≠ []
  apart : items.IsChain Apart

inductive Chunk where
  | star
  | doubleStar
  | sequence (items : Items)

def spell (items : List Item) : List UInt8 := items.flatMap Item.bytes

def Chunk.bytes : Chunk → List UInt8
  | .star => [0x2A]
  | .doubleStar => [0x2A, 0x2A]
  | .sequence items => spell items.items

/-- A nonempty list of chunks, which the text joins by `/`. -/
structure Expression where
  chunks : List Chunk
  nonempty : chunks ≠ []

def Expression.bytes (expression : Expression) : List UInt8 :=
  [0x2F].intercalate (expression.chunks.map Chunk.bytes)

variable {key chunk : List UInt8} {items : List Item} {allowWildcards previousWasPair : Bool}

/-! ## Chunks -/

@[simp] theorem spell_nil : spell [] = [] := rfl

@[simp] theorem spell_cons (item : Item) (items : List Item) :
    spell (item :: items) = item.bytes ++ spell items := rfl

/-- The items may stand after what the scanner has passed. -/
structure Follows (previousWasPair : Bool) (items : List Item) : Prop where
  apart : items.IsChain Apart
  first : previousWasPair = true → items.head? ≠ some .pair

theorem follows_cons {item : Item} :
    Follows previousWasPair (item :: items) ↔
      ¬ (previousWasPair = true ∧ item = .pair) ∧ Follows (decide (item = .pair)) items := by
  constructor
  · rintro ⟨apart, first⟩
    rw [List.isChain_cons] at apart
    refine ⟨fun ⟨before, pair⟩ => first before (by rw [pair]; rfl), apart.2, ?_⟩
    intro pair second
    exact apart.1 .pair second ⟨of_decide_eq_true pair, rfl⟩
  · rintro ⟨first, apart, second⟩
    refine ⟨List.isChain_cons.mpr ⟨?_, apart⟩, ?_⟩
    · rintro next head ⟨pair, rfl⟩
      exact second (by simp [pair]) head
    · intro before head
      exact first ⟨before, Option.some.inj head⟩

theorem follows_nil : Follows previousWasPair [] := ⟨.nil, fun _ => by simp⟩

theorem separator_not_mem_spell (items : List Item) : 0x2F ∉ spell items := by
  induction items with
  | nil => simp
  | cons item items ih =>
      rw [spell_cons, List.mem_append, not_or]
      refine ⟨?_, ih⟩
      cases item with
      | byte value plain =>
          simp only [Item.bytes, List.mem_singleton]
          rintro rfl
          exact plain (by decide)
      | pair => decide

theorem itemsValid_plain {byte : UInt8} {rest : List UInt8} (plain : byte ∉ reserved) :
    itemsValid allowWildcards previousWasPair (byte :: rest) =
      itemsValid allowWildcards false rest := by
  simp only [reserved, List.mem_cons, List.not_mem_nil, or_false, not_or] at plain
  rw [itemsValid.eq_def]
  simp [plain]

/-- The scanner passes over what a sequence of items spells. -/
theorem itemsValid_spell (follows : Follows previousWasPair items) :
    itemsValid true previousWasPair (spell items) = true := by
  induction items generalizing previousWasPair with
  | nil => rw [spell_nil, itemsValid]
  | cons item items ih =>
      obtain ⟨first, rest⟩ := follows_cons.mp follows
      rw [spell_cons]
      cases item with
      | byte value plain =>
          rw [Item.bytes, List.singleton_append, itemsValid_plain plain]
          exact ih (by simpa using rest)
      | pair =>
          have passed := ih (by simpa using rest)
          have alone : previousWasPair = false := by simpa using first
          simpa [Item.bytes, itemsValid, alone] using passed

/-- What the scanner passes over is spelled by a sequence of items. -/
theorem exists_items (valid : itemsValid true previousWasPair chunk = true)
    (whole : 0x2F ∉ chunk) : ∃ items, spell items = chunk ∧ Follows previousWasPair items := by
  fun_induction itemsValid true previousWasPair chunk with
  | case1 => exact ⟨[], rfl, follows_nil⟩
  | case2 => cases valid
  | case3 previousWasPair next rest _ ih =>
      simp only [Bool.true_and, Bool.and_eq_true, beq_iff_eq, Bool.not_eq_true'] at valid
      obtain ⟨⟨rfl, alone⟩, valid⟩ := valid
      obtain ⟨items, spelled, follows⟩ := ih valid (by simp_all)
      exact ⟨.pair :: items, by simp [Item.bytes, spelled],
        follows_cons.mpr ⟨by simp [alone], by simpa using follows⟩⟩
  | case4 => cases valid
  | case5 previousWasPair byte rest other dollar ih =>
      rw [List.mem_cons, not_or] at whole
      obtain ⟨items, spelled, follows⟩ := ih valid whole.2
      have plain : byte ∉ reserved := by
        simp only [reserved, List.mem_cons, List.not_mem_nil, or_false]
        rintro (slash | other')
        · exact whole.1 slash.symm
        · tauto
      exact ⟨.byte byte plain :: items, by simp [Item.bytes, spelled],
        follows_cons.mpr ⟨by simp, by simpa using follows⟩⟩

theorem chunkIsValid_iff (whole : 0x2F ∉ chunk) :
    (chunk ≠ [] ∧ chunkIsValid true chunk = true) ↔ ∃ derived : Chunk, derived.bytes = chunk := by
  constructor
  · rintro ⟨nonempty, valid⟩
    rw [chunkIsValid] at valid
    split at valid
    · next wildcard =>
      obtain rfl | rfl := wildcard
      · exact ⟨.star, rfl⟩
      · exact ⟨.doubleStar, rfl⟩
    · obtain ⟨items, spelled, follows⟩ := exists_items valid whole
      refine ⟨.sequence ⟨items, ?_, follows.apart⟩, spelled⟩
      rintro rfl
      exact nonempty spelled.symm
  · rintro ⟨derived, rfl⟩
    cases derived with
    | star => decide
    | doubleStar => decide
    | sequence items =>
        obtain ⟨items, nonempty, apart⟩ := items
        constructor
        · obtain ⟨item, rest, rfl⟩ := List.exists_cons_of_ne_nil nonempty
          cases item <;> simp [Chunk.bytes, Item.bytes]
        · rw [chunkIsValid]
          split
          · rfl
          · exact itemsValid_spell ⟨apart, fun before => by cases before⟩

theorem separator_not_mem_bytes (derived : Chunk) : 0x2F ∉ derived.bytes := by
  cases derived with
  | star => decide
  | doubleStar => decide
  | sequence items => exact separator_not_mem_spell items.items

/-! ## Keys -/

/-- The loop over the key checks the chunks that `/` separates. -/
theorem chunksValid_eq (whole : 0x2F ∉ chunk) (rest : List UInt8) :
    chunksValid allowWildcards chunk rest =
      ((chunk ++ rest).splitOn 0x2F).all fun chunk =>
        !chunk.isEmpty && chunkIsValid allowWildcards chunk := by
  induction rest generalizing chunk with
  | nil => rw [List.append_nil, List.splitOn_eq_singleton whole, chunksValid]; simp
  | cons byte rest ih =>
      rw [chunksValid]
      split
      · next separator =>
        rw [separator, List.splitOn_append_cons_self_of_not_mem whole, List.all_cons,
          ih (by simp), List.nil_append]
      · next other =>
        rw [ih (by simp [whole, Ne.symm other]), List.append_assoc, List.singleton_append]

theorem isValid_iff :
    isValid allowWildcards key = true ↔
      ∀ chunk ∈ key.splitOn 0x2F, chunk ≠ [] ∧ chunkIsValid allowWildcards chunk = true := by
  rw [isValid, chunksValid_eq (by simp), List.nil_append]
  cases key with
  | nil => simp
  | cons byte rest => simp

theorem separator_not_mem_of_mem_splitOn (member : chunk ∈ key.splitOn 0x2F) : 0x2F ∉ chunk := by
  induction key generalizing chunk with
  | nil => simp_all
  | cons byte rest ih =>
      rw [List.splitOn_cons_eq_if_modifyHead] at member
      split at member
      · obtain rfl | member := List.mem_cons.mp member
        · simp
        · exact ih member
      · next other =>
        obtain ⟨first, others, split⟩ := List.exists_cons_of_ne_nil (List.splitOn_ne_nil 0x2F rest)
        rw [split] at member ih
        rw [List.modifyHead_cons, List.mem_cons] at member
        obtain rfl | member := member
        · rw [List.mem_cons, not_or]
          exact ⟨fun same => other (by simp [← same]), ih (List.mem_cons_self ..)⟩
        · exact ih (List.mem_cons_of_mem _ member)

/-- Derivations of all chunks are a derivation of the key. -/
theorem exists_expression_iff :
    (∃ expression : Expression, expression.bytes = key) ↔
      ∀ chunk ∈ key.splitOn 0x2F, ∃ derived : Chunk, derived.bytes = chunk := by
  constructor
  · rintro ⟨⟨chunks, nonempty⟩, rfl⟩ chunk member
    rw [Expression.bytes, List.splitOn_intercalate _ _ (by simpa using nonempty)] at member
    · obtain ⟨derived, -, spelled⟩ := List.mem_map.mp member
      exact ⟨derived, spelled⟩
    · intro chunk member
      obtain ⟨derived, -, rfl⟩ := List.mem_map.mp member
      exact separator_not_mem_bytes derived
  · intro derivations
    have all : ∃ chunks : List Chunk, chunks.map Chunk.bytes = key.splitOn 0x2F := by
      generalize key.splitOn 0x2F = texts at derivations
      induction texts with
      | nil => exact ⟨[], rfl⟩
      | cons text texts ih =>
          obtain ⟨chunk, spelled⟩ := derivations text (by simp)
          obtain ⟨chunks, rest⟩ := ih fun text member => derivations text (by simp [member])
          exact ⟨chunk :: chunks, by simp [spelled, rest]⟩
    obtain ⟨chunks, spelled⟩ := all
    refine ⟨⟨chunks, ?_⟩, ?_⟩
    · rintro rfl
      exact List.splitOn_ne_nil _ _ spelled.symm
    · rw [Expression.bytes, spelled, List.intercalate_splitOn]

/-- A key is accepted for a subscription exactly when it has a derivation. -/
theorem subscription_iff :
    isValidSubscription key = true ↔ ∃ expression : Expression, expression.bytes = key := by
  rw [isValidSubscription, isValid_iff, exists_expression_iff]
  exact forall₂_congr fun chunk member =>
    chunkIsValid_iff (separator_not_mem_of_mem_splitOn member)

/-! ## Publications -/

/-- Without wildcards the scanner refuses every `$`. -/
theorem itemsValid_false_iff :
    itemsValid false previousWasPair chunk = true ↔
      itemsValid true previousWasPair chunk = true ∧ 0x24 ∉ chunk := by
  fun_induction itemsValid false previousWasPair chunk with
  | case1 => simp [itemsValid]
  | case2 previousWasPair byte rest other =>
      rw [itemsValid.eq_def]
      simp [other]
  | case3 previousWasPair next rest _ ih => simp
  | case4 => simp [itemsValid]
  | case5 previousWasPair byte rest other dollar ih =>
      rw [ih, itemsValid.eq_def true previousWasPair]
      simp [other, dollar, Ne.symm dollar]

theorem chunkIsValid_false_iff :
    chunkIsValid false chunk = true ↔
      chunkIsValid true chunk = true ∧ chunk ≠ [0x2A] ∧ chunk ≠ [0x2A, 0x2A] ∧ 0x24 ∉ chunk := by
  simp only [chunkIsValid]
  split
  · next wildcard => obtain rfl | rfl := wildcard <;> simp
  · next other =>
    rw [not_or] at other
    simp [itemsValid_false_iff, other]

/-- A `$` that the scanner lets pass opens a `$*`. -/
theorem pair_of_dollar (valid : itemsValid true previousWasPair chunk = true)
    (dollar : 0x24 ∈ chunk) : [0x24, 0x2A] <:+: chunk := by
  fun_induction itemsValid true previousWasPair chunk with
  | case1 => simp at dollar
  | case2 => cases valid
  | case3 previousWasPair next rest _ ih =>
      simp only [Bool.and_eq_true, beq_iff_eq] at valid
      rw [valid.1.1.2]
      exact ⟨[], rest, rfl⟩
  | case4 => cases valid
  | case5 previousWasPair byte rest other plain ih =>
      obtain same | later := List.mem_cons.mp dollar
      · exact absurd same.symm plain
      · exact (ih valid later).trans (List.suffix_cons byte rest).isInfix

theorem infix_intercalate {chunks : List (List UInt8)} (member : chunk ∈ chunks) :
    chunk <:+: [0x2F].intercalate chunks := by
  induction chunks with
  | nil => cases member
  | cons first rest ih =>
      cases rest with
      | nil =>
          obtain rfl := List.mem_singleton.mp member
          simp
      | cons second rest =>
          rw [List.intercalate_cons_cons]
          obtain rfl | member := List.mem_cons.mp member
          · exact ⟨[], _, by simp; rfl⟩
          · exact (ih member).trans (List.suffix_append ..).isInfix

theorem infix_of_mem_splitOn (member : chunk ∈ key.splitOn 0x2F) : chunk <:+: key := by
  have within := infix_intercalate member
  rwa [List.intercalate_splitOn] at within

theorem mem_of_mem_key {byte : UInt8} (other : byte ≠ 0x2F) (member : byte ∈ key) :
    ∃ chunk ∈ key.splitOn 0x2F, byte ∈ chunk := by
  have whole : ([0x2F] : List UInt8).intercalate (key.splitOn 0x2F) = key :=
    List.intercalate_splitOn 0x2F
  rw [← whole] at member
  generalize key.splitOn 0x2F = chunks at member
  induction chunks with
  | nil => simp at member
  | cons first rest ih =>
      cases rest with
      | nil => exact ⟨first, by simp, by simpa using member⟩
      | cons second rest =>
          rw [List.intercalate_cons_cons, List.mem_append, List.mem_append,
            List.mem_singleton] at member
          obtain (here | separator) | later := member
          · exact ⟨first, by simp, here⟩
          · exact absurd separator other
          · obtain ⟨chunk, within, here⟩ := ih later
            exact ⟨chunk, List.mem_cons_of_mem _ within, here⟩

/-- The grammar of the two checks: the derivable keys, and those of them without a
wildcard. -/
theorem grammar (key : List UInt8) :
    (isValidSubscription key = true ↔ ∃ expression : Expression, expression.bytes = key) ∧
      (isValidPublication key = true ↔ (∃ expression : Expression, expression.bytes = key) ∧
        [0x2A] ∉ key.splitOn 0x2F ∧ [0x2A, 0x2A] ∉ key.splitOn 0x2F ∧ ¬ [0x24, 0x2A] <:+: key) ∧
      (isValidPublication key = true → isValidSubscription key = true) := by
  have publication : isValidPublication key = true ↔
      (∃ expression : Expression, expression.bytes = key) ∧
        [0x2A] ∉ key.splitOn 0x2F ∧ [0x2A, 0x2A] ∉ key.splitOn 0x2F ∧
          ¬ [0x24, 0x2A] <:+: key := by
    rw [← subscription_iff, isValidPublication, isValidSubscription, isValid_iff, isValid_iff]
    constructor
    · intro valid
      refine ⟨fun chunk member => ⟨(valid chunk member).1,
        (chunkIsValid_false_iff.mp (valid chunk member).2).1⟩, ?_, ?_, ?_⟩
      · intro member
        exact (chunkIsValid_false_iff.mp (valid _ member).2).2.1 rfl
      · intro member
        exact (chunkIsValid_false_iff.mp (valid _ member).2).2.2.1 rfl
      · intro within
        obtain ⟨chunk, member, dollar⟩ := mem_of_mem_key (by decide)
          (within.subset (List.mem_cons_self ..))
        exact (chunkIsValid_false_iff.mp (valid chunk member).2).2.2.2 dollar
    · rintro ⟨valid, star, doubleStar, pair⟩ chunk member
      obtain ⟨nonempty, accepted⟩ := valid chunk member
      have noStar : chunk ≠ [0x2A] := fun same => star (same ▸ member)
      have noDouble : chunk ≠ [0x2A, 0x2A] := fun same => doubleStar (same ▸ member)
      refine ⟨nonempty, chunkIsValid_false_iff.mpr ⟨accepted, noStar, noDouble, ?_⟩⟩
      intro dollar
      rw [chunkIsValid, if_neg (not_or.mpr ⟨noStar, noDouble⟩)] at accepted
      exact pair ((pair_of_dollar accepted dollar).trans (infix_of_mem_splitOn member))
  refine ⟨subscription_iff, publication, ?_⟩
  intro valid
  exact subscription_iff.mpr (publication.mp valid).1

end AxolotyEmbedded.Zenoh.KeyExpression
