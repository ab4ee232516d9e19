import Mathlib.Data.List.Dedup
import Mathlib.Data.List.Induction
import Mathlib.Data.List.Nodup

/-!
Dictionaries that keep their keys in the order of insertion, as Python's do: a value put
under a held key takes the place of the old one, and a new key comes last.
-/
namespace AxolotyEmbedded

structure Dict (κ ν : Type) where
  entries : List (κ × ν)
  distinct : (entries.map Prod.fst).Nodup

namespace Dict

variable {κ ν ω α : Type} [DecidableEq κ] {key other : κ} {value : ν} {dict : Dict κ ν}

instance : EmptyCollection (Dict κ ν) := ⟨⟨[], List.nodup_nil⟩⟩

def keys (dict : Dict κ ν) : List κ := dict.entries.map Prod.fst

/-- `dict.get(key)`. -/
def get? (dict : Dict κ ν) (key : κ) : Option ν := dict.entries.lookup key

def putEntry (key : κ) (make : Option ν → ν) : List (κ × ν) → List (κ × ν)
  | [] => [(key, make none)]
  | entry :: rest =>
      if entry.1 = key then (key, make (some entry.2)) :: rest
      else entry :: putEntry key make rest

theorem keys_putEntry (key : κ) (make : Option ν → ν) (entries : List (κ × ν)) :
    (putEntry key make entries).map Prod.fst =
      if key ∈ entries.map Prod.fst then entries.map Prod.fst
      else entries.map Prod.fst ++ [key] := by
  induction entries with
  | nil => rfl
  | cons entry rest ih =>
      by_cases same : entry.1 = key
      · simp [putEntry, same]
      · have apart : ¬key = entry.1 := fun equal => same equal.symm
        rw [putEntry, if_neg same, List.map_cons, ih]
        simp only [List.map_cons, List.mem_cons, apart, false_or]
        split <;> rfl

/-- The value under a key becomes what `make` makes of the old one. -/
def put (dict : Dict κ ν) (key : κ) (make : Option ν → ν) : Dict κ ν where
  entries := putEntry key make dict.entries
  distinct := by
    rw [keys_putEntry]
    split
    · exact dict.distinct
    · next absent =>
        exact List.nodup_append.mpr ⟨dict.distinct, List.nodup_singleton key, by
          rintro a held b inside rfl
          exact absent (List.mem_singleton.mp inside ▸ held)⟩

/-- `dict[key] = value`. -/
def set (dict : Dict κ ν) (key : κ) (value : ν) : Dict κ ν := dict.put key fun _ => value

/-- `dict.update(pairs)`. -/
def update (dict : Dict κ ν) (pairs : List (κ × ν)) : Dict κ ν :=
  pairs.foldl (fun dict pair => dict.set pair.1 pair.2) dict

def mapValues (dict : Dict κ ν) (f : ν → ω) : Dict κ ω where
  entries := dict.entries.map fun entry => (entry.1, f entry.2)
  distinct := by
    simpa only [List.map_map, Function.comp_def] using dict.distinct

theorem keys_put (make : Option ν → ν) :
    (dict.put key make).keys = if key ∈ dict.keys then dict.keys else dict.keys ++ [key] :=
  keys_putEntry key make dict.entries

theorem lookup_cons (entry : κ × ν) (rest : List (κ × ν)) :
    (entry :: rest).lookup key = if key = entry.1 then some entry.2 else rest.lookup key := by
  by_cases same : key = entry.1
  · rw [if_pos same, List.lookup_cons, beq_iff_eq.mpr same]
  · rw [if_neg same, List.lookup_cons, beq_false_of_ne same]

@[simp] theorem get?_empty : (∅ : Dict κ ν).get? key = none := rfl

theorem lookup_putEntry (make : Option ν → ν) (entries : List (κ × ν)) :
    (putEntry key make entries).lookup other =
      if other = key then some (make (entries.lookup key)) else entries.lookup other := by
  induction entries with
  | nil => rw [putEntry, lookup_cons, List.lookup_nil, List.lookup_nil]
  | cons entry rest ih =>
      by_cases held : entry.1 = key
      · subst held
        rw [putEntry, if_pos rfl, lookup_cons, lookup_cons, lookup_cons, if_pos rfl]
        by_cases same : other = entry.1 <;> simp [same]
      · rw [putEntry, if_neg held, lookup_cons, lookup_cons, lookup_cons, ih]
        by_cases same : other = key
        · simp [same, Ne.symm held]
        · by_cases here : other = entry.1 <;> simp [same, here, held]

/-- Only the value under the key changes. -/
theorem get?_put (make : Option ν → ν) :
    (dict.put key make).get? other =
      if other = key then some (make (dict.get? key)) else dict.get? other :=
  lookup_putEntry make dict.entries

@[simp] theorem get?_set :
    (dict.set key value).get? other = if other = key then some value else dict.get? other :=
  get?_put _

/-- Of the pairs with one key the last is kept. -/
theorem get?_update (pairs : List (κ × ν)) :
    (dict.update pairs).get? key = (pairs.reverse.lookup key).or (dict.get? key) := by
  induction pairs using List.reverseRecOn with
  | nil => rfl
  | append_singleton pairs last ih =>
      rw [update, List.foldl_append, List.foldl_cons, List.foldl_nil, get?_set,
        List.reverse_append, List.reverse_singleton, List.singleton_append, lookup_cons, ← update,
        ih]
      by_cases same : key = last.1 <;> simp [same]

theorem get?_mapValues (f : ν → ω) : (dict.mapValues f).get? key = (dict.get? key).map f := by
  have mapped : ∀ entries : List (κ × ν), (entries.map fun entry => (entry.1, f entry.2)).lookup key =
      (entries.lookup key).map f := by
    intro entries
    induction entries with
    | nil => rfl
    | cons entry rest ih =>
        rw [List.map_cons, lookup_cons, lookup_cons, ih]
        split <;> rfl
  exact mapped dict.entries

theorem mem_entries {dict : Dict κ ν} :
    (key, value) ∈ dict.entries ↔ dict.get? key = some value := by
  have found : ∀ entries : List (κ × ν), (entries.map Prod.fst).Nodup →
      ((key, value) ∈ entries ↔ entries.lookup key = some value) := by
    intro entries distinct
    induction entries with
    | nil => simp
    | cons entry rest ih =>
        rw [List.map_cons, List.nodup_cons] at distinct
        rw [List.mem_cons, lookup_cons, ih distinct.2]
        by_cases same : key = entry.1
        · have absent : rest.lookup key ≠ some value := fun held =>
            distinct.1 (same ▸ List.mem_map_of_mem ((ih distinct.2).mpr held))
          simp [same, Prod.ext_iff, eq_comm, same ▸ absent]
        · simp [same, Prod.ext_iff]
  exact found dict.entries dict.distinct

theorem mem_keys : key ∈ dict.keys ↔ ∃ value, dict.get? key = some value := by
  simp only [keys, List.mem_map, Prod.exists, exists_and_right, exists_eq_right, mem_entries]

theorem get?_update_entries (other : Dict κ ν) :
    (dict.update other.entries).get? key = (other.get? key).or (dict.get? key) := by
  have distinct : (other.entries.reverse.map Prod.fst).Nodup := by
    rw [List.map_reverse]
    exact List.nodup_reverse.mpr other.distinct
  have same : other.entries.reverse.lookup key = other.get? key := by
    refine Option.ext fun value => ?_
    have reversed : (key, value) ∈ other.entries.reverse ↔
        other.entries.reverse.lookup key = some value :=
      @mem_entries _ _ _ _ _ ⟨other.entries.reverse, distinct⟩
    rw [← reversed, List.mem_reverse, mem_entries]
  rw [get?_update, same]

/-- Where no key has two values, the order of the pairs does not matter. -/
theorem get?_update_eq_some {pairs : List (κ × ν)}
    (agree : ∀ first ∈ pairs, ∀ second ∈ pairs, first.1 = second.1 → first = second) :
    ((∅ : Dict κ ν).update pairs).get? key = some value ↔ (key, value) ∈ pairs := by
  have agreeReversed : ∀ first ∈ pairs.reverse, ∀ second ∈ pairs.reverse,
      first.1 = second.1 → first = second := fun first held second other =>
    agree first (List.mem_reverse.mp held) second (List.mem_reverse.mp other)
  rw [get?_update, get?_empty, Option.or_none, ← List.mem_reverse]
  generalize pairs.reverse = reversed at agreeReversed
  induction reversed with
  | nil => simp
  | cons pair rest ih =>
      rw [lookup_cons]
      by_cases same : key = pair.1
      · rw [if_pos same, Option.some.injEq]
        constructor
        · rintro rfl
          exact same ▸ List.mem_cons_self
        · intro held
          exact congrArg Prod.snd
            (agreeReversed pair List.mem_cons_self (key, value) held same.symm)
      · have later := ih fun first held second other => agreeReversed first
          (List.mem_cons_of_mem _ held) second (List.mem_cons_of_mem _ other)
        rw [if_neg same, List.mem_cons]
        exact later.trans (or_iff_right fun equal => same (congrArg Prod.fst equal)).symm

/-! ## Selections -/

/-- `{key: value for key, value in dict.items() if kept}`. -/
def filter (dict : Dict κ ν) (kept : κ × ν → Bool) : Dict κ ν where
  entries := dict.entries.filter kept
  distinct := dict.distinct.sublist (List.filter_sublist.map Prod.fst)

def meetEntries (f : ν → ν → ν) (other : Dict κ ν) (entries : List (κ × ν)) : List (κ × ν) :=
  entries.filterMap fun entry => (other.get? entry.1).map fun value => (entry.1, f entry.2 value)

theorem keys_meetEntries (f : ν → ν → ν) (other : Dict κ ν) (entries : List (κ × ν)) :
    ((meetEntries f other entries).map Prod.fst).Sublist (entries.map Prod.fst) := by
  induction entries with
  | nil => exact List.Sublist.slnil
  | cons entry rest ih =>
      rw [meetEntries, List.filterMap_cons]
      cases other.get? entry.1 with
      | none => exact ih.cons entry.1
      | some value => exact ih.cons_cons entry.1

/-- `{key: f(value, other[key]) for key, value in dict.items() if key in other}`. -/
def meet (f : ν → ν → ν) (dict other : Dict κ ν) : Dict κ ν where
  entries := meetEntries f other dict.entries
  distinct := dict.distinct.sublist (keys_meetEntries f other dict.entries)

theorem get?_meet (f : ν → ν → ν) (other : Dict κ ν) :
    (meet f dict other).get? key =
      (dict.get? key).bind fun value => (other.get? key).map (f value) := by
  have found : ∀ entries : List (κ × ν), (entries.map Prod.fst).Nodup →
      (meetEntries f other entries).lookup key =
        (entries.lookup key).bind fun value => (other.get? key).map (f value) := by
    intro entries distinct
    induction entries with
    | nil => rfl
    | cons entry rest ih =>
        rw [List.map_cons, List.nodup_cons] at distinct
        have later := ih distinct.2
        rw [meetEntries, List.filterMap_cons, lookup_cons]
        by_cases same : key = entry.1
        · subst same
          cases held : other.get? entry.1 with
          | none =>
              have absent : rest.lookup entry.1 = none := by
                rw [List.lookup_eq_none_iff]
                intro other member
                rw [bne_iff_ne]
                intro same
                exact distinct.1 (same ▸ List.mem_map_of_mem member)
              simp only [Option.map_none, if_true, Option.bind_some]
              rw [meetEntries] at later
              rw [later, absent]
              rfl
          | some value => simp [lookup_cons]
        · rw [meetEntries] at later
          cases other.get? entry.1 with
          | none => simp [later, same]
          | some value => simp [lookup_cons, later, same]
  exact found dict.entries dict.distinct

/-- `dict == other`. -/
def SameItems (dict other : Dict κ ν) : Prop :=
  (∀ entry ∈ dict.entries, other.get? entry.1 = some entry.2) ∧
    ∀ entry ∈ other.entries, dict.get? entry.1 = some entry.2

instance decidableSameItems [DecidableEq ν] (dict other : Dict κ ν) :
    Decidable (dict.SameItems other) := inferInstanceAs (Decidable (_ ∧ _))

theorem SameItems.get?_eq {dict other : Dict κ ν} (same : dict.SameItems other) :
    dict.get? key = other.get? key := by
  refine Option.ext fun value => ?_
  constructor
  · intro held
    exact same.1 (key, value) (mem_entries.mpr held)
  · intro held
    exact same.2 (key, value) (mem_entries.mpr held)

/-! ## Groups -/

/-- `groups.setdefault(key(a), []).append(a)` for every member of a list. -/
def groupBy (key : α → κ) (list : List α) : Dict κ (List α) :=
  list.foldl (fun groups a => groups.put (key a) fun old => old.getD [] ++ [a]) ∅

variable {list : List α} {name : α → κ}

theorem groupBy_append_singleton (a : α) :
    groupBy name (list ++ [a]) =
      (groupBy name list).put (name a) fun old => old.getD [] ++ [a] := by
  rw [groupBy, List.foldl_append, List.foldl_cons, List.foldl_nil, ← groupBy]

theorem get?_groupBy :
    (groupBy name list).get? key =
      if key ∈ list.map name then some (list.filter fun a => name a = key) else none := by
  induction list using List.reverseRecOn with
  | nil => rfl
  | append_singleton list a ih =>
      have empty : (name a) ∉ list.map name → list.filter (fun b => name b = name a) = [] :=
        fun absent => List.filter_eq_nil_iff.mpr fun b held same =>
          absent (of_decide_eq_true same ▸ List.mem_map_of_mem held)
      rw [groupBy_append_singleton, get?_put, List.filter_append, List.map_append]
      by_cases same : key = name a
      · subst same
        by_cases held : name a ∈ list.map name
        · simp [ih, held]
        · simp [ih, held, empty held]
      · simp [same, ih, Ne.symm same]

theorem mem_keys_groupBy : key ∈ (groupBy name list).keys ↔ key ∈ list.map name := by
  rw [mem_keys, get?_groupBy]
  split <;> simp [*]

/-- The groups stand in the order in which their keys first appear. -/
theorem pairwise_keys_groupBy :
    (groupBy name list).keys.Pairwise fun first second =>
      (list.map name).idxOf first < (list.map name).idxOf second := by
  induction list using List.reverseRecOn with
  | nil => exact List.Pairwise.nil
  | append_singleton list a ih =>
      have early : ∀ b ∈ (groupBy name list).keys,
          ((list ++ [a]).map name).idxOf b = (list.map name).idxOf b := by
        intro b held
        rw [List.map_append, List.idxOf_append_of_mem (mem_keys_groupBy.mp held)]
      have kept : (groupBy name list).keys.Pairwise fun first second =>
          ((list ++ [a]).map name).idxOf first < ((list ++ [a]).map name).idxOf second :=
        ih.imp_of_mem fun firstHeld secondHeld before => by
          rwa [early _ firstHeld, early _ secondHeld]
      rw [groupBy_append_singleton, keys_put]
      split
      · exact kept
      · next absent =>
          refine List.pairwise_append.mpr ⟨kept, List.pairwise_singleton _ _, ?_⟩
          intro first held second last
          obtain rfl := List.mem_singleton.mp last
          have outside : name a ∉ list.map name := fun inside => absent (mem_keys_groupBy.mpr inside)
          rw [early _ held, List.map_append, List.idxOf_append_of_notMem outside]
          have := List.idxOf_lt_length_iff.mpr (mem_keys_groupBy.mp held)
          omega

/-! ## The last block that gives a key -/

/-- Blocks that give one value to all their keys, put in order. -/
theorem get?_update_blocks {β : Type} (blocks : List β) (names : β → List κ) (value : β → ν) :
    ((∅ : Dict κ ν).update
        (blocks.flatMap fun block => (names block).map fun n => (n, value block))).get? key =
      (blocks.reverse.find? fun block => key ∈ names block).map value := by
  have inBlock : ∀ block,
      (((names block).map fun n => (n, value block)).reverse.lookup key) =
        if key ∈ names block then some (value block) else none := by
    intro block
    induction names block using List.reverseRecOn with
    | nil => rfl
    | append_singleton rest n ih =>
        rw [List.map_append, List.reverse_append, List.map_singleton, List.reverse_singleton,
          List.singleton_append, lookup_cons, ih]
        by_cases same : key = n <;> simp [same]
  rw [get?_update, get?_empty, Option.or_none]
  induction blocks using List.reverseRecOn with
  | nil => rfl
  | append_singleton blocks block ih =>
      rw [List.flatMap_append, List.reverse_append, List.flatMap_singleton, List.lookup_append,
        inBlock, ih, List.reverse_append, List.reverse_singleton, List.singleton_append,
        List.find?_cons]
      by_cases held : key ∈ names block <;> simp [held]

/-- In an ordered list the last member found is the greatest of those that qualify. -/
theorem find?_reverse_eq_some {β : Type} {blocks : List β} {rank : β → Nat} {p : β → Bool}
    {block : β} (ordered : blocks.Pairwise fun first second => rank first < rank second) :
    blocks.reverse.find? p = some block ↔
      block ∈ blocks ∧ p block = true ∧
        ∀ other ∈ blocks, p other = true → rank other ≤ rank block := by
  induction blocks using List.reverseRecOn with
  | nil => simp
  | append_singleton blocks last ih =>
      obtain ⟨before, -, below⟩ := List.pairwise_append.mp ordered
      rw [List.reverse_append, List.reverse_singleton, List.singleton_append, List.find?_cons]
      cases found : p last with
      | true =>
          simp only [Option.some.injEq, List.mem_append, List.mem_singleton]
          constructor
          · rintro rfl
            refine ⟨Or.inr rfl, found, ?_⟩
            rintro other (held | rfl) -
            · exact Nat.le_of_lt (below other held _ (List.mem_singleton_self _))
            · exact Nat.le_refl _
          · rintro ⟨held | rfl, -, greatest⟩
            · have := below block held last (List.mem_singleton_self _)
              have := greatest last (Or.inr rfl) found
              omega
            · rfl
      | false =>
          simp only [ih before, List.mem_append, List.mem_singleton]
          constructor
          · rintro ⟨held, qualifies, greatest⟩
            refine ⟨Or.inl held, qualifies, ?_⟩
            rintro other (inside | rfl) good
            · exact greatest other inside good
            · rw [found] at good
              cases good
          · rintro ⟨held | rfl, qualifies, greatest⟩
            · exact ⟨held, qualifies, fun other inside => greatest other (Or.inl inside)⟩
            · rw [found] at qualifies
              cases qualifies

end Dict
end AxolotyEmbedded
