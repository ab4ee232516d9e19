import AxolotyEmbedded.FirstInit.Listing

/-!
What `parse_symbols` leaves under each address and under each name: the function of all
symbols of an address, and for a name the function of the last group that lists it.
-/
namespace AxolotyEmbedded.FirstInit

open PythonText

/-- In a list of names with addresses: of the addresses of a name, the one whose first
entry, under any name, stands last. -/
structure Binds (entries : List (Str × Nat)) (name : Str) (address : Nat) : Prop where
  held : (name, address) ∈ entries
  last : ∀ other, (name, other) ∈ entries →
    (entries.map Prod.snd).idxOf other ≤ (entries.map Prod.snd).idxOf address

variable {name : Str} {address : Nat} {lines : List SymbolLine}

def namedAddresses (lines : List SymbolLine) : List (Str × Nat) :=
  lines.map fun line => (line.name, line.address)

theorem mem_group {group : Nat × List SymbolLine} (held : group ∈ (symbolGroups lines).entries) :
    name ∈ group.2.map SymbolLine.name ↔ (name, group.1) ∈ namedAddresses lines := by
  have found := Dict.mem_entries.mp held
  rw [symbolGroups, Dict.get?_groupBy] at found
  split at found
  · rw [← Option.some.inj found]
    simp only [namedAddresses, List.mem_map, List.mem_filter, decide_eq_true_eq, Prod.mk.injEq]
    exact exists_congr fun line => and_assoc.trans (and_congr_right fun _ => and_comm)
  · cases found

theorem exists_group (held : (name, address) ∈ namedAddresses lines) :
    ∃ group ∈ (symbolGroups lines).entries, group.1 = address ∧
      name ∈ group.2.map SymbolLine.name := by
  obtain ⟨line, inside, equal⟩ := List.mem_map.mp held
  obtain ⟨rfl, rfl⟩ := Prod.ext_iff.mp equal
  have found : (symbolGroups lines).get? line.address =
      some (lines.filter fun other => other.address = line.address) := by
    rw [symbolGroups, Dict.get?_groupBy, if_pos (List.mem_map_of_mem inside)]
  exact ⟨_, Dict.mem_entries.mpr found, rfl, (mem_group (Dict.mem_entries.mpr found)).mpr held⟩

/-- `by_name` keeps the last group that lists a name. -/
theorem functionsByName_start :
    ((functionsByName lines).get? name).map Function.start = some address ↔
      Binds (namedAddresses lines) name address := by
  have ordered : (symbolGroups lines).entries.Pairwise fun first second =>
      ((namedAddresses lines).map Prod.snd).idxOf first.1 <
        ((namedAddresses lines).map Prod.snd).idxOf second.1 := by
    have keys : (symbolGroups lines).keys.Pairwise fun first second =>
        (lines.map SymbolLine.address).idxOf first < (lines.map SymbolLine.address).idxOf second :=
      Dict.pairwise_keys_groupBy
    have addresses : (namedAddresses lines).map Prod.snd = lines.map SymbolLine.address :=
      List.map_map
    rw [addresses]
    rw [Dict.keys, List.pairwise_map] at keys
    exact keys
  rw [functionsByName, Dict.get?_update_blocks]
  simp only [Option.map_eq_some_iff, Dict.find?_reverse_eq_some ordered, decide_eq_true_eq]
  constructor
  · rintro ⟨_, ⟨group, ⟨held, named, greatest⟩, rfl⟩, rfl⟩
    refine ⟨(mem_group held).mp named, fun other listed => ?_⟩
    obtain ⟨rival, inside, rfl, rivalNamed⟩ := exists_group listed
    exact greatest rival inside rivalNamed
  · intro binds
    obtain ⟨group, held, rfl, named⟩ := exists_group binds.held
    exact ⟨_, ⟨group, ⟨held, named, fun other inside otherNamed =>
      binds.last other.1 ((mem_group inside).mp otherNamed)⟩, rfl⟩, rfl⟩

theorem functionsByName_eq_none :
    (functionsByName lines).get? name = none ↔ ∀ other, (name, other) ∉ namedAddresses lines := by
  rw [functionsByName, Dict.get?_update_blocks, Option.map_eq_none_iff, List.find?_eq_none]
  simp only [List.mem_reverse, decide_eq_true_eq]
  constructor
  · intro unnamed other listed
    obtain ⟨group, held, -, named⟩ := exists_group listed
    exact unnamed group held named
  · intro absent group held named
    exact absent group.1 ((mem_group held).mp named)

/-- What stands under an address is the function of all its symbols. -/
theorem get?_functionsByAddress :
    (functionsByAddress lines).get? address =
      if address ∈ lines.map SymbolLine.address then
        some (aliasedFunction address (lines.filter fun line => line.address = address))
      else none := by
  refine Option.ext fun fn => ?_
  rw [← Dict.mem_entries]
  simp only [functionsByAddress, List.mem_map, Prod.mk.injEq]
  constructor
  · rintro ⟨⟨held, aliases⟩, inside, rfl, rfl⟩
    have found := Dict.mem_entries.mp inside
    rw [symbolGroups, Dict.get?_groupBy] at found
    split at found
    · next listed =>
        obtain rfl := Option.some.inj found
        rw [if_pos (List.mem_map.mp listed)]
    · cases found
  · intro found
    split at found
    · next listed =>
        obtain rfl := Option.some.inj found
        refine ⟨(address, lines.filter fun line => line.address = address),
          Dict.mem_entries.mpr ?_, rfl, rfl⟩
        rw [symbolGroups, Dict.get?_groupBy, if_pos (List.mem_map.mpr listed)]
    · cases found

theorem start_of_get?_functionsByAddress {fn : Function}
    (found : (functionsByAddress lines).get? address = some fn) : fn.start = address := by
  rw [get?_functionsByAddress] at found
  split at found
  · obtain rfl := Option.some.inj found
    rfl
  · cases found

/-- The function a name stands for is the one under its start. -/
theorem get?_start_of_functionsByName {fn : Function}
    (found : (functionsByName lines).get? name = some fn) :
    (functionsByAddress lines).get? fn.start = some fn := by
  rw [functionsByName, Dict.get?_update_blocks] at found
  obtain ⟨group, last, rfl⟩ := Option.map_eq_some_iff.mp found
  have held := List.mem_reverse.mp (List.mem_of_find?_eq_some last)
  exact Dict.mem_entries.mp (List.mem_map.mpr ⟨group, held, rfl⟩)

/-- A name stands for the function of the address it is left with. -/
theorem get?_functionsByName {fn : Function} :
    (functionsByName lines).get? name = some fn ↔
      Binds (namedAddresses lines) name fn.start ∧
        (functionsByAddress lines).get? fn.start = some fn := by
  constructor
  · intro found
    exact ⟨functionsByName_start.mp (by rw [found]; rfl), get?_start_of_functionsByName found⟩
  · rintro ⟨binds, held⟩
    obtain ⟨other, found, start⟩ := Option.map_eq_some_iff.mp (functionsByName_start.mpr binds)
    have there := get?_start_of_functionsByName found
    rw [start, held] at there
    exact Option.some.inj there ▸ found

end AxolotyEmbedded.FirstInit
