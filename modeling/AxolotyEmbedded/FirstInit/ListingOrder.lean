import Mathlib.Data.List.Dedup
import AxolotyEmbedded.FirstInit.SymbolNames

/-!
What of `parse_symbols` depends on the order of the listing. Two lines with one name decide
it: of several sizes, kinds or addresses of a name the last line is kept.
-/
namespace AxolotyEmbedded.FirstInit

open PythonText

/-- `==` of two functions; dictionaries are equal whatever the order of their keys. -/
structure Function.Same (first second : Function) : Prop where
  name : first.name = second.name
  start : first.start = second.start
  size : first.size = second.size
  instructions : first.instructions = second.instructions
  symbolSizes : ∀ name, first.symbolSizes.get? name = second.symbolSizes.get? name
  symbolKinds : ∀ name, first.symbolKinds.get? name = second.symbolKinds.get? name

/-- Equal results of `parse_symbols`. -/
structure SameSymbols (first second : Dict Nat Function × Dict Str Function) : Prop where
  functions : ∀ address, Option.Rel Function.Same (first.1.get? address) (second.1.get? address)
  names : ∀ name, Option.Rel Function.Same (first.2.get? name) (second.2.get? name)

/-- Every listing of the same lines gives the same symbols. -/
def OrderIrrelevant (tables : UnicodeTables) (text : Str) : Prop :=
  ∀ other, (splitLines other).Perm (splitLines text) →
    SameSymbols (parseSymbols tables other) (parseSymbols tables text)

/-- Lines with one name agree in their address, size and kind. -/
def NamesAgree (lines : List SymbolLine) : Prop :=
  ∀ first ∈ lines, ∀ second ∈ lines, first.name = second.name → first = second

variable {tables : UnicodeTables} {text : Str} {lines others : List SymbolLine} {address : Nat}
  {name : Str}

/-! ## Names that agree -/

theorem NamesAgree.perm (agree : NamesAgree lines) (perm : others.Perm lines) :
    NamesAgree others := fun first held second other =>
  agree first (perm.mem_iff.mp held) second (perm.mem_iff.mp other)

theorem maxSize_perm (perm : others.Perm lines) : maxSize others = maxSize lines :=
  perm.foldr_eq' (fun first _ second _ largest => by omega) 0

theorem maxNames_perm (perm : others.Perm lines) : maxNames others = maxNames lines := by
  have total : Std.Total fun first second : Str => strLe first second = true := ⟨strLe_total⟩
  have trans : IsTrans Str fun first second => strLe first second = true :=
    ⟨fun _ _ _ => strLe_trans⟩
  have names := ((perm.filter fun line => line.size = maxSize lines).map SymbolLine.name).dedup
  rw [maxNames, maxNames, maxSize_perm perm]
  exact List.Perm.eq_of_pairwise (fun first second _ _ => strLe_antisymm)
    (List.pairwise_insertionSort _ _) (List.pairwise_insertionSort _ _)
    ((List.perm_insertionSort _ _).trans (names.trans (List.perm_insertionSort _ _).symm))

theorem get?_update_perm {ν : Type} {value : SymbolLine → ν} (agree : NamesAgree lines)
    (perm : others.Perm lines) (name : Str) :
    ((∅ : Dict Str ν).update (others.map fun line => (line.name, value line))).get? name =
      ((∅ : Dict Str ν).update (lines.map fun line => (line.name, value line))).get? name := by
  have pairs : ∀ {list : List SymbolLine}, NamesAgree list →
      ∀ first ∈ list.map (fun line => (line.name, value line)),
        ∀ second ∈ list.map (fun line => (line.name, value line)), first.1 = second.1 →
          first = second := by
    intro list agree first held second other same
    obtain ⟨one, oneHeld, rfl⟩ := List.mem_map.mp held
    obtain ⟨two, twoHeld, rfl⟩ := List.mem_map.mp other
    rw [agree one oneHeld two twoHeld same]
  refine Option.ext fun found => ?_
  rw [Dict.get?_update_eq_some (pairs (agree.perm perm)), Dict.get?_update_eq_some (pairs agree),
    (perm.map _).mem_iff]

theorem aliasedFunction_same (agree : NamesAgree lines) (perm : others.Perm lines) :
    (aliasedFunction address others).Same (aliasedFunction address lines) where
  name := congrArg " | ".toList.intercalate (maxNames_perm perm)
  start := rfl
  size := maxSize_perm perm
  instructions := rfl
  symbolSizes := get?_update_perm agree perm
  symbolKinds := get?_update_perm agree perm

theorem functionsByAddress_same (agree : NamesAgree lines) (perm : others.Perm lines) :
    Option.Rel Function.Same ((functionsByAddress others).get? address)
      ((functionsByAddress lines).get? address) := by
  have addresses : address ∈ others.map SymbolLine.address ↔
      address ∈ lines.map SymbolLine.address := (perm.map _).mem_iff
  rw [get?_functionsByAddress, get?_functionsByAddress]
  by_cases listed : address ∈ lines.map SymbolLine.address
  · rw [if_pos (addresses.mpr listed), if_pos listed]
    have aliases : NamesAgree (lines.filter fun line => line.address = address) :=
      fun first held second other => agree first (List.mem_of_mem_filter held) second
        (List.mem_of_mem_filter other)
    exact .some (aliasedFunction_same aliases (perm.filter _))
  · rw [if_neg fun held => listed (addresses.mp held), if_neg listed]
    exact .none

/-- A name that has one address stands for the function of that address. -/
theorem get?_functionsByName_of_agree (agree : NamesAgree lines) {line : SymbolLine}
    (held : line ∈ lines) :
    (functionsByName lines).get? line.name = (functionsByAddress lines).get? line.address := by
  have listed : (line.name, line.address) ∈ namedAddresses lines :=
    List.mem_map.mpr ⟨line, held, rfl⟩
  cases found : (functionsByName lines).get? line.name with
  | none => exact absurd listed (functionsByName_eq_none.mp found line.address)
  | some fn =>
      obtain ⟨binds, stands⟩ := get?_functionsByName.mp found
      obtain ⟨other, inside, equal⟩ := List.mem_map.mp binds.held
      obtain ⟨sameName, sameStart⟩ := Prod.mk.inj equal
      rw [agree line held other inside sameName.symm, sameStart, stands]

theorem functionsByName_same (agree : NamesAgree lines) (perm : others.Perm lines) :
    Option.Rel Function.Same ((functionsByName others).get? name)
      ((functionsByName lines).get? name) := by
  by_cases listed : ∃ line ∈ lines, line.name = name
  · obtain ⟨line, held, rfl⟩ := listed
    rw [get?_functionsByName_of_agree agree held,
      get?_functionsByName_of_agree (agree.perm perm) (perm.mem_iff.mpr held)]
    exact functionsByAddress_same agree perm
  · have absent : ∀ {list : List SymbolLine}, list.Perm lines →
        (functionsByName list).get? name = none := by
      intro list same
      refine functionsByName_eq_none.mpr fun other held => listed ?_
      obtain ⟨line, inside, equal⟩ := List.mem_map.mp held
      exact ⟨line, same.mem_iff.mp inside, congrArg Prod.fst equal⟩
    rw [absent perm, absent (List.Perm.refl _)]
    exact .none

/-! ## The line that comes last -/

/-- What `parse_symbols` keeps of one line. -/
def keptLine (tables : UnicodeTables) (line : Str) : Option SymbolLine :=
  (symbolLine tables line).filter fun line => line.size ≠ 0

theorem symbolLines_eq_filterMap :
    symbolLines tables text = (splitLines text).filterMap (keptLine tables) := by
  rw [symbolLines, List.filter_filterMap]
  rfl

theorem symbolLines_perm {other : Str} (perm : (splitLines other).Perm (splitLines text)) :
    (symbolLines tables other).Perm (symbolLines tables text) :=
  (perm.filterMap _).filter _

/-- A listing can be put in an order in which the lines of one address come last, and a
given one of them as the very last. -/
theorem exists_text_last {line : SymbolLine} (held : line ∈ symbolLines tables text) :
    ∃ other early late, (splitLines other).Perm (splitLines text) ∧
      symbolLines tables other = early ++ late ++ [line] ∧
      (∀ before ∈ early, before.address ≠ line.address) ∧
      ∀ before ∈ late, before.address = line.address := by
  rw [symbolLines_eq_filterMap] at held
  obtain ⟨raw, inside, kept⟩ := List.mem_filterMap.mp held
  let here : Str → Bool := fun raw => (keptLine tables raw).any fun other =>
    other.address = line.address
  let rest := (splitLines text).erase raw
  have perm : (rest.filter (fun raw => !here raw) ++ rest.filter here ++ [raw]).Perm
      (splitLines text) :=
    ((List.perm_append_comm.trans (List.filter_append_perm here rest)).append_right [raw]).trans
      (List.perm_append_comm.trans (List.perm_cons_erase inside).symm)
  have unbroken : ∀ other ∈ rest.filter (fun raw => !here raw) ++ rest.filter here ++ [raw],
      ∀ c ∈ other, isLineBreak c = false := fun _ held c =>
    unbroken_of_mem_splitLines (perm.mem_iff.mp held)
  have back := splitLines_endedLines unbroken
  refine ⟨endedLines (rest.filter (fun raw => !here raw) ++ rest.filter here ++ [raw]),
    (rest.filter fun raw => !here raw).filterMap (keptLine tables),
    (rest.filter here).filterMap (keptLine tables), back.symm ▸ perm, ?_, ?_, ?_⟩
  · rw [symbolLines_eq_filterMap, back, List.filterMap_append, List.filterMap_append,
      List.filterMap_cons_some kept, List.filterMap_nil]
  · intro before member
    obtain ⟨other, present, gives⟩ := List.mem_filterMap.mp member
    simpa [here, gives] using (List.mem_filter.mp present).2
  · intro before member
    obtain ⟨other, present, gives⟩ := List.mem_filterMap.mp member
    simpa [here, gives] using (List.mem_filter.mp present).2

variable {early late : List SymbolLine} {line : SymbolLine}

/-- The last line decides what its name stands for. -/
theorem binds_last (before : ∀ other ∈ early, other.address ≠ line.address)
    (same : ∀ other ∈ late, other.address = line.address) :
    Binds (namedAddresses (early ++ late ++ [line])) line.name line.address where
  held := List.mem_map.mpr ⟨line, List.mem_append_right _ (List.mem_singleton_self _), rfl⟩
  last := by
    intro other listed
    have addresses : (namedAddresses (early ++ late ++ [line])).map Prod.snd =
        early.map SymbolLine.address ++ (late ++ [line]).map SymbolLine.address := by
      rw [namedAddresses, List.map_map, List.append_assoc, List.map_append]
      rfl
    have absent : line.address ∉ early.map SymbolLine.address := fun inside => by
      obtain ⟨earlier, member, equal⟩ := List.mem_map.mp inside
      exact before earlier member equal
    rw [addresses, List.idxOf_append_of_notMem absent]
    obtain ⟨found, member, equal⟩ := List.mem_map.mp listed
    obtain ⟨-, rfl⟩ := Prod.mk.inj equal
    rw [List.append_assoc, List.mem_append] at member
    obtain inEarly | inLate := member
    · have inside : found.address ∈ early.map SymbolLine.address :=
        List.mem_map.mpr ⟨found, inEarly, rfl⟩
      rw [List.idxOf_append_of_mem inside]
      have := List.idxOf_lt_length_iff.mpr inside
      omega
    · have there : found.address = line.address := by
        obtain inLate | last := List.mem_append.mp inLate
        · exact same found inLate
        · rw [List.mem_singleton.mp last]
      rw [there, List.idxOf_append_of_notMem absent]

theorem get?_update_last {ν : Type} (value : SymbolLine → ν) (before : List SymbolLine) :
    ((∅ : Dict Str ν).update ((before ++ [line]).map fun other => (other.name, value other))).get?
      line.name = some (value line) := by
  rw [Dict.get?_update, List.map_append, List.reverse_append, List.map_singleton,
    List.reverse_singleton, List.singleton_append, Dict.lookup_cons, if_pos rfl]
  rfl

/-- In that order the name stands for a function with the address, size and kind of the
last line. -/
theorem exists_functionsByName_last (before : ∀ other ∈ early, other.address ≠ line.address)
    (same : ∀ other ∈ late, other.address = line.address) :
    ∃ fn, (functionsByName (early ++ late ++ [line])).get? line.name = some fn ∧
      fn.start = line.address ∧ fn.symbolSizes.get? line.name = some line.size ∧
      fn.symbolKinds.get? line.name = some line.kind := by
  have aliases : (early ++ late ++ [line]).filter (fun other => other.address = line.address) =
      late ++ [line] := by
    rw [List.append_assoc, List.filter_append, List.filter_eq_nil_iff.mpr, List.nil_append,
      List.filter_eq_self.mpr]
    · intro other inside
      obtain inLate | last := List.mem_append.mp inside
      · simpa using same other inLate
      · simp [List.mem_singleton.mp last]
    · simpa using before
  have listed : line.address ∈ (early ++ late ++ [line]).map SymbolLine.address :=
    List.mem_map.mpr ⟨line, List.mem_append_right _ (List.mem_singleton_self _), rfl⟩
  have stands : (functionsByAddress (early ++ late ++ [line])).get? line.address =
      some (aliasedFunction line.address (late ++ [line])) := by
    rw [get?_functionsByAddress, if_pos listed, aliases]
  exact ⟨aliasedFunction line.address (late ++ [line]),
    get?_functionsByName.mpr ⟨binds_last before same, stands⟩, rfl,
    get?_update_last SymbolLine.size late, get?_update_last SymbolLine.kind late⟩

/-! ## When the order does not matter -/

/-- The symbols do not depend on the order of the listing exactly when the lines that are
kept agree under each name. -/
theorem orderIrrelevant_iff (tables : UnicodeTables) (text : Str) :
    OrderIrrelevant tables text ↔ NamesAgree (symbolLines tables text) := by
  constructor
  · intro irrelevant first firstHeld second secondHeld same
    have decided : ∀ line ∈ symbolLines tables text,
        ∃ fn, (functionsByName (symbolLines tables text)).get? line.name = some fn ∧
          fn.start = line.address ∧ fn.symbolSizes.get? line.name = some line.size ∧
          fn.symbolKinds.get? line.name = some line.kind := by
      intro line held
      obtain ⟨other, early, late, perm, listed, before, after⟩ := exists_text_last held
      obtain ⟨fn, found, start, size, kind⟩ := exists_functionsByName_last before after
      have named := (irrelevant other perm).names line.name
      rw [parseSymbols, parseSymbols, listed, found] at named
      generalize (functionsByName (symbolLines tables text)).get? line.name = original at named
      cases named with
      | some equal =>
          exact ⟨_, rfl, equal.start.symm.trans start,
            (equal.symbolSizes line.name).symm.trans size,
            (equal.symbolKinds line.name).symm.trans kind⟩
    obtain ⟨fn, found, start, size, kind⟩ := decided first firstHeld
    obtain ⟨again, foundAgain, startAgain, sizeAgain, kindAgain⟩ := decided second secondHeld
    rw [← same] at foundAgain sizeAgain kindAgain
    obtain rfl := Option.some.inj (found.symm.trans foundAgain)
    have address := start.symm.trans startAgain
    have sizes := Option.some.inj (size.symm.trans sizeAgain)
    have kinds := Option.some.inj (kind.symm.trans kindAgain)
    cases first
    cases second
    simp only [SymbolLine.mk.injEq]
    exact ⟨address, sizes, kinds, same⟩
  · intro agree other perm
    have lines : (symbolLines tables other).Perm (symbolLines tables text) := symbolLines_perm perm
    exact ⟨fun address => functionsByAddress_same agree lines,
      fun name => functionsByName_same agree lines⟩

/-- Two local symbols of one name: the later address is kept. -/
theorem not_orderIrrelevant_helper :
    ¬OrderIrrelevant ⟨fun _ => false, fun text => text⟩
      "00001000 00000004 t helper\n00002000 00000004 t helper\n".toList := by
  intro irrelevant
  have names := (irrelevant
    "00002000 00000004 t helper\n00001000 00000004 t helper\n".toList (by decide +kernel)).names
      "helper".toList
  have first : ((parseSymbols ⟨fun _ => false, fun text => text⟩
      "00001000 00000004 t helper\n00002000 00000004 t helper\n".toList).2.get?
        "helper".toList).map Function.start = some 0x2000 := by decide +kernel
  have second : ((parseSymbols ⟨fun _ => false, fun text => text⟩
      "00002000 00000004 t helper\n00001000 00000004 t helper\n".toList).2.get?
        "helper".toList).map Function.start = some 0x1000 := by decide +kernel
  obtain ⟨one, foundOne, startOne⟩ := Option.map_eq_some_iff.mp first
  obtain ⟨two, foundTwo, startTwo⟩ := Option.map_eq_some_iff.mp second
  rw [foundOne, foundTwo] at names
  cases names with
  | some equal =>
      have := equal.start
      omega

end AxolotyEmbedded.FirstInit
