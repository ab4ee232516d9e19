import AxolotyEmbedded.Library.Charges
import AxolotyEmbedded.LinkedStorage.Exactness
import AxolotyEmbedded.LinkedStorage.InventoryPlan
import AxolotyEmbedded.LinkedStorage.Overlaps

/-!
What the report of a join says of the bytes: each range is charged once, the charges add up
to the bytes that are joined where no two ranges of a section meet, and the report is the same
in any order of the entries, up to the order of the rows and to the alias of a range that
carries its charge.
-/
namespace AxolotyEmbedded.LinkedStorage

open PythonText Checked

/-! ## The rows of a report -/

/-- `range_bytes_charged` of rows that come after some ranges were charged. -/
def chargeRows (charged : List (Str × Nat × Nat)) : List JoinedSymbol → List JoinedSymbol
  | [] => []
  | row :: rest =>
      row.chargedAfter charged :: chargeRows (row.symbol.rangeKey :: charged) rest

/-- A row with its charge taken off. -/
def JoinedSymbol.uncharged (row : JoinedSymbol) : JoinedSymbol := { row with rangeBytesCharged := 0 }

def JoinedSymbol.rangeKey (row : JoinedSymbol) : Str × Nat × Nat := row.symbol.rangeKey

variable {inputs : JoinInputs} {mapMember : Str} {state : JoinState} {rows : List JoinedSymbol}
  {row : JoinedSymbol} {entries : List PyJson} {report : JoinReport}

theorem chargeRows_append (charged : List (Str × Nat × Nat)) (first second : List JoinedSymbol) :
    chargeRows charged (first ++ second) =
      chargeRows charged first ++ chargeRows ((first.map JoinedSymbol.rangeKey).reverse ++ charged) second := by
  induction first generalizing charged with
  | nil => rfl
  | cons row rest ih =>
      rw [List.cons_append, chargeRows, chargeRows, ih, List.map_cons, List.reverse_cons,
        List.append_assoc]
      rfl

/-- What does not read the charge of a row is the same before and after. -/
theorem map_chargeRows {β : Type} {f : JoinedSymbol → β}
    (ignores : ∀ row : JoinedSymbol, ∀ bytes, f { row with rangeBytesCharged := bytes } = f row)
    (charged : List (Str × Nat × Nat)) (rows : List JoinedSymbol) :
    (chargeRows charged rows).map f = rows.map f := by
  induction rows generalizing charged with
  | nil => rfl
  | cons row rest ih =>
      rw [chargeRows, List.map_cons, List.map_cons, ih, JoinedSymbol.chargedAfter, ignores]

theorem map_rangeBytesCharged (charged : List (Str × Nat × Nat)) (rows : List JoinedSymbol) :
    (chargeRows charged rows).map JoinedSymbol.rangeBytesCharged =
      Charges.charges JoinedSymbol.rangeKey (fun key => key.2.2) charged rows := by
  induction rows generalizing charged with
  | nil => rfl
  | cons row rest ih =>
      rw [chargeRows, List.map_cons, ih, Charges.charges]
      by_cases old : row.rangeKey ∈ charged
      · rw [if_pos old]
        exact congrArg (· :: _) (if_pos old)
      · rw [if_neg old]
        exact congrArg (· :: _) (if_neg old)

/-! ## The state after some plans -/

theorem foldl_addRow (rows : List JoinedSymbol) (state : JoinState) :
    (rows.foldl JoinState.addRow state).joined =
        state.joined ++ chargeRows state.chargedRanges rows ∧
      (rows.foldl JoinState.addRow state).chargedRanges =
        (rows.map JoinedSymbol.rangeKey).reverse ++ state.chargedRanges ∧
      (rows.foldl JoinState.addRow state).notApplicable = state.notApplicable := by
  induction rows generalizing state with
  | nil => exact ⟨(List.append_nil _).symm, rfl, rfl⟩
  | cons row rest ih =>
      obtain ⟨joined, charged, skipped⟩ := ih (state.addRow row)
      rw [List.foldl_cons, joined, charged, skipped, List.map_cons, List.reverse_cons,
        List.append_assoc, chargeRows]
      refine ⟨?_, rfl, rfl⟩
      change (state.joined ++ [_]) ++ _ = _
      rw [List.append_assoc]
      rfl

/-- The owners of the plans that do not apply. -/
def skippedOwners (plans : List EntryPlan) : List Str :=
  (plans.filter fun plan => plan.applicable.isNone).map EntryPlan.owner

theorem addPlan_joined (state : JoinState) (plan : EntryPlan) :
    (state.addPlan plan).joined = state.joined ++ chargeRows state.chargedRanges plan.rows ∧
      (state.addPlan plan).chargedRanges =
        (plan.rows.map JoinedSymbol.rangeKey).reverse ++ state.chargedRanges ∧
      (state.addPlan plan).notApplicable = state.notApplicable ++ skippedOwners [plan] := by
  unfold JoinState.addPlan EntryPlan.rows skippedOwners
  cases applicable : plan.applicable with
  | none => simp [applicable, chargeRows]
  | some rows => simpa [applicable] using foldl_addRow rows _

theorem foldl_addPlan (plans : List EntryPlan) (state : JoinState) :
    (plans.foldl JoinState.addPlan state).joined =
        state.joined ++ chargeRows state.chargedRanges (plans.flatMap EntryPlan.rows) ∧
      (plans.foldl JoinState.addPlan state).notApplicable =
        state.notApplicable ++ skippedOwners plans := by
  induction plans generalizing state with
  | nil => simp [chargeRows, skippedOwners]
  | cons plan rest ih =>
      obtain ⟨joined, charged, skipped⟩ := addPlan_joined state plan
      obtain ⟨laterJoined, laterSkipped⟩ := ih (state.addPlan plan)
      have skips : skippedOwners (plan :: rest) = skippedOwners [plan] ++ skippedOwners rest := by
        rw [skippedOwners, skippedOwners, skippedOwners, ← List.map_append, ← List.filter_append]
        rfl
      rw [List.foldl_cons, laterJoined, laterSkipped, joined, charged, skipped, List.flatMap_cons,
        chargeRows_append, skips, List.append_assoc, List.append_assoc]
      exact ⟨rfl, rfl⟩

/-- The rows of a join's report, and its owners that do not apply. -/
theorem joined_report (joined : joinEntries inputs mapMember entries = .ok report) :
    report.symbols = chargeRows [] (rowsOf inputs mapMember entries) ∧
      report.notApplicableOwners = (skippedOwners (plansOf inputs mapMember entries)).insertionSort
        (fun first second => strLe first second = true) ∧
      report.recognizedLogicalOwners = sortedNames (report.symbols.map JoinedSymbol.owner) ∧
      report.joinedSymbolUnionBytes = joinedUnion report.symbols := by
  obtain ⟨_, rfl⟩ := joinEntries_eq_ok.mp joined
  obtain ⟨rows, skipped⟩ := foldl_addPlan (plansOf inputs mapMember entries) .empty
  refine ⟨rows, ?_, rfl, rfl⟩
  change List.insertionSort _ _ = _
  rw [skipped]
  rfl

/-! ## The bytes of a report -/

/-- The bytes of a range, each with the name of its section. -/
def keyBytes (key : Str × Nat × Nat) : Finset (Str × Nat) :=
  {key.1} ×ˢ Finset.Ico key.2.1 (key.2.1 + key.2.2)

def joinedBytes (rows : List JoinedSymbol) : Finset (Str × Nat) :=
  (rows.map JoinedSymbol.rangeKey).toFinset.biUnion keyBytes

theorem mem_joinedBytes {byte : Str × Nat} :
    byte ∈ joinedBytes rows ↔ ∃ row ∈ rows, row.symbol.sectionName = byte.1 ∧
      row.symbol.address ≤ byte.2 ∧ byte.2 < row.symbol.address + row.symbol.size := by
  simp only [joinedBytes, keyBytes, JoinedSymbol.rangeKey, ElfSymbol.rangeKey, Finset.mem_biUnion,
    List.mem_toFinset, List.mem_map, Finset.mem_product, Finset.mem_singleton, Finset.mem_Ico,
    exists_exists_and_eq_and]
  constructor
  · intro held
    obtain ⟨row, member, named, bounds⟩ := held
    exact ⟨row, member, named.symm, bounds⟩
  · intro held
    obtain ⟨row, member, named, bounds⟩ := held
    exact ⟨row, member, named.symm, bounds⟩

theorem card_keyBytes (key : Str × Nat × Nat) : (keyBytes key).card = key.2.2 := by
  rw [keyBytes, Finset.card_product, Finset.card_singleton, Nat.card_Ico]
  omega

/-- `joined_union` counts the bytes of the rows by the names of their sections. -/
theorem joinedUnion_eq_card (rows : List JoinedSymbol) :
    joinedUnion rows = (joinedBytes rows).card := by
  have valid : ∀ name, ∀ range ∈ sectionRanges rows name, range.1 ≤ range.2 := by
    intro name range member
    obtain ⟨row, _, rfl⟩ := List.mem_map.mp member
    exact Nat.le_add_right ..
  have bytes : joinedBytes rows =
      ((rows.map fun row => row.symbol.sectionName).dedup.toFinset).biUnion fun name =>
        {name} ×ˢ Ranges.covered (sectionRanges rows name) := by
    ext byte
    simp only [mem_joinedBytes, Finset.mem_biUnion, List.mem_toFinset, List.mem_dedup, List.mem_map,
      Finset.mem_product, Finset.mem_singleton, Ranges.mem_covered, sectionRanges, List.mem_filter,
      decide_eq_true_eq]
    constructor
    · intro held
      obtain ⟨row, member, named, low, high⟩ := held
      exact ⟨byte.1, ⟨row, member, named⟩, rfl, row.symbol.range, ⟨row, ⟨member, named⟩, rfl⟩, low, high⟩
    · intro held
      obtain ⟨_, _, rfl, _, ⟨row, ⟨member, named⟩, rfl⟩, low, high⟩ := held
      exact ⟨row, member, named, low, high⟩
  rw [bytes, Finset.card_biUnion, List.sum_toFinset _ (List.nodup_dedup _), joinedUnion]
  · apply congrArg List.sum
    apply List.map_congr_left
    intro name _
    rw [Finset.card_product, Finset.card_singleton, Nat.one_mul, Ranges.merged_eq_card (valid name)]
  · intro first _ second _ differ
    apply Finset.disjoint_left.mpr
    intro byte inFirst inSecond
    rw [Finset.mem_product, Finset.mem_singleton] at inFirst inSecond
    exact differ (inFirst.1.symm.trans inSecond.1)

/-- Two rows of one section meet without being of one range. -/
def JoinedSymbol.Meets (first second : JoinedSymbol) : Prop :=
  first.symbol.sectionName = second.symbol.sectionName ∧ Conflicting first.symbol second.symbol

theorem disjoint_keyBytes {first second : JoinedSymbol} (differ : first.rangeKey ≠ second.rangeKey) :
    Disjoint (keyBytes first.rangeKey) (keyBytes second.rangeKey) ↔ ¬first.Meets second := by
  rw [Finset.disjoint_left]
  simp only [keyBytes, Finset.mem_product, Finset.mem_singleton, Finset.mem_Ico]
  constructor
  · intro apart meets
    obtain ⟨named, ⟨byte, low, high, low', high'⟩, _⟩ := meets
    exact @apart (first.symbol.sectionName, byte) ⟨rfl, low, high⟩ ⟨named, low', high'⟩
  · intro apart byte inFirst inSecond
    obtain ⟨named, low, high⟩ := inFirst
    obtain ⟨named', low', high'⟩ := inSecond
    have same : first.symbol.sectionName = second.symbol.sectionName := named.symm.trans named'
    refine apart ⟨same, ⟨byte.2, low, high, low', high'⟩, ?_⟩
    by_contra equal
    simp only [not_or, ne_eq, not_not] at equal
    exact differ (Prod.ext same (Prod.ext equal.1 equal.2))

theorem map_rangeKey_report (joined : joinEntries inputs mapMember entries = .ok report) :
    report.symbols.map JoinedSymbol.rangeKey =
      (rowsOf inputs mapMember entries).map JoinedSymbol.rangeKey := by
  rw [(joined_report joined).1]
  exact map_chargeRows (fun _ _ => rfl) ..

/-- The charges of a report add up to the sizes of its ranges. -/
theorem sum_charges_report (joined : joinEntries inputs mapMember entries = .ok report) :
    (report.symbols.map JoinedSymbol.rangeBytesCharged).sum =
      ∑ key ∈ (report.symbols.map JoinedSymbol.rangeKey).toFinset, key.2.2 := by
  rw [map_rangeKey_report joined, (joined_report joined).1, map_rangeBytesCharged,
    Charges.sum_charges, List.toFinset_nil, Finset.sdiff_empty]

/-- The rows of one range are charged as if they were alone. -/
theorem filter_chargeRows {charged others : List (Str × Nat × Nat)} {key : Str × Nat × Nat}
    (agree : key ∈ charged ↔ key ∈ others) (rows : List JoinedSymbol) :
    (chargeRows charged rows).filter (fun row => row.rangeKey = key) =
      chargeRows others (rows.filter fun row => row.rangeKey = key) := by
  induction rows generalizing charged others with
  | nil => rfl
  | cons row rest ih =>
      rw [chargeRows]
      by_cases same : row.rangeKey = key
      · have old : row.symbol.rangeKey ∈ charged ↔ row.symbol.rangeKey ∈ others := by
          rw [← same] at agree
          exact agree
        rw [List.filter_cons_of_pos (by exact decide_eq_true same),
          List.filter_cons_of_pos (by exact decide_eq_true same), chargeRows]
        simp only [JoinedSymbol.chargedAfter, old]
        congr 1
        apply ih
        rw [List.mem_cons, List.mem_cons, agree]
      · rw [List.filter_cons_of_neg (by exact fun held => same (of_decide_eq_true held)),
          List.filter_cons_of_neg (by simpa using same)]
        apply ih
        rw [List.mem_cons, ← agree]
        exact ⟨fun either => either.resolve_left fun equal => same equal.symm, .inr⟩

theorem sum_charges_of_range (joined : joinEntries inputs mapMember entries = .ok report)
    (member : row ∈ report.symbols) :
    ((report.symbols.filter fun other => other.rangeKey = row.rangeKey).map
      JoinedSymbol.rangeBytesCharged).sum = row.symbol.size := by
  have held : row.rangeKey ∈ (rowsOf inputs mapMember entries).map JoinedSymbol.rangeKey := by
    rw [← map_rangeKey_report joined]
    exact List.mem_map_of_mem member
  have keys : (((rowsOf inputs mapMember entries).filter fun other =>
      other.rangeKey = row.rangeKey).map JoinedSymbol.rangeKey).toFinset = {row.rangeKey} := by
    ext key
    simp only [List.mem_toFinset, List.mem_map, List.mem_filter, decide_eq_true_eq,
      Finset.mem_singleton]
    constructor
    · intro found
      obtain ⟨other, ⟨_, same⟩, rfl⟩ := found
      exact same
    · intro same
      obtain ⟨other, among, equal⟩ := List.mem_map.mp held
      exact ⟨other, ⟨among, equal⟩, equal.trans same.symm⟩
  rw [(joined_report joined).1, filter_chargeRows Iff.rfl, map_rangeBytesCharged,
    Charges.sum_charges, keys, List.toFinset_nil, Finset.sdiff_empty, Finset.sum_singleton]
  rfl

/-- A join charges each of its ranges once. The charges make up the bytes that were joined
where no two rows of a section meet, and more elsewhere. -/
theorem charges_of_join (joined : joinEntries inputs mapMember entries = .ok report) :
    (∀ row ∈ report.symbols, ((report.symbols.filter fun other =>
        other.rangeKey = row.rangeKey).map JoinedSymbol.rangeBytesCharged).sum = row.symbol.size) ∧
      report.joinedSymbolUnionBytes = (joinedBytes report.symbols).card ∧
      report.joinedSymbolUnionBytes ≤
        (report.symbols.map JoinedSymbol.rangeBytesCharged).sum ∧
      ((report.symbols.map JoinedSymbol.rangeBytesCharged).sum = report.joinedSymbolUnionBytes ↔
        ∀ first ∈ report.symbols, ∀ second ∈ report.symbols, ¬first.Meets second) := by
  obtain ⟨_, _, _, union⟩ := joined_report joined
  have sum := sum_charges_report joined
  have sizes : ∑ key ∈ (report.symbols.map JoinedSymbol.rangeKey).toFinset, key.2.2 =
      ∑ key ∈ (report.symbols.map JoinedSymbol.rangeKey).toFinset, (keyBytes key).card :=
    Finset.sum_congr rfl fun key _ => (card_keyBytes key).symm
  rw [union, joinedUnion_eq_card]
  refine ⟨fun row member => sum_charges_of_range joined member, rfl, ?_, ?_⟩
  · rw [sum, sizes]
    exact Finset.card_biUnion_le
  · rw [sum, sizes, joinedBytes, Charges.sum_card_eq_card_biUnion]
    simp only [List.mem_toFinset, List.forall_mem_map]
    constructor
    · intro apart first firstHeld second secondHeld meets
      have differ : first.rangeKey ≠ second.rangeKey := by
        intro same
        obtain ⟨_, place⟩ := Prod.mk.inj same
        obtain ⟨address, size⟩ := Prod.mk.inj place
        exact meets.2.differ.elim (· address) (· size)
      exact (disjoint_keyBytes differ).mp (apart first firstHeld second secondHeld differ) meets
    · intro apart first firstHeld second secondHeld differ
      exact (disjoint_keyBytes differ).mpr (apart first firstHeld second secondHeld)

/-! ## Two names of one range -/

def textMember (name value : String) : Str × PyJson := (name.toList, .str value.toList)

/-- An inventory of schema 1 with some entries. -/
def inventoryOf (entries : List PyJson) : PyJson :=
  .dict [("schemaVersion".toList, .int 1), textMember "expectedMapMember" "app.o",
    ("entries".toList, .list entries)]

/-- An entry that expects one symbol. -/
def entryOf (owner rawName : String) : PyJson :=
  .dict [textMember "owner" owner, textMember "category" "app-state",
    textMember "sourcePath" "App.swift", textMember "sourceName" "app",
    textMember "sourceKind" "swift-source",
    ("expectedSymbols".toList, .list [.dict [textMember "rawName" rawName,
      textMember "role" "state"]])]

def appSource : Str → Option (List UInt8) :=
  fun _ => some ("let app = 1".toList.map fun c => UInt8.ofNat c.toNat)

/-- The symbols `app` and `alias` of eight bytes of `.bss`, in a row of `app.o`. -/
def aliasInputs : JoinInputs where
  symbols := ["app", "alias"].map fun name => ⟨name.toList, 0x1000, 8, ".bss".toList, 2, .object⟩
  outputs := [⟨".bss".toList, 0x1000, 16, [⟨".bss".toList, 0x1000, 16, appObject⟩]⟩]
  readSource := appSource
  expectedMapOwner := appObject
  sectionTypes := (∅ : Dict Str Nat).update [(".bss".toList, 8)]
  wireProfile := none

theorem charges_of_join_alias : ∃ report,
    joinEntries aliasInputs appObject [entryOf "first" "app", entryOf "second" "alias"] = .ok report ∧
      report.joinedSymbolUnionBytes ≤ (report.symbols.map JoinedSymbol.rangeBytesCharged).sum := by
  have runs : (joinEntries aliasInputs appObject
      [entryOf "first" "app", entryOf "second" "alias"]).toOption.isSome = true := by
    decide +kernel
  obtain ⟨report, joined⟩ := exists_of_toOption_isSome runs
  exact ⟨report, joined, (charges_of_join joined).2.2.1⟩

/-! ## The order of the entries -/

/-- Two reports of the same join: they differ in the order of the rows and in which alias of
a range carries its charge. -/
structure SameJoin (first second : JoinReport) : Prop where
  owners : first.recognizedLogicalOwners = second.recognizedLogicalOwners
  skipped : first.notApplicableOwners = second.notApplicableOwners
  rows : (first.symbols.map JoinedSymbol.uncharged).Perm (second.symbols.map JoinedSymbol.uncharged)
  union : first.joinedSymbolUnionBytes = second.joinedSymbolUnionBytes
  charged : (first.symbols.map JoinedSymbol.rangeBytesCharged).sum =
    (second.symbols.map JoinedSymbol.rangeBytesCharged).sum

/-- Sorted texts are the same for the same texts. -/
theorem insertionSort_perm {first second : List Str} (perm : first.Perm second) :
    (first.insertionSort fun one other => strLe one other = true) =
      second.insertionSort fun one other => strLe one other = true := by
  have total : Std.Total fun one other : Str => strLe one other = true := ⟨strLe_total⟩
  have trans : IsTrans Str fun one other => strLe one other = true := ⟨fun _ _ _ => strLe_trans⟩
  apply List.Perm.eq_of_pairwise (fun _ _ _ _ => strLe_antisymm)
  · exact List.pairwise_insertionSort _ _
  · exact List.pairwise_insertionSort _ _
  · exact (List.perm_insertionSort _ _).trans (perm.trans (List.perm_insertionSort _ _).symm)

theorem plansOf_perm {others : List PyJson} (perm : entries.Perm others) :
    (plansOf inputs mapMember entries).Perm (plansOf inputs mapMember others) :=
  perm.filterMap _

theorem rowsOf_perm {others : List PyJson} (perm : entries.Perm others) :
    (rowsOf inputs mapMember entries).Perm (rowsOf inputs mapMember others) :=
  (plansOf_perm perm).flatMap_right _

theorem Joinable.perm {others : List PyJson} (joinable : Joinable inputs mapMember entries)
    (perm : entries.Perm others) : Joinable inputs mapMember others where
  planned := fun entry member => joinable.planned entry (perm.mem_iff.mpr member)
  owners := ((plansOf_perm perm).map _).nodup_iff.mp joinable.owners
  names := ((rowsOf_perm perm).map _).nodup_iff.mp joinable.names

/-- An inventory that is joined is joined in any order of its entries, to the same report. -/
theorem joinEntries_perm {others : List PyJson} (perm : entries.Perm others)
    (joined : joinEntries inputs mapMember entries = .ok report) :
    ∃ other, joinEntries inputs mapMember others = .ok other ∧ SameJoin report other := by
  have joinable := (joinEntries_eq_ok.mp joined).1
  have again := joinEntries_eq_ok.mpr ⟨joinable.perm perm, rfl⟩
  obtain ⟨rows, skipped, owners, union⟩ := joined_report joined
  obtain ⟨rows', skipped', owners', union'⟩ := joined_report again
  have same := @rowsOf_perm inputs mapMember entries others perm
  have unread : ∀ {β : Type} {f : JoinedSymbol → β},
      (∀ row : JoinedSymbol, ∀ bytes, f { row with rangeBytesCharged := bytes } = f row) →
        (report.symbols.map f).Perm ((JoinState.report ((plansOf inputs mapMember others).foldl
          JoinState.addPlan .empty) inputs mapMember).symbols.map f) := by
    intro β f ignores
    rw [rows, rows', map_chargeRows ignores, map_chargeRows ignores]
    exact same.map f
  refine ⟨_, again, ?_, ?_, unread fun _ _ => rfl, ?_, ?_⟩
  · rw [owners, owners', sortedNames, sortedNames]
    exact insertionSort_perm (unread fun _ _ => rfl).dedup
  · rw [skipped, skipped']
    apply insertionSort_perm
    exact ((plansOf_perm perm).filter _).map _
  · rw [union, union', joinedUnion_eq_card, joinedUnion_eq_card, joinedBytes, joinedBytes,
      List.toFinset_eq_of_perm _ _ (unread fun _ _ => rfl)]
  · rw [sum_charges_report joined, sum_charges_report again,
      List.toFinset_eq_of_perm _ _ (unread fun _ _ => rfl)]

theorem readEntries_of_list {inventory : PyJson} (listed : inventory.get "entries" = .list entries) :
    readEntries inventory =
      (do
        refuseIf ((inventory.get "schemaVersion").equals (.int 1) = false) .schema
        return entries) := by
  unfold readEntries
  rw [listed]
  rfl

/-- Two inventories that differ in the order of their entries are joined alike. -/
theorem joinInventory_perm {inventory other : PyJson} {others : List PyJson}
    (dict : other.isDict = true)
    (fields : ∀ name, name ≠ "entries" → other.get name = inventory.get name)
    (listed : inventory.get "entries" = .list entries)
    (relisted : other.get "entries" = .list others) (perm : entries.Perm others)
    (joined : joinInventory inputs inventory = .ok report) :
    ∃ again, joinInventory inputs other = .ok again ∧ SameJoin report again := by
  have read : readMapMember other = readMapMember inventory := by
    unfold readMapMember
    rw [fields "expectedMapMember" (by decide)]
  have version := fields "schemaVersion" (by decide)
  obtain ⟨_, _, joined⟩ := bind_eq_ok.mp joined
  obtain ⟨found, accepted, joined⟩ := bind_eq_ok.mp joined
  obtain ⟨mapMember, member, joined⟩ := bind_eq_ok.mp joined
  rw [readEntries_of_list listed] at accepted
  obtain ⟨_, checked, same⟩ := bind_eq_ok.mp accepted
  cases same
  split at joined
  · cases joined
  · next expected known =>
      obtain ⟨_, equal, joined⟩ := bind_eq_ok.mp joined
      obtain ⟨first, folded, same⟩ := bind_eq_ok.mp joined
      cases same
      obtain ⟨second, refolded, alike⟩ := joinEntries_perm perm folded
      refine ⟨{ second with inventoryClaimedComplete := claimsComplete other }, ?_,
        alike.owners, alike.skipped, alike.rows, alike.union, alike.charged⟩
      unfold joinInventory
      apply bind_eq_ok.mpr
      refine ⟨(), by rw [refuseIf_eq_ok, dict]; simp, ?_⟩
      apply bind_eq_ok.mpr
      refine ⟨others, ?_, ?_⟩
      · rw [readEntries_of_list relisted, version]
        exact bind_eq_ok.mpr ⟨(), checked, rfl⟩
      · apply bind_eq_ok.mpr
        refine ⟨mapMember, read.trans member, ?_⟩
        rw [known]
        apply bind_eq_ok.mpr
        refine ⟨(), equal, ?_⟩
        exact bind_eq_ok.mpr ⟨second, refolded, rfl⟩

theorem joinInventory_perm_alias : ∃ report again,
    joinInventory aliasInputs (inventoryOf [entryOf "first" "app", entryOf "second" "alias"]) =
      .ok report ∧
    joinInventory aliasInputs (inventoryOf [entryOf "second" "alias", entryOf "first" "app"]) =
      .ok again ∧ SameJoin report again := by
  have runs : (joinInventory aliasInputs
      (inventoryOf [entryOf "first" "app", entryOf "second" "alias"])).toOption.isSome = true := by
    decide +kernel
  obtain ⟨report, joined⟩ := exists_of_toOption_isSome runs
  have fields : ∀ name, name ≠ "entries" →
      (inventoryOf [entryOf "second" "alias", entryOf "first" "app"]).get name =
        (inventoryOf [entryOf "first" "app", entryOf "second" "alias"]).get name := by
    intro name other
    have differ : (name.toList == "entries".toList) = false := by
      rw [beq_eq_false_iff_ne]
      exact fun same => other (String.toList_inj.mp same)
    simp only [inventoryOf, textMember, PyJson.get, PyJson.get?, List.lookup_cons, differ]
  obtain ⟨again, rejoined, alike⟩ :=
    joinInventory_perm rfl fields rfl rfl (List.Perm.swap ..) joined
  exact ⟨report, again, joined, rejoined, alike⟩

end AxolotyEmbedded.LinkedStorage
