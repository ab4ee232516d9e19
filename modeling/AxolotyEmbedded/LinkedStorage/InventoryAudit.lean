import AxolotyEmbedded.LinkedStorage.InventoryCharges

/-!
`main` of the linked storage audit: the image is measured, the debit is held against the
budget of the application's manifest, and the inventory is joined to the symbols and rows of
the same files. What the join charges is part of what the debit counts.
-/
namespace AxolotyEmbedded.LinkedStorage

open PythonText Checked

/-! ## The budget -/

inductive BudgetError where
  | root
  | capacities
  | ceiling
  | aggregate

structure StaticStorageBudget where
  actualBytes : Nat
  ceilingBytes : Int
  headroomBytes : Int
  passed : Bool

/-- A positive UInt32. -/
def readCeiling (value : PyJson) : Except BudgetError Int :=
  match value with
  | .int ceiling => do
      refuseIf (ceiling ≤ 0 ∨ 0xFFFFFFFF < ceiling) .ceiling
      return ceiling
  | _ => .error .ceiling

/-- `enforce_static_storage_budget` of the value of a manifest. -/
def enforceStaticStorageBudget (report : Report) (manifest : PyJson) :
    Except BudgetError StaticStorageBudget := do
  refuseIf (manifest.isDict = false) .root
  refuseIf ((manifest.get "capacities").isDict = false) .capacities
  let ceiling ← readCeiling ((manifest.get "capacities").get "applicationStaticStorageBytes")
  let actual := report.conservativeDebitBytes
  refuseIf (report.aggregateChargedStaticBytes ≠ actual) .aggregate
  return {
    actualBytes := actual
    ceilingBytes := ceiling
    headroomBytes := ceiling - actual
    passed := (actual : Int) ≤ ceiling }

/-! ## The audit -/

/-- The arguments, with the bytes and the values of the files that they name. -/
structure AuditInputs where
  elfBytes : List UInt8
  mapBytes : List UInt8
  combinedObject : Str
  enforced : Bool
  manifest : Option PyJson
  inventory : Option PyJson
  readSource : Str → Option (List UInt8)
  wireProfile : Option Str

inductive AuditFailure where
  | audit (error : AuditError)
  | manifestRequired
  | budget (error : BudgetError)
  | join (error : JoinError)

structure AuditReport where
  measurement : Report
  staticStorageBudget : Option StaticStorageBudget
  inventoryJoin : Option JoinReport

section Main

variable (inputs : AuditInputs)

def enforceBudget (report : Report) : Except AuditFailure (Option StaticStorageBudget) :=
  if inputs.enforced then
    match inputs.manifest with
    | none => .error .manifestRequired
    | some manifest =>
        ((enforceStaticStorageBudget report manifest).map some).mapError .budget
  else .ok none

/-- `{section["name"]: section["type"] ...}`. -/
def sectionTypes (elf : Elf) : Dict Str Nat :=
  (∅ : Dict Str Nat).update (elf.sections.map fun target => (target.name, target.type))

def joinInputs (elf : Elf) (outputs : List MapOutput) : JoinInputs where
  symbols := elf.symbols
  outputs := outputs
  readSource := inputs.readSource
  expectedMapOwner := inputs.combinedObject
  sectionTypes := sectionTypes elf
  wireProfile := inputs.wireProfile

/-- The files are parsed again for the inventory. -/
def joinImage (inventory : PyJson) : Except AuditFailure JoinReport := do
  refuseIf (inventory.isDict = false) (.join .typeError)
  let elf ← (parseElf inputs.elfBytes).mapError .audit
  let outputs ← (parseMap inputs.combinedObject (decode inputs.mapBytes)).mapError .audit
  (joinInventory (joinInputs inputs elf outputs) inventory).mapError .join

def audit : Except AuditFailure AuditReport := do
  let measurement ←
    (measure inputs.elfBytes inputs.mapBytes inputs.combinedObject).mapError .audit
  let staticStorageBudget ← enforceBudget inputs measurement
  match inputs.inventory with
  | none => return { measurement, staticStorageBudget, inventoryJoin := none }
  | some inventory =>
      let join ← joinImage inputs inventory
      return { measurement, staticStorageBudget, inventoryJoin := some join }

/-- What `main` returns, and nothing where the `TypeError` leaves it. -/
def exitStatus (result : Except AuditFailure AuditReport) : Option Nat :=
  match result with
  | .error (.join .typeError) => none
  | .error _ => some 2
  | .ok report => if report.staticStorageBudget.any fun budget => !budget.passed then some 2 else some 0

end Main

/-! ## Where a joined symbol lies -/

/-- A row's symbol is the only one of its name and lies in one row of the map, which is of the
expected object. -/
structure JoinedSymbol.Right (row : JoinedSymbol) (inputs : JoinInputs) (mapMember : Str) : Prop where
  only : named inputs row.rawName = [row.symbol]
  accounting : ∃ accounting, writableSectionClass row.symbol.sectionName = .ok accounting ∧
    (accounting = .data ∨ accounting = .bss)
  mapInput : mapMatches inputs row.symbol = [row.mapInput]
  owner : row.mapInput.item.owner = inputs.expectedMapOwner
  member : objectMember inputs.expectedMapOwner = some mapMember

variable {inputs : JoinInputs} {mapMember owner rawName : Str} {symbol : ElfSymbol}
  {initialization : Initialization} {mapInput : MapMatch} {row : JoinedSymbol}
  {entries : List PyJson} {join : JoinReport}

theorem place_eq_joined :
    place inputs mapMember owner rawName symbol = .ok (.joined symbol initialization mapInput) →
      (∃ accounting, writableSectionClass symbol.sectionName = .ok accounting ∧
        (accounting = .data ∨ accounting = .bss)) ∧
      mapMatches inputs symbol = [mapInput] ∧ mapInput.item.owner = inputs.expectedMapOwner ∧
      objectMember inputs.expectedMapOwner = some mapMember := by
  intro placed
  obtain ⟨accounting, classified, placed⟩ := bind_eq_ok.mp placed
  obtain ⟨_, dataBss, placed⟩ := bind_eq_ok.mp placed
  obtain ⟨found, _, placed⟩ := bind_eq_ok.mp placed
  rw [refuseIf_eq_ok, not_and_or, not_not, not_not] at dataBss
  have known : writableSectionClass symbol.sectionName = .ok accounting := by
    cases named : writableSectionClass symbol.sectionName with
    | error error => simp [named, Except.mapError] at classified
    | ok value => simpa [named, Except.mapError] using classified
  refine ⟨⟨accounting, known, dataBss⟩, ?_⟩
  split at placed
  · next place only =>
      split at placed
      · cases placed
      · next actualMember member =>
          split at placed
          · cases placed
          · next right =>
              rw [not_or, not_not, not_not] at right
              obtain ⟨owned, same⟩ := right
              cases placed
              exact ⟨only, owned, by rw [← owned, member, same]⟩
  · cases placed

theorem locate_eq_joined
    (located : locate inputs mapMember owner rawName =
      .ok (.joined symbol initialization mapInput)) :
    named inputs rawName = [symbol] ∧
      place inputs mapMember owner rawName symbol =
        .ok (.joined symbol initialization mapInput) := by
  unfold locate at located
  split at located
  · cases located
  · next found only =>
      have same : found = symbol := by
        obtain ⟨_, _, rest⟩ := bind_eq_ok.mp located
        obtain ⟨_, _, rest⟩ := bind_eq_ok.mp rest
        obtain ⟨_, _, rest⟩ := bind_eq_ok.mp rest
        split at rest
        · split at rest
          · cases rest
          · split at rest
            · cases rest
            · cases rest
              rfl
        · cases rest
      exact ⟨same ▸ only, same ▸ located⟩
  · cases located

theorem right_of_rowOf {entry : InventoryEntry} {identity : PyJson}
    (found : rowOf inputs mapMember entry identity = some row) : row.Right inputs mapMember := by
  obtain ⟨rawName, role, symbol, initialization, mapInput, _, located, rfl⟩ := rowOf_eq_some.mp found
  obtain ⟨only, placed⟩ := locate_eq_joined located
  obtain ⟨accounting, unique, owned, member⟩ := place_eq_joined placed
  exact ⟨only, accounting, unique, owned, member⟩

theorem right_of_mem_rowsOf (member : row ∈ rowsOf inputs mapMember entries) :
    row.Right inputs mapMember := by
  obtain ⟨plan, planned, held⟩ := List.mem_flatMap.mp member
  obtain ⟨value, _, found⟩ := List.mem_filterMap.mp planned
  unfold planOf at found
  split at found
  · cases found
  · next entry read =>
      unfold planOfEntry at found
      split at found
      · split at found
        · cases found
          obtain ⟨identity, _, row⟩ := List.mem_filterMap.mp held
          exact right_of_rowOf row
        · cases found
      · cases found
        cases held

/-- Each row of a report is right. -/
theorem right_of_joinEntries (joined : joinEntries inputs mapMember entries = .ok join)
    (member : row ∈ join.symbols) : row.Right inputs mapMember := by
  have rows : join.symbols.map JoinedSymbol.uncharged =
      (rowsOf inputs mapMember entries).map JoinedSymbol.uncharged := by
    rw [(joined_report joined).1]
    exact map_chargeRows (fun _ _ => rfl) ..
  have held : row.uncharged ∈ (rowsOf inputs mapMember entries).map JoinedSymbol.uncharged := by
    rw [← rows]
    exact List.mem_map_of_mem member
  obtain ⟨found, among, same⟩ := List.mem_map.mp held
  have right := right_of_mem_rowsOf among
  have symbol : found.symbol = row.symbol := (congrArg JoinedSymbol.symbol same :)
  have rawName : found.rawName = row.rawName := (congrArg JoinedSymbol.rawName same :)
  have mapInput : found.mapInput = row.mapInput := (congrArg JoinedSymbol.mapInput same :)
  constructor
  · rw [← rawName, ← symbol]
    exact right.only
  · rw [← symbol]
    exact right.accounting
  · rw [← symbol, ← mapInput]
    exact right.mapInput
  · rw [← mapInput]
    exact right.owner
  · exact right.member

theorem joinInventory_eq_ok {inventory : PyJson} (joined : joinInventory inputs inventory = .ok join) :
    ∃ mapMember entries report, joinEntries inputs mapMember entries = .ok report ∧
      join = { report with inventoryClaimedComplete := claimsComplete inventory } := by
  obtain ⟨_, _, joined⟩ := bind_eq_ok.mp joined
  obtain ⟨entries, _, joined⟩ := bind_eq_ok.mp joined
  obtain ⟨mapMember, _, joined⟩ := bind_eq_ok.mp joined
  split at joined
  · cases joined
  · obtain ⟨_, _, joined⟩ := bind_eq_ok.mp joined
    obtain ⟨report, found, same⟩ := bind_eq_ok.mp joined
    cases same
    exact ⟨mapMember, entries, report, found, rfl⟩

/-! ## The charges against the debit -/

/-- The sized writable sections lie apart, one before or after the other. -/
def Elf.Apart (elf : Elf) : Prop :=
  elf.measured.Pairwise fun first second =>
    first.address + first.size ≤ second.address ∨ second.address + second.size ≤ first.address

variable {elf : Elf} {elfBytes : List UInt8} {outputs : List MapOutput} {identity : Str}
  {report : Report}

/-- Symbols that share an address are of one section of the file. -/
theorem sectionIndex_eq (elfRead : parseElf elfBytes = .ok elf) (apart : elf.Apart)
    {first second : ElfSymbol} (firstHeld : first ∈ elf.symbols) (secondHeld : second ∈ elf.symbols)
    {byte : Nat} (inFirst : first.address ≤ byte ∧ byte < first.address + first.size)
    (inSecond : second.address ≤ byte ∧ byte < second.address + second.size) :
    first.sectionIndex = second.sectionIndex := by
  obtain ⟨one, lies⟩ := inside_of_parseElf elfRead firstHeld
  obtain ⟨other, lies'⟩ := inside_of_parseElf elfRead secondHeld
  have measured : ∀ {symbol : ElfSymbol} {target}, symbol.Inside elf.sections target →
      (target.isWritable = true ∧ (target.size != 0) = true) := by
    intro symbol target lies
    have := lies.sized
    have := lies.starts
    have := lies.stops
    exact ⟨lies.writable, by simp only [bne_iff_ne, ne_eq]; omega⟩
  have starts := lies.starts
  have stops := lies.stops
  have starts' := lies'.starts
  have stops' := lies'.stops
  rw [Elf.Apart, Elf.measured, Elf.writable, List.pairwise_filter, List.pairwise_filter,
    List.pairwise_iff_getElem] at apart
  obtain ⟨held, get⟩ := List.getElem?_eq_some_iff.mp lies.held
  obtain ⟨held', get'⟩ := List.getElem?_eq_some_iff.mp lies'.held
  obtain earlier | same | later := Nat.lt_trichotomy first.sectionIndex second.sectionIndex
  · have := apart _ _ held held' earlier
    rw [get, get'] at this
    have := this (measured lies).1 (measured lies').1 (measured lies).2 (measured lies').2
    omega
  · exact same
  · have := apart _ _ held' held later
    rw [get, get'] at this
    have := this (measured lies').1 (measured lies).1 (measured lies').2 (measured lies).2
    omega

/-- A measured file has no two symbols of one section that conflict. -/
theorem not_conflicting_of_measured (elfRead : parseElf elfBytes = .ok elf)
    (measured : measureParsed elf outputs identity = .ok report)
    {first second : ElfSymbol} (firstHeld : first ∈ elf.symbols) (secondHeld : second ∈ elf.symbols)
    (same : first.sectionIndex = second.sectionIndex) : ¬Conflicting first second := by
  obtain ⟨_, _, measured⟩ := bind_eq_ok.mp measured
  obtain ⟨_, silent, _⟩ := bind_eq_ok.mp measured
  rw [refuseIf_eq_ok, Bool.not_eq_false, List.isEmpty_iff] at silent
  have sized : ∀ symbol ∈ sortSymbols (fun s => (s.address, s.size, s.name)) elf.symbols,
      0 < symbol.size := by
    intro symbol member
    obtain ⟨_, lies⟩ := inside_of_parseElf elfRead ((List.mem_insertionSort _).mp member)
    exact Nat.pos_of_ne_zero lies.sized
  intro conflict
  apply (conflictingOverlaps_ne_nil sized).mpr _ silent
  exact ⟨first, (List.mem_insertionSort _).mpr firstHeld, second,
    (List.mem_insertionSort _).mpr secondHeld, same, conflict⟩

/-- The join reads the symbols and the rows that were measured. -/
structure JoinInputs.Measured (inputs : JoinInputs) (elf : Elf) (outputs : List MapOutput)
    (identity : Str) : Prop where
  symbols : inputs.symbols = elf.symbols
  outputs : inputs.outputs = outputs
  owner : inputs.expectedMapOwner = identity

theorem symbol_mem_of_joinEntries (joined : joinEntries inputs mapMember entries = .ok join)
    (member : row ∈ join.symbols) : row.symbol ∈ inputs.symbols := by
  have only := (right_of_joinEntries joined member).only
  have held : row.symbol ∈ named inputs row.rawName := by
    rw [only]
    exact List.mem_singleton_self _
  exact List.mem_of_mem_filter held

/-- A byte of a joined symbol is charged to the object. -/
theorem charged_of_joined (elfRead : parseElf elfBytes = .ok elf)
    (reads : inputs.Measured elf outputs identity)
    (joined : joinEntries inputs mapMember entries = .ok join) (member : row ∈ join.symbols)
    {byte : Nat} (low : row.symbol.address ≤ byte)
    (high : byte < row.symbol.address + row.symbol.size) :
    byte ∈ chargedBytes elf.writableNames outputs identity := by
  have right := right_of_joinEntries joined member
  have held : row.mapInput ∈ mapMatches inputs row.symbol := by
    rw [right.mapInput]
    exact List.mem_singleton_self _
  obtain ⟨output, among, placed⟩ := List.mem_flatMap.mp held
  obtain ⟨item, found, same⟩ := List.mem_map.mp placed
  rw [List.mem_filter, reads.outputs, decide_eq_true_eq] at among
  rw [List.mem_filter, decide_eq_true_eq] at found
  obtain ⟨listed, sized, starts, stops⟩ := found
  have owned : item.owner = identity := by
    rw [← reads.owner, ← right.owner, ← same]
  have symbol := symbol_mem_of_joinEntries joined member
  rw [reads.symbols] at symbol
  obtain ⟨target, lies⟩ := inside_of_parseElf elfRead symbol
  have named : output.name ∈ elf.writableNames := by
    rw [among.2, lies.sectionName]
    apply List.mem_map_of_mem
    exact List.mem_filter.mpr ⟨List.mem_of_getElem? lies.held, lies.writable⟩
  obtain ⟨place, inside, here⟩ := List.getElem_of_mem listed
  have matching : (item, place) ∈ output.matching identity := by
    apply List.mem_filter.mpr
    refine ⟨List.mk_mem_zipIdx_iff_getElem?.mpr (List.getElem?_eq_some_iff.mpr ⟨inside, here⟩), ?_⟩
    simp [owned, sized]
  exact ⟨output, among.1, named, item, ⟨place, .seed matching⟩, Nat.le_trans starts low,
    Nat.lt_of_lt_of_le high stops⟩

/-- In a measured image whose sections lie apart, the charges of a join count each byte once,
and within the debit. -/
theorem charges_within_debit (elfRead : parseElf elfBytes = .ok elf) (apart : elf.Apart)
    (measured : measureParsed elf outputs identity = .ok report)
    (reads : inputs.Measured elf outputs identity)
    (joined : joinEntries inputs mapMember entries = .ok join) :
    (join.symbols.map JoinedSymbol.rangeBytesCharged).sum = join.joinedSymbolUnionBytes ∧
      join.joinedSymbolUnionBytes ≤ report.conservativeDebitBytes := by
  obtain ⟨_, union, _, exactly⟩ := charges_of_join joined
  have listed : ∀ row ∈ join.symbols, row.symbol ∈ elf.symbols := by
    intro row member
    rw [← reads.symbols]
    exact symbol_mem_of_joinEntries joined member
  constructor
  · apply exactly.mpr
    intro first firstHeld second secondHeld meets
    obtain ⟨byte, low, high, low', high'⟩ := meets.2.meet
    have same := sectionIndex_eq elfRead apart (listed _ firstHeld) (listed _ secondHeld)
      ⟨low, high⟩ ⟨low', high'⟩
    exact not_conflicting_of_measured elfRead measured (listed _ firstHeld) (listed _ secondHeld)
      same meets.2
  · obtain ⟨_, debit, _⟩ := measureParsed_eq_ok measured
    rw [union, debit, merged_contributions, ← coe_covered_contributions, Set.ncard_coe_finset]
    apply Finset.card_le_card_of_injOn Prod.snd
    · intro byte inside
      obtain ⟨row, member, _, low, high⟩ := mem_joinedBytes.mp inside
      rw [coe_covered_contributions]
      exact charged_of_joined elfRead reads joined member low high
    · intro one inOne other inOther same
      obtain ⟨first, firstHeld, firstNamed, low, high⟩ := mem_joinedBytes.mp inOne
      obtain ⟨second, secondHeld, secondNamed, low', high'⟩ := mem_joinedBytes.mp inOther
      rw [← same] at low' high'
      have index := sectionIndex_eq elfRead apart (listed _ firstHeld) (listed _ secondHeld)
        ⟨low, high⟩ ⟨low', high'⟩
      obtain ⟨target, lies⟩ := inside_of_parseElf elfRead (listed _ firstHeld)
      obtain ⟨target', lies'⟩ := inside_of_parseElf elfRead (listed _ secondHeld)
      have sections : target = target' := by
        have held := lies.held
        rw [index, lies'.held] at held
        exact (Option.some.inj held).symm
      refine Prod.ext ?_ same
      rw [← firstNamed, ← secondNamed, lies.sectionName, lies'.sectionName, sections]

/-! ## Runs of the audit -/

/-- The manifest declares the ceiling, a positive UInt32. -/
structure DeclaresCeiling (manifest : PyJson) (ceiling : Int) : Prop where
  declared : (manifest.get "capacities").get "applicationStaticStorageBytes" = .int ceiling
  positive : 0 < ceiling
  fits : ceiling ≤ 0xFFFFFFFF

/-- What an audit with an inventory says of the bytes of the image. -/
structure Accounted (inputs : AuditInputs) (elf : Elf) (result : AuditReport) (join : JoinReport) :
    Prop where
  rows : ∃ outputs, parseMap inputs.combinedObject (decode inputs.mapBytes) = .ok outputs ∧
    ∀ row ∈ join.symbols, row.symbol ∈ elf.symbols ∧
      mapMatches (joinInputs inputs elf outputs) row.symbol = [row.mapInput] ∧
      row.mapInput.item.owner = inputs.combinedObject
  once : ∀ row ∈ join.symbols, ((join.symbols.filter fun other =>
    other.rangeKey = row.rangeKey).map JoinedSymbol.rangeBytesCharged).sum = row.symbol.size
  charged : (join.symbols.map JoinedSymbol.rangeBytesCharged).sum = join.joinedSymbolUnionBytes
  debit : join.joinedSymbolUnionBytes ≤ result.measurement.conservativeDebitBytes
  budget : inputs.enforced = true → exitStatus (.ok result) = some 0 →
    ∃ manifest ceiling, inputs.manifest = some manifest ∧ DeclaresCeiling manifest ceiling ∧
      result.staticStorageBudget.map StaticStorageBudget.ceilingBytes = some ceiling ∧
      (result.measurement.conservativeDebitBytes : Int) ≤ ceiling

variable {arguments : AuditInputs} {result : AuditReport}

theorem mapError_eq_ok {ε δ α : Type} {f : ε → δ} {outcome : Except ε α} {value : α} :
    outcome.mapError f = .ok value ↔ outcome = .ok value := by
  cases outcome <;> simp [Except.mapError]

theorem readCeiling_eq_ok {value : PyJson} {ceiling : Int} (read : readCeiling value = .ok ceiling) :
    value = .int ceiling ∧ 0 < ceiling ∧ ceiling ≤ 0xFFFFFFFF := by
  unfold readCeiling at read
  split at read
  · obtain ⟨_, checked, same⟩ := bind_eq_ok.mp read
    cases same
    rw [refuseIf_eq_ok] at checked
    exact ⟨rfl, by omega, by omega⟩
  · cases read

/-- The budget of a manifest compares the debit with the ceiling that it declares. -/
theorem enforceStaticStorageBudget_eq_ok {manifest : PyJson} {found : StaticStorageBudget}
    (checked : enforceStaticStorageBudget report manifest = .ok found) :
    DeclaresCeiling manifest found.ceilingBytes ∧
      (found.passed = true → (report.conservativeDebitBytes : Int) ≤ found.ceilingBytes) := by
  obtain ⟨_, _, checked⟩ := bind_eq_ok.mp checked
  obtain ⟨_, _, checked⟩ := bind_eq_ok.mp checked
  obtain ⟨ceiling, read, checked⟩ := bind_eq_ok.mp checked
  obtain ⟨_, _, same⟩ := bind_eq_ok.mp checked
  cases same
  obtain ⟨declared, positive, fits⟩ := readCeiling_eq_ok read
  exact ⟨⟨declared, positive, fits⟩, of_decide_eq_true⟩

theorem enforceBudget_eq_ok {budget : Option StaticStorageBudget}
    (enforced : enforceBudget arguments report = .ok budget) (asked : arguments.enforced = true) :
    ∃ manifest found, arguments.manifest = some manifest ∧ budget = some found ∧
      enforceStaticStorageBudget report manifest = .ok found := by
  rw [enforceBudget, if_pos asked] at enforced
  split at enforced
  · cases enforced
  · next manifest given =>
      rw [mapError_eq_ok] at enforced
      cases checked : enforceStaticStorageBudget report manifest with
      | error error =>
          rw [checked] at enforced
          cases enforced
      | ok found =>
          rw [checked] at enforced
          cases enforced
          exact ⟨manifest, found, given, rfl, checked⟩

/-- An audit whose image keeps its sections apart charges each joined byte once and within the
debit, and one that exits with zero under a budget keeps the debit within the ceiling of the
manifest. -/
theorem audit_accounts (audited : audit arguments = .ok result)
    (joined : result.inventoryJoin = some join)
    (elfRead : parseElf arguments.elfBytes = .ok elf) (apart : elf.Apart) :
    Accounted arguments elf result join := by
  obtain ⟨measurement, measured, audited⟩ := bind_eq_ok.mp audited
  obtain ⟨budget, enforced, audited⟩ := bind_eq_ok.mp audited
  split at audited
  · cases audited
    cases joined
  · obtain ⟨found, joinedImage, same⟩ := bind_eq_ok.mp audited
    cases same
    cases joined
    obtain ⟨_, _, joinedImage⟩ := bind_eq_ok.mp joinedImage
    obtain ⟨again, elfAgain, joinedImage⟩ := bind_eq_ok.mp joinedImage
    obtain ⟨outputs, mapRead, joinedImage⟩ := bind_eq_ok.mp joinedImage
    rw [mapError_eq_ok] at measured elfAgain mapRead joinedImage
    rw [elfRead] at elfAgain
    cases elfAgain
    obtain ⟨mapMember, entries, report, joinedEntries, rfl⟩ := joinInventory_eq_ok joinedImage
    have parsed : measureParsed elf outputs arguments.combinedObject = .ok measurement := by
      rw [measure, elfRead, mapRead] at measured
      exact measured
    have reads : (joinInputs arguments elf outputs).Measured elf outputs arguments.combinedObject :=
      ⟨rfl, rfl, rfl⟩
    obtain ⟨charged, debit⟩ := charges_within_debit elfRead apart parsed reads joinedEntries
    refine ⟨⟨outputs, mapRead, fun row member => ?_⟩, (charges_of_join joinedEntries).1, charged,
      debit, ?_⟩
    · have right := right_of_joinEntries joinedEntries member
      exact ⟨symbol_mem_of_joinEntries joinedEntries member, right.mapInput, right.owner⟩
    · intro asked exits
      obtain ⟨manifest, found, given, rfl, checked⟩ := enforceBudget_eq_ok enforced asked
      obtain ⟨declared, within⟩ := enforceStaticStorageBudget_eq_ok checked
      refine ⟨manifest, found.ceilingBytes, given, declared, rfl, within ?_⟩
      cases passed : found.passed with
      | true => rfl
      | false => simp [exitStatus, passed] at exits

/-! ## An image with one joined symbol -/

/-- A RISC-V file of class 32 with `.bss` of sixteen bytes at `0x1000` and the symbol `app` on
its first eight. -/
def appImage : List UInt8 :=
  [0x7F, 0x45, 0x4C, 0x46, 1, 1, 1] ++ List.replicate 9 0 ++
    [2, 243].flatMap (littleEndian 2) ++ [1, 0, 0, 108, 0].flatMap (littleEndian 4) ++
    [52, 32, 0, 40, 5, 1].flatMap (littleEndian 2) ++
    "\x00.shstrtab\x00.bss\x00\x00app\x00\x00\x00\x00".toList.map (fun c => UInt8.ofNat c.toNat) ++
    List.replicate 16 0 ++ [1, 0x1000, 8].flatMap (littleEndian 4) ++ [1, 0, 2, 0] ++
    List.replicate 40 0 ++
    [1, 3, 0, 0, 52, 16, 0, 0, 1, 0].flatMap (littleEndian 4) ++
    [11, 8, 3, 0x1000, 68, 16, 0, 0, 4, 0].flatMap (littleEndian 4) ++
    [0, 2, 0, 0, 76, 32, 4, 0, 4, 16].flatMap (littleEndian 4) ++
    [0, 3, 0, 0, 68, 8, 0, 0, 1, 0].flatMap (littleEndian 4)

def appManifest : PyJson :=
  .dict [("capacities".toList, .dict [("applicationStaticStorageBytes".toList, .int 64)])]

def appArguments : AuditInputs where
  elfBytes := appImage
  mapBytes := bssMap
  combinedObject := appObject
  enforced := true
  manifest := some appManifest
  inventory := some (inventoryOf [entryOf "app" "app"])
  readSource := appSource
  wireProfile := none

theorem audit_accounts_app : ∃ elf result join, audit appArguments = .ok result ∧
    result.inventoryJoin = some join ∧ exitStatus (.ok result) = some 0 ∧
      Accounted appArguments elf result join := by
  have runs : ((audit appArguments).toOption.bind AuditReport.inventoryJoin).isSome = true := by
    decide +kernel
  have exits : exitStatus (audit appArguments) = some 0 := by
    decide +kernel
  have reads : (parseElf appArguments.elfBytes).toOption.isSome = true := by
    decide +kernel
  obtain ⟨elf, elfRead⟩ := exists_of_toOption_isSome reads
  cases audited : audit appArguments with
  | error error =>
      rw [audited] at runs
      cases runs
  | ok result =>
      rw [audited] at runs exits
      obtain ⟨join, joined⟩ := Option.isSome_iff_exists.mp runs
      have measured : (parseElf appArguments.elfBytes).toOption.map
          (fun elf => elf.measured.length) = some 1 := by
        decide +kernel
      rw [elfRead] at measured
      have apart : elf.Apart := by
        obtain ⟨target, only⟩ := List.length_eq_one_iff.mp (Option.some.inj measured)
        rw [Elf.Apart, only]
        exact List.pairwise_singleton _ _
      exact ⟨elf, result, join, rfl, joined, exits, audit_accounts audited joined elfRead apart⟩

end AxolotyEmbedded.LinkedStorage
