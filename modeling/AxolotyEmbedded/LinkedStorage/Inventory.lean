import AxolotyEmbedded.Library.Dict
import AxolotyEmbedded.LinkedStorage.Measure
import AxolotyEmbedded.Library.PythonJson

/-!
`join_inventory` of the linked storage audit: the entries of an inventory are joined to the
writable symbols of the image and to the rows of the map that hold them, and each range of
bytes is charged once. The errors stand for their texts, and the digests and the texts that
are the same in every report are left out.
-/
namespace AxolotyEmbedded.LinkedStorage

open PythonText Checked

/-! ## Identities of objects -/

/-- `[^()/\s]`. -/
def isPlain (c : Char) : Bool := c ∉ ['(', ')', '/'] && !isSpace c

/-- `[^()/\s]+` and a suffix. -/
def plainWith (suffix : String) (name : Str) : Bool :=
  name.all isPlain && suffix.toList.isSuffixOf name && suffix.toList.length < name.length

/-- `[^()/\s]+\.(?:o|obj)`. -/
def isObjectName (name : Str) : Bool := plainWith ".o" name || plainWith ".obj" name

/-- `(?:[^()/\s]+/)*` and a last part. -/
def pathTo (last : Str → Bool) (path : Str) : Bool :=
  (split '/' path).dropLast.all (fun part => !part.isEmpty && part.all isPlain) &&
    ((split '/' path).getLast?.map last).getD false

/-- `object_member`: of an archive the member in parentheses, else the last part. -/
def objectMember (identity : Str) : Option Str :=
  match identity.dropWhile fun c => c ≠ '(' with
  | [] => if pathTo isObjectName identity then (split '/' identity).getLast? else none
  | _ :: inside =>
      if pathTo (plainWith ".a") (identity.takeWhile fun c => c ≠ '(') ∧ inside.getLast? = some ')' ∧
          isObjectName inside.dropLast then
        some inside.dropLast
      else none

/-! ## Results -/

/-- `{"output_section": ..., **item}`. -/
structure MapMatch where
  outputSection : Str
  item : MapInput
  deriving DecidableEq

inductive Initialization where
  | zeroBacked
  | fileBacked
  deriving DecidableEq

/-- Why a symbol of the inventory is not joined. -/
inductive Unmatched where
  | missing (owner rawName : Str)
  | mapOwner (owner rawName actualOwner actualMember : Str)
  deriving DecidableEq

inductive Ambiguous where
  | symbols (owner rawName : Str) (count : Nat)
  | mapRows (owner rawName : Str) (rows : List MapMatch)
  deriving DecidableEq

/-- `AuditError` by its text, or the `TypeError` of a set that is asked for a container. -/
inductive JoinError where
  | root
  | schema
  | mapMember
  | combinedObject
  | memberMismatch (declared expected : Str)
  | entry
  | owner (owner : PyJson)
  | category (owner : Str)
  | sourceIdentity (owner : Str)
  | sourceKind (owner path : Str)
  | sourceUnavailable (owner path : Str)
  | sourceName (name path : Str)
  | noSymbols (owner : Str)
  | wireProfiles (owner : Str)
  | symbolIdentity (owner : Str)
  | assignedTwice (rawName : Str)
  | sectionClass (error : AuditError)
  | outsideDataBss (rawName sectionName : Str)
  | sectionType (rawName : Str)
  | mapOwnerSyntax (owner : Str)
  | notJoined (unmatched : List Unmatched) (ambiguous : List Ambiguous)
  | typeError

structure JoinedSymbol where
  owner : Str
  category : Str
  sourcePath : Str
  sourceName : Str
  sourceKind : Str
  rawName : Str
  role : Str
  symbol : ElfSymbol
  initialization : Initialization
  mapInput : MapMatch
  aliases : List Str
  rangeBytesCharged : Nat
  deriving DecidableEq

/-- `range_key`. -/
def ElfSymbol.rangeKey (symbol : ElfSymbol) : Str × Nat × Nat :=
  (symbol.sectionName, symbol.address, symbol.size)

/-- What the join reads besides the inventory: `readSource` gives the bytes of a file below
the source root. -/
structure JoinInputs where
  symbols : List ElfSymbol
  outputs : List MapOutput
  readSource : Str → Option (List UInt8)
  expectedMapOwner : Str
  sectionTypes : Dict Str Nat
  wireProfile : Option Str

/-- The variables of the loop over the entries. -/
structure JoinState where
  owners : List Str
  expectedNames : List Str
  joined : List JoinedSymbol
  unmatched : List Unmatched
  ambiguous : List Ambiguous
  notApplicable : List Str
  chargedRanges : List (Str × Nat × Nat)

def JoinState.empty : JoinState := ⟨[], [], [], [], [], [], []⟩

/-! ## One entry -/

/-- The fields of an entry that passed its checks. -/
structure InventoryEntry where
  owner : Str
  category : Str
  sourcePath : Str
  sourceName : Str
  sourceKind : Str
  expectedSymbols : List PyJson
  wireProfiles : Option (List Str)

/-- `value in {...}` of a set of texts. -/
def inTexts (value : PyJson) (texts : List String) : Except JoinError Bool := do
  refuseIf (value.hashable = false) .typeError
  return texts.any fun text => value.equals (.str text.toList)

section Entry

variable (inputs : JoinInputs)

def readOwner (owners : List Str) (entry : PyJson) : Except JoinError Str :=
  match (entry.get "owner").text? with
  | none => .error (.owner (entry.get "owner"))
  | some owner => do
      refuseIf (owner = [] ∨ owner ∈ owners) (.owner (entry.get "owner"))
      return owner

def readCategory (owner : Str) (entry : PyJson) : Except JoinError Str := do
  let known ← inTexts (entry.get "category") ["app-state", "app-global", "initialization-control"]
  refuseIf (known = false) (.category owner)
  return (entry.get "category").text?.getD []

/-- The path, the name and the kind of the source. -/
def readSourceIdentity (owner : Str) (entry : PyJson) : Except JoinError (Str × Str × Str) :=
  match (entry.get "sourcePath").text?, (entry.get "sourceName").text? with
  | some path, some name => do
      let known ← inTexts (entry.get "sourceKind") ["swift-source", "generator-source"]
      refuseIf (known = false) (.sourceIdentity owner)
      return (path, name, (entry.get "sourceKind").text?.getD [])
  | _, _ => .error (.sourceIdentity owner)

/-- The source file has the name in it. -/
def checkSource (owner : Str) (source : Str × Str × Str) : Except JoinError Unit := do
  refuseIf (".swift".toList.isSuffixOf source.1 ≠ decide (source.2.2 = "swift-source".toList))
    (.sourceKind owner source.1)
  match inputs.readSource source.1 with
  | none => .error (.sourceUnavailable owner source.1)
  | some bytes =>
      refuseIf (¬source.2.1.flatMap String.utf8EncodeChar <:+: bytes)
        (.sourceName source.2.1 source.1)

def readSymbols (owner : Str) (entry : PyJson) : Except JoinError (List PyJson) :=
  match (entry.get "expectedSymbols").list? with
  | none => .error (.noSymbols owner)
  | some items => do
      refuseIf (items.isEmpty = true) (.noSymbols owner)
      return items

/-- `wireProfiles`: absent, or texts that are not empty. -/
def readWireProfiles (owner : Str) (entry : PyJson) : Except JoinError (Option (List Str)) :=
  match entry.get "wireProfiles" with
  | .none => .ok none
  | value =>
      match value.list? with
      | none => .error (.wireProfiles owner)
      | some items => do
          refuseIf (items.isEmpty = true ∨ (items.any fun item => item.text?.getD [] = []) = true)
            (.wireProfiles owner)
          return some (items.filterMap PyJson.text?)

def readEntry (owners : List Str) (entry : PyJson) : Except JoinError InventoryEntry := do
  refuseIf (entry.isDict = false) .entry
  let owner ← readOwner owners entry
  let category ← readCategory owner entry
  let source ← readSourceIdentity owner entry
  checkSource inputs owner source
  let expectedSymbols ← readSymbols owner entry
  let wireProfiles ← readWireProfiles owner entry
  return {
    owner, category, expectedSymbols, wireProfiles
    sourcePath := source.1
    sourceName := source.2.1
    sourceKind := source.2.2 }

/-- The build's wire profile, if it is known, is one of the entry's. -/
def InventoryEntry.applies (entry : InventoryEntry) : Bool :=
  match inputs.wireProfile, entry.wireProfiles with
  | some profile, some profiles => profile ∈ profiles
  | _, _ => true

end Entry

/-! ## One symbol -/

inductive Located where
  | unmatched (reason : Unmatched)
  | ambiguous (reason : Ambiguous)
  | joined (symbol : ElfSymbol) (initialization : Initialization) (mapInput : MapMatch)

section Identity

variable (inputs : JoinInputs) (mapMember : Str)

def readIdentity (owner : Str) (identity : PyJson) : Except JoinError (Str × Str) :=
  match (identity.get "rawName").text?, (identity.get "role").text? with
  | some rawName, some role => .ok (rawName, role)
  | _, _ => .error (.symbolIdentity owner)

def named (rawName : Str) : List ElfSymbol :=
  inputs.symbols.filter fun symbol => symbol.name = rawName

/-- The sized rows of the outputs of the symbol's section that hold the symbol. -/
def mapMatches (symbol : ElfSymbol) : List MapMatch :=
  (inputs.outputs.filter fun output => output.name = symbol.sectionName).flatMap fun output =>
    (output.inputs.filter fun item => item.size ≠ 0 ∧ item.address ≤ symbol.address ∧
      symbol.address + symbol.size ≤ item.address + item.size).map fun item => ⟨output.name, item⟩

def initialization (rawName : Str) (symbol : ElfSymbol) : Except JoinError Initialization :=
  match inputs.sectionTypes.get? symbol.sectionName with
  | some 8 => .ok .zeroBacked
  | some 1 => .ok .fileBacked
  | _ => .error (.sectionType rawName)

/-- A symbol of the name, with the rows that hold it. -/
def place (owner rawName : Str) (symbol : ElfSymbol) : Except JoinError Located := do
  let accounting ← (writableSectionClass symbol.sectionName).mapError .sectionClass
  refuseIf (accounting ≠ .data ∧ accounting ≠ .bss) (.outsideDataBss rawName symbol.sectionName)
  let initialization ← initialization inputs rawName symbol
  match mapMatches inputs symbol with
  | [row] =>
      match objectMember row.item.owner with
      | none => .error (.mapOwnerSyntax row.item.owner)
      | some actualMember =>
          if row.item.owner ≠ inputs.expectedMapOwner ∨ actualMember ≠ mapMember then
            return .unmatched (.mapOwner owner rawName row.item.owner actualMember)
          else return .joined symbol initialization row
  | rows => return .ambiguous (.mapRows owner rawName rows)

def locate (owner rawName : Str) : Except JoinError Located :=
  match named inputs rawName with
  | [] => .ok (.unmatched (.missing owner rawName))
  | [symbol] => place inputs mapMember owner rawName symbol
  | symbols => .ok (.ambiguous (.symbols owner rawName symbols.length))

/-- The other names of the symbol's range, sorted. -/
def aliasesOf (rawName : Str) (symbol : ElfSymbol) : List Str :=
  ((inputs.symbols.filter fun other =>
    other.rangeKey = symbol.rangeKey ∧ other.name ≠ rawName).map ElfSymbol.name).insertionSort
      fun first second => strLe first second = true

/-- A joined symbol before it is charged. -/
def joinedRow (entry : InventoryEntry) (rawName role : Str) (symbol : ElfSymbol)
    (initialization : Initialization) (mapInput : MapMatch) : JoinedSymbol where
  owner := entry.owner
  category := entry.category
  sourcePath := entry.sourcePath
  sourceName := entry.sourceName
  sourceKind := entry.sourceKind
  rawName := rawName
  role := role
  symbol := symbol
  initialization := initialization
  mapInput := mapInput
  aliases := aliasesOf inputs rawName symbol
  rangeBytesCharged := 0

/-- The range of a joined symbol is charged unless it was before. -/
def JoinedSymbol.chargedAfter (row : JoinedSymbol) (charged : List (Str × Nat × Nat)) : JoinedSymbol :=
  { row with rangeBytesCharged := if row.symbol.rangeKey ∈ charged then 0 else row.symbol.size }

def JoinState.charge (state : JoinState) (row : JoinedSymbol) : JoinState :=
  { state with
    joined := state.joined ++ [row.chargedAfter state.chargedRanges]
    chargedRanges := row.symbol.rangeKey :: state.chargedRanges }

def joinIdentity (entry : InventoryEntry) (state : JoinState) (identity : PyJson) :
    Except JoinError JoinState := do
  let (rawName, role) ← readIdentity entry.owner identity
  refuseIf (rawName ∈ state.expectedNames) (.assignedTwice rawName)
  let state := { state with expectedNames := rawName :: state.expectedNames }
  match ← locate inputs mapMember entry.owner rawName with
  | .unmatched reason => return { state with unmatched := state.unmatched ++ [reason] }
  | .ambiguous reason => return { state with ambiguous := state.ambiguous ++ [reason] }
  | .joined symbol initialization mapInput =>
      return state.charge (joinedRow inputs entry rawName role symbol initialization mapInput)

def joinEntry (state : JoinState) (entry : PyJson) : Except JoinError JoinState := do
  let entry ← readEntry inputs state.owners entry
  let state := { state with owners := entry.owner :: state.owners }
  if entry.applies inputs then
    entry.expectedSymbols.foldlM (joinIdentity inputs mapMember entry) state
  else return { state with notApplicable := state.notApplicable ++ [entry.owner] }

end Identity

/-! ## The join -/

structure JoinReport where
  expectedMapMember : Str
  combinedObjectIdentity : Str
  recognizedLogicalOwners : List Str
  symbols : List JoinedSymbol
  wireProfile : Option Str
  notApplicableOwners : List Str
  joinedSymbolUnionBytes : Nat
  inventoryClaimedComplete : Bool := false

/-- The names of a list once each, sorted. -/
def sortedNames (names : List Str) : List Str :=
  names.dedup.insertionSort fun first second => strLe first second = true

/-- `section_ranges`, of one section. -/
def sectionRanges (joined : List JoinedSymbol) (name : Str) : List Ranges.Range :=
  (joined.filter fun row => row.symbol.sectionName = name).map fun row => row.symbol.range

/-- `joined_union`. -/
def joinedUnion (joined : List JoinedSymbol) : Nat :=
  Ranges.total ((joined.map fun row => row.symbol.sectionName).dedup.map fun name =>
    Ranges.merged (sectionRanges joined name))

def JoinState.report (state : JoinState) (inputs : JoinInputs) (mapMember : Str) : JoinReport where
  expectedMapMember := mapMember
  combinedObjectIdentity := inputs.expectedMapOwner
  recognizedLogicalOwners := sortedNames (state.joined.map JoinedSymbol.owner)
  symbols := state.joined
  wireProfile := inputs.wireProfile
  notApplicableOwners := state.notApplicable.insertionSort fun first second =>
    strLe first second = true
  joinedSymbolUnionBytes := joinedUnion state.joined

/-- The join of the entries after the checks of the inventory's own fields. -/
def joinEntries (inputs : JoinInputs) (mapMember : Str) (entries : List PyJson) :
    Except JoinError JoinReport := do
  let state ← entries.foldlM (joinEntry inputs mapMember) .empty
  refuseIf (state.unmatched ≠ [] ∨ state.ambiguous ≠ []) (.notJoined state.unmatched state.ambiguous)
  return state.report inputs mapMember

/-- `expectedMapMember`, which is its own member. -/
def readMapMember (inventory : PyJson) : Except JoinError Str :=
  match (inventory.get "expectedMapMember").text? with
  | none => .error .mapMember
  | some mapMember => do
      refuseIf (objectMember mapMember ≠ some mapMember) .mapMember
      return mapMember

def readEntries (inventory : PyJson) : Except JoinError (List PyJson) :=
  match (inventory.get "entries").list? with
  | none => .error .schema
  | some entries => do
      refuseIf ((inventory.get "schemaVersion").equals (.int 1) = false) .schema
      return entries

/-- `coverage.get("complete") is True`, which only the report repeats. -/
def claimsComplete (inventory : PyJson) : Bool :=
  match (inventory.get "coverage").get "complete" with
  | .bool claimed => claimed
  | _ => false

def joinInventory (inputs : JoinInputs) (inventory : PyJson) : Except JoinError JoinReport := do
  refuseIf (inventory.isDict = false) .root
  let entries ← readEntries inventory
  let mapMember ← readMapMember inventory
  match objectMember inputs.expectedMapOwner with
  | none => .error .combinedObject
  | some expected => do
      refuseIf (mapMember ≠ expected) (.memberMismatch mapMember expected)
      let report ← joinEntries inputs mapMember entries
      return { report with inventoryClaimedComplete := claimsComplete inventory }

end AxolotyEmbedded.LinkedStorage
