import AxolotyEmbedded.FirstInit.CallGraph
import AxolotyEmbedded.FirstInit.FrameSearch
import AxolotyEmbedded.Library.Search

/-!
`analyze`: the walk over the calls from the initialization hook, its report, and the walk
as a search that refuses recursive calls.
-/
namespace AxolotyEmbedded.FirstInit

open PythonText PythonInt Checked

/-! ## The walk -/

abbrev WalkKey := Str × Str × List Str

/-- The name, the direct caller and the callbacks. -/
def WalkItem.key (item : WalkItem) : WalkKey :=
  (item.fn.name, item.ancestors.getLastD [], item.context)

/-- What ends a walk before its report: the fuel, or the analysis of a frame raises. -/
inductive Halt where
  | fuel
  | raised (raised : Raised)

/-- `todo` is a stack with its top first, and `found` holds what the walk adds to its other
variables. -/
structure WalkState where
  todo : List WalkItem
  visited : List WalkKey
  found : Findings

section Walk

variable (tables : UnicodeTables) (ints : IntTables) (printable : Char → Bool)
  (inputs : CallInputs) (fuel : Nat)

def frameOf (fn : Function) (linkregReturn : Bool) : Except Halt FrameReport :=
  match analyzeFrame ints printable fuel fn linkregReturn with
  | none => .error .fuel
  | some result => result.mapError .raised

def frameFindings (fn : Function) (report : FrameReport) : Findings where
  frames := [(fn.name, .analyzed report)]
  unresolved := report.unresolved.map fun text => fn.name ++ ": ".toList ++ text

def recursionText (fn : Function) : Str :=
  fn.name ++ "@".toList ++ pcText fn.start ++ ": recursive call path".toList

/-- What the calls of a function add. -/
def callFindings (item : WalkItem) : Findings :=
  Findings.join ((callSites item.fn).map
    (siteFindings inputs item.fn item.context · tables item.ancestors))

/-- The pass for an item that is not refused and whose key was not visited before. -/
def expandItem (item : WalkItem) (rest : List WalkItem) (state : WalkState) :
    Except Halt WalkState := do
  let frame ← frameOf ints printable fuel item.fn item.linkregReturn
  let calls := callFindings tables inputs item
  return {
    todo := calls.todo.reverse ++ rest
    visited := item.key :: state.visited
    found := state.found ++ (frameFindings item.fn frame ++ calls) }

/-- One pass of `while todo`. -/
def walkPass (state : WalkState) : Option (Except Halt WalkState) :=
  match state.todo with
  | [] => none
  | item :: rest =>
      some (if item.fn.name ∈ item.ancestors then
          .ok { state with
            todo := rest
            found := state.found ++ ({ unresolved := [recursionText item.fn] } : Findings) }
        else if item.key ∈ state.visited then .ok { state with todo := rest }
        else expandItem tables ints printable inputs fuel item rest state)

variable (root hook : Function)

/-- The frame of the entry is live, and of its calls only that of the hook is followed. -/
def beginWalk (frame : FrameReport) : WalkState where
  todo := [⟨hook, [root.name], [], false⟩]
  visited := []
  found := frameFindings root frame

def walk : Option (Except Halt WalkState) :=
  match frameOf ints printable fuel root false with
  | .error halt => some (.error halt)
  | .ok frame => Loop.run (walkPass tables ints printable inputs fuel) fuel (beginWalk root hook frame)

end Walk

/-! ## The report -/

/-- `sorted` of a set of texts. -/
def sortedSet (texts : List Str) : List Str :=
  texts.dedup.insertionSort fun first second => strLe first second

/-- The order of tuples of texts. -/
def textsLe : List Str → List Str → Bool
  | [], _ => true
  | _ :: _, [] => false
  | a :: first, b :: second => if a = b then textsLe first second else strLe a b

def sortedBy {α : Type} (key : α → List Str) (list : List α) : List α :=
  list.insertionSort fun first second => textsLe (key first) (key second)

/-- Of the members with one key the last, in the place of the first. -/
def lastByKey {α κ : Type} [DecidableEq κ] (key : α → κ) (list : List α) : List α :=
  ((∅ : Dict κ α).update (list.map fun a => (key a, a))).entries.map Prod.snd

structure DiagnosticFrame where
  frame : LocalFrame
  candidateFrameBytes : Option Int
  frameBytes : Option Int
  semantics : Str

def diagnostic (frame : LocalFrame) : DiagnosticFrame where
  frame
  candidateFrameBytes := frame.frameBytes
  frameBytes := none
  semantics := "unverified external disassembly; candidate only".toList

/-- The resolution that is reported. -/
inductive Reported where
  | candidate
  | as (resolution : Resolution)

def Resolution.reported : Resolution → Reported
  | exact => .candidate
  | contract => .candidate
  | other => .as other

def semanticsText : Str :=
  ("unverified external mnemonic and operand text; ELF encoding match does not decode " ++
    "semantics").toList

def frameSumText : Str :=
  "not computed; control flow and disassembly semantics are unverified".toList

def reachabilityText : Str :=
  "incomplete; control flow and disassembly semantics are unverified".toList

structure CallReport where
  schemaVersion : Nat := 3
  status : Str := "UNRESOLVED".toList
  diagnosticOnly : Bool := true
  executionClaims : Bool := false
  disassemblySemantics : Str := semanticsText
  profile : Str
  inputHashes : Dict Str Str
  entry : Str
  hook : Str
  entryFrameBytes : Option Int := none
  knownPathLowerBoundBytes : Option Int := none
  candidateKnownFrameSumBytes : Option Int := none
  candidateKnownFrameSumSemantics : Str := frameSumText
  maximumStackBytes : Option Int := none
  policyLimitBytes : Option Int := none
  localFrames : List (Str × DiagnosticFrame)
  callGraph : List (CallEdge × Reported)
  allocatorSymbolsPresent : List Str
  allocatorSymbolsReachable : List Str
  allocatorCandidatesForCalibration : List Str
  allocatorReachabilityStatus : Str := reachabilityText
  unresolvedIndirectCallsites : List IndirectSite
  missingROMBodyRequirements : List RomRequirement
  unresolved : List Str

def disclaimerText : Str :=
  ("external disassembly semantics are unverified; diagnostic observations cannot " ++
    "establish execution paths or stack bounds").toList

/-- Where nothing is unresolved, the reason for which the sum of the frames is no bound. -/
def boundTexts (found : Findings) : List Str :=
  if found.unresolved ≠ [] then []
  else if found.edges.any fun edge => edge.kind = .outlinedLink then
    ["outlined-link continuation frame replacement is not yet proven from register dataflow".toList]
  else ["no owner-supplied initialization stack ceiling; policy status remains unresolved".toList]

section Report

variable (tables : UnicodeTables) (inputs : CallInputs) (root hook : Function) (profile : Str)
  (inputHashes : Dict Str Str)

def allocatorPresent : List Str :=
  (inputs.byAddr.entries.map fun entry => entry.2.name).filter (isAllocator tables)

def callReport (found : Findings) : CallReport where
  profile
  inputHashes
  entry := root.name
  hook := hook.name
  localFrames := (sortedBy (fun entry => [entry.1])
      ((∅ : Dict Str LocalFrame).update found.frames).entries).map fun entry =>
    (entry.1, diagnostic entry.2)
  callGraph := sortedBy (fun entry => [entry.1.caller, entry.1.pc, entry.1.target])
    ((lastByKey id found.edges).map fun edge => (edge, edge.resolution.reported))
  allocatorSymbolsPresent := sortedSet (allocatorPresent tables inputs)
  allocatorSymbolsReachable := sortedSet found.allocatorReachable
  allocatorCandidatesForCalibration := sortedSet (allocatorPresent tables inputs)
  unresolvedIndirectCallsites := sortedBy (fun site => [site.caller, site.pc])
    (lastByKey (fun site => (site.caller, site.pc)) found.indirectSites)
  missingROMBodyRequirements := sortedBy (fun item => [item.caller, item.pc])
    (lastByKey id found.romRequirements)
  unresolved := sortedSet (disclaimerText :: (boundTexts found ++ found.unresolved))

variable (ints : IntTables) (printable : Char → Bool)

/-- The analysis, none while the fuel does not suffice. -/
def analyze (fuel : Nat) : Option (Except Raised CallReport) :=
  match walk tables ints printable inputs fuel root hook with
  | none => none
  | some (.error .fuel) => none
  | some (.error (.raised raised)) => some (.error raised)
  | some (.ok state) => some (.ok (callReport tables inputs root hook profile inputHashes state.found))

end Report

end AxolotyEmbedded.FirstInit
