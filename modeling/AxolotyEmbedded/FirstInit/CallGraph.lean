import AxolotyEmbedded.FirstInit.Frame

/-!
`call_sites` and what `analyze` finds at one of them: the functions that are called there,
and the edges, requirements and unresolved texts of the report.
-/
namespace AxolotyEmbedded.FirstInit

open PythonText PythonInt Checked

/-! ## Call sites -/

inductive EdgeKind where
  | call
  | tailCall
  | tailTransfer
  | outlinedLink
  | callback
  | rom
  deriving DecidableEq

structure CallSite where
  ins : Instruction
  target : Option Nat
  kind : EdgeKind
  deriving DecidableEq

/-- A site that links. With a zero link a known target is a tail call, and an unknown one
stays visible. -/
def linkSite (ins : Instruction) : Option CallSite :=
  if ins.mnemonic ∈ linkJumps ∨ ins.mnemonic = "jalr".toList then
    if ins.linkRegister = "zero".toList then
      some ⟨ins, ins.target, if ins.target.isSome then .tailCall else .tailTransfer⟩
    else some ⟨ins, ins.target, if ins.linkRegister = "ra".toList then .call else .outlinedLink⟩
  else none

/-- A jump out of the function. -/
def jumpSite (fn : Function) (ins : Instruction) : Option CallSite :=
  match ins.target with
  | none => none
  | some target =>
      if ins.mnemonic ∈ uncondJumps ∧ ¬(fn.start ≤ target ∧ target < fn.stop) then
        some ⟨ins, some target, .tailCall⟩
      else none

def callSites (fn : Function) : List CallSite :=
  fn.instructions.filterMap linkSite ++ fn.instructions.filterMap (jumpSite fn)

/-- `re.search(r"<([^>]+)>", operands)`. -/
def angledName : Str → Option Str
  | [] => none
  | c :: rest =>
      let inside := rest.takeWhile fun c => c ≠ '>'
      if c = '<' ∧ inside ≠ [] ∧ '>' ∈ rest then some inside else angledName rest

/-! ## Names of allocators -/

/-- A letter of the pattern, whose `s` is also the long one when case is ignored. -/
def sameLetter (letter c : Char) : Bool := c.toLower == letter || (letter == 's' && c == 'ſ')

/-- What follows a word at the start of a text. -/
def afterWord : Str → Str → Option Str
  | [], text => some text
  | _ :: _, [] => none
  | letter :: word, c :: text => if sameLetter letter c then afterWord word text else none

/-- `(?:$|_)`. -/
def partEnds (rest : Str) : Bool := rest = [] ∨ rest = ['\n'] ∨ rest.head? = some '_'

/-- `\w+(?:$|_)`. -/
def wordsEnd (tables : UnicodeTables) (rest : Str) : Bool :=
  (List.range rest.length).any fun last =>
    (rest.take (last + 1)).all tables.isWord && partEnds (rest.drop (last + 1))

/-- `(?:malloc|calloc|realloc|free|heap_caps_\w+)(?:$|_)`. -/
def allocatorPart (tables : UnicodeTables) (text : Str) : Bool :=
  (["malloc", "calloc", "realloc", "free"].any fun word =>
      ((afterWord word.toList text).map partEnds).getD false) ||
    ((afterWord "heap_caps_".toList text).map (wordsEnd tables)).getD false

/-- The search of the pattern after `(?:^|_)`. -/
def isAllocator (tables : UnicodeTables) (name : Str) : Bool :=
  allocatorPart tables name || name.tails.any fun text =>
    text.head? = some '_' && allocatorPart tables text.tail

/-! ## The report's parts -/

inductive Resolution where
  | exact
  | contract
  | missingBody
  | unresolved
  deriving DecidableEq

structure CallEdge where
  caller : Str
  pc : Str
  kind : EdgeKind
  target : Str
  resolution : Resolution
  deriving DecidableEq

/-- The identity of the allocator is unknown at each of them. -/
structure IndirectSite where
  caller : Str
  pc : Str
  instruction : Str
  deriving DecidableEq

structure RomRequirement where
  caller : Str
  pc : Str
  address : Str
  symbol : Str
  deriving DecidableEq

/-- A frame is analyzed, or a digest-bound contract states it. -/
inductive LocalFrame where
  | analyzed (report : FrameReport)
  | romContract (stackBytes : Int)

def LocalFrame.frameBytes : LocalFrame → Option Int
  | analyzed report => report.frameBytes
  | romContract stackBytes => some stackBytes

/-- A record of the contracts for the ROM, whose entries are optional. -/
structure RomContract where
  name : Option Str
  complete : Bool
  stackBytes : Option Int

/-- A function to visit, the names of its callers in order, the callbacks that the last of
them passes, and whether it is called through another link register. -/
structure WalkItem where
  fn : Function
  ancestors : List Str
  context : List Str
  linkregReturn : Bool

/-- What is added to the variables of the walk, in order. -/
structure Findings where
  unresolved : List Str := []
  frames : List (Str × LocalFrame) := []
  edges : List CallEdge := []
  allocatorReachable : List Str := []
  indirectSites : List IndirectSite := []
  romRequirements : List RomRequirement := []
  todo : List WalkItem := []

def Findings.append (first second : Findings) : Findings where
  unresolved := first.unresolved ++ second.unresolved
  frames := first.frames ++ second.frames
  edges := first.edges ++ second.edges
  allocatorReachable := first.allocatorReachable ++ second.allocatorReachable
  indirectSites := first.indirectSites ++ second.indirectSites
  romRequirements := first.romRequirements ++ second.romRequirements
  todo := first.todo ++ second.todo

instance : Append Findings := ⟨Findings.append⟩

def Findings.join (parts : List Findings) : Findings := parts.foldr (· ++ ·) {}

/-! ## One call site -/

/-- The dictionaries that the walk reads. -/
structure CallInputs where
  byAddr : Dict Nat Function
  byName : Dict Str Function
  callbacks : Dict Str (List Str)
  rom : Dict Nat RomContract

def pcText (address : Nat) : Str := "0x".toList ++ hexText address

/-- `call_key`, which is `edge_owner` too. -/
def callKey (fn : Function) (ins : Instruction) : Str :=
  fn.name ++ "@".toList ++ pcText ins.address

section Site

variable (inputs : CallInputs) (fn : Function) (context : List Str) (site : CallSite)

def callbackNames : List Str :=
  if site.target = none ∧ context ≠ [] then context
  else (inputs.callbacks.get? (callKey fn site.ins)).getD []

def candidates (name : Str) : List Function :=
  match inputs.byName.get? name with
  | some candidate => [candidate]
  | none => (inputs.byAddr.entries.map Prod.snd).filter fun candidate => candidate.name = name

/-- The function at the target of a site. -/
def directTarget : Option Function := site.target.bind inputs.byAddr.get?

/-- `targets`: the function at the target, then those that the site calls back. -/
def siteTargets : List (Function × EdgeKind) :=
  if site.target.isSome ∧ directTarget inputs site = none then []
  else
    (directTarget inputs site).toList.map (fun callee => (callee, site.kind)) ++
      (callbackNames inputs fn context site).flatMap fun name =>
        (candidates inputs name).map fun candidate => (candidate, EdgeKind.callback)

/-- The callbacks that a callee is called with. -/
def calleeContext (callee : Function) : List Str :=
  if "swift_once".toList <:+: callee.name then callbackNames inputs fn context site else []

def edge (kind : EdgeKind) (target : Str) (resolution : Resolution) : CallEdge :=
  ⟨fn.name, pcText site.ins.address, kind, target, resolution⟩

def requirement (target : Nat) (symbol : Str) : RomRequirement :=
  ⟨fn.name, pcText site.ins.address, pcText target, symbol⟩

def siteText (text : Str) : Str := callKey fn site.ins ++ ": ".toList ++ text

/-- A linked function without instructions. -/
def bodyFindings (target : Nat) (callee : Function) : Findings :=
  if callee.instructions = [] then
    { romRequirements := [requirement fn site target callee.name]
      unresolved := [siteText fn site
        ("linked symbol ".toList ++ callee.name ++ " has no body at ".toList ++ pcText target)] }
  else {}

def romFindings (target : Nat) (contract : RomContract) : Findings :=
  let found : Findings :=
    { edges := [edge fn site .rom (contract.name.getD (pcText target)) .contract] }
  match contract.complete, contract.stackBytes with
  | true, some stackBytes =>
      { found with
        frames := [(contract.name.getD ("ROM@".toList ++ pcText target), .romContract stackBytes)] }
  | _, _ =>
      { found with
        unresolved := [siteText fn site
          ("incomplete ROM body contract at ".toList ++ pcText target)] }

/-- The bodies below the RAM are those of the ROM. -/
def missingFindings (target : Nat) : Findings where
  edges := [edge fn site site.kind ((angledName site.ins.operands).getD (pcText target)) .missingBody]
  unresolved := [siteText fn site
    ("linked body/ROM contract missing for target ".toList ++ pcText target)]
  romRequirements :=
    if target < 0x40800000 then
      [requirement fn site target ((angledName site.ins.operands).getD "unknown".toList)]
    else []

def indirectFindings : Findings where
  unresolved := [siteText fn site "unresolved indirect call target".toList]
  edges :=
    if site.kind = .tailTransfer ∨ site.kind = .tailCall then
      [edge fn site site.kind "unknown".toList .unresolved]
    else []
  indirectSites := [⟨fn.name, pcText site.ins.address, site.ins.text⟩]

def callbackFindings : Findings where
  unresolved := ((callbackNames inputs fn context site).filter fun name =>
    candidates inputs name = []).map fun name =>
      siteText fn site ("callback body missing for ".toList ++ name)

variable (tables : UnicodeTables) (ancestors : List Str)

/-- The item for one target of a site. -/
def calledItem (target : Function × EdgeKind) : WalkItem where
  fn := target.1
  ancestors := ancestors ++ [fn.name]
  context := calleeContext inputs fn context site target.1
  linkregReturn := site.kind = .outlinedLink

def targetFindings (target : Function × EdgeKind) : Findings where
  edges := [edge fn site target.2 target.1.name .exact]
  allocatorReachable := if isAllocator tables target.1.name then [target.1.name] else []
  todo := [calledItem inputs fn context site ancestors target]

def calledFindings : Findings :=
  callbackFindings inputs fn context site ++
    Findings.join ((siteTargets inputs fn context site).map
      (targetFindings inputs fn context site tables ancestors))

def siteFindings : Findings :=
  match site.target with
  | some target =>
      match inputs.byAddr.get? target with
      | some callee =>
          bodyFindings fn site target callee ++
            calledFindings inputs fn context site tables ancestors
      | none =>
          match inputs.rom.get? target with
          | some contract => romFindings fn site target contract
          | none => missingFindings fn site target
  | none =>
      if callbackNames inputs fn context site = [] then indirectFindings fn site
      else calledFindings inputs fn context site tables ancestors

end Site

/-! ## The graph of the calls -/

/-- A function and the callbacks that it is called with call the targets of its sites. -/
inductive Calls (inputs : CallInputs) : Function × List Str → Function × List Str → Prop where
  | site {fn callee : Function} {context : List Str} {site : CallSite} {kind : EdgeKind}
      (member : site ∈ callSites fn) (target : (callee, kind) ∈ siteTargets inputs fn context site) :
      Calls inputs (fn, context) (callee, calleeContext inputs fn context site callee)

end AxolotyEmbedded.FirstInit
