import Mathlib.Data.List.DropRight
import Mathlib.Data.List.Sort
import AxolotyEmbedded.Library.Dict
import AxolotyEmbedded.Library.PythonText

/-!
`parse_symbols` and `parse_disassembly`: the functions of a symbol listing and the decoded
lines that their extents cover. The patterns are read character by character. A repeated
part takes as much as it can, which is the only way to match wherever the part after it
starts with another kind of character.
-/
namespace AxolotyEmbedded.FirstInit

open PythonText

/-- What `\w` and `lower` do past ASCII. -/
structure UnicodeTables where
  wordBeyondAscii : Char → Bool
  lowerBeyondAscii : Str → Str

/-- `\w`. -/
def UnicodeTables.isWord (tables : UnicodeTables) (c : Char) : Bool :=
  if c.toNat < 0x80 then c.isAlphanum || c == '_' else tables.wordBeyondAscii c

def UnicodeTables.lower (tables : UnicodeTables) (text : Str) : Str :=
  if text.all fun c => c.toNat < 0x80 then text.map Char.toLower
  else tables.lowerBeyondAscii text

/-- Of the characters past ASCII none is a letter. -/
def asciiTables : UnicodeTables := ⟨fun _ => false, fun text => text⟩

structure Instruction where
  address : Nat
  mnemonic : Str
  operands : Str
  target : Option Nat
  text : Str
  size : Nat
  encoding : Option Str
  deriving DecidableEq

structure Function where
  name : Str
  start : Nat
  size : Nat
  instructions : List Instruction
  symbolSizes : Dict Str Nat
  symbolKinds : Dict Str Char

/-- `end` is a keyword. -/
def Function.stop (fn : Function) : Nat := fn.start + fn.size

/-! ## Parts of the patterns -/

/-- `\s+`. -/
def blanks : Str → Option Str
  | [] => none
  | c :: rest => if isSpace c then some (rest.dropWhile isSpace) else none

/-- `([0-9a-fA-F]+)`. -/
def hexRun (text : Str) : Option (Str × Str) :=
  if text.takeWhile isHex = [] then none
  else some (text.takeWhile isHex, text.dropWhile isHex)

def expect (c : Char) : Str → Option Str
  | [] => none
  | first :: rest => if first = c then some rest else none

/-! ## The symbol listing -/

/-- One match of `SYM`. -/
structure SymbolLine where
  address : Nat
  size : Nat
  kind : Char
  name : Str
  deriving DecidableEq

/-- `\s+(.+?)\s*$`: of blanks only, the last one is the name. -/
def lastField (rest : Str) : Option Str := do
  let name ← blanks rest
  if name = [] then
    if 2 ≤ rest.length then rest.getLast?.map fun c => [c] else none
  else some (name.rdropWhile isSpace)

variable (tables : UnicodeTables)

/-- `(\w)` and what follows it. -/
def wordChar : Str → Option (Char × Str)
  | [] => none
  | c :: rest => if tables.isWord c then some (c, rest) else none

/-- `SYM.match(line)`. -/
def symbolLine (line : Str) : Option SymbolLine := do
  let (address, rest) ← hexRun (line.dropWhile isSpace)
  let (size, rest) ← hexRun (← blanks rest)
  let (kind, rest) ← wordChar tables (← blanks rest)
  let name ← lastField rest
  some ⟨hexValue address, hexValue size, kind, name⟩

/-- The lines that `parse_symbols` keeps. -/
def symbolLines (text : Str) : List SymbolLine :=
  ((splitLines text).filterMap (symbolLine tables)).filter fun line => line.size ≠ 0

def maxSize (aliases : List SymbolLine) : Nat :=
  aliases.foldr (fun line largest => max line.size largest) 0

/-- The distinct names of the largest extent, sorted. -/
def maxNames (aliases : List SymbolLine) : List Str :=
  ((aliases.filter fun line => line.size = maxSize aliases).map SymbolLine.name).dedup.insertionSort
    fun first second => strLe first second

/-- The function of all symbols at one address. -/
def aliasedFunction (address : Nat) (aliases : List SymbolLine) : Function where
  name := " | ".toList.intercalate (maxNames aliases)
  start := address
  size := maxSize aliases
  instructions := []
  symbolSizes := (∅ : Dict Str Nat).update (aliases.map fun line => (line.name, line.size))
  symbolKinds := (∅ : Dict Str Char).update (aliases.map fun line => (line.name, line.kind))

/-- `groups`. -/
def symbolGroups (lines : List SymbolLine) : Dict Nat (List SymbolLine) :=
  Dict.groupBy SymbolLine.address lines

/-- `by_addr`. -/
def functionsByAddress (lines : List SymbolLine) : Dict Nat Function where
  entries := (symbolGroups lines).entries.map fun group => (group.1, aliasedFunction group.1 group.2)
  distinct := by
    simpa only [List.map_map, Function.comp_def] using (symbolGroups lines).distinct

/-- `by_name`: a later group takes the names of the earlier ones. -/
def functionsByName (lines : List SymbolLine) : Dict Str Function :=
  (∅ : Dict Str Function).update ((symbolGroups lines).entries.flatMap fun group =>
    (group.2.map SymbolLine.name).map fun name => (name, aliasedFunction group.1 group.2))

def parseSymbols (text : Str) : Dict Nat Function × Dict Str Function :=
  (functionsByAddress (symbolLines tables text), functionsByName (symbolLines tables text))

/-! ## The disassembly -/

/-- `(?:0x)?([0-9a-fA-F]+)`. -/
def hexNumber (text : Str) : Option (Str × Str) :=
  ((expect '0' text >>= expect 'x') >>= hexRun) <|> hexRun text

/-- `(?:0x)?([0-9a-fA-F]+)\s*<`. -/
def labelledNumber (text : Str) : Option Str := do
  let (digits, rest) ← hexNumber text
  let _ ← expect '<' (rest.dropWhile isSpace)
  some digits

/-- `pattern.search(text)` of a pattern that starts with a character and blanks. -/
def search (c : Char) (pattern : Str → Option Str) (text : Str) : Option Str :=
  text.tails.findSome? fun tail => (expect c tail).bind fun rest => pattern (rest.dropWhile isSpace)

/-- The address that the operands give, in the order of the three patterns. -/
def targetDigits (mnemonic operands : Str) : Option Str :=
  search '#' (fun text => (hexNumber text).map Prod.fst) operands <|>
    search ',' labelledNumber operands <|>
      if mnemonic ∈ ["j".toList, "c.j".toList, "jal".toList, "c.jal".toList] then
        labelledNumber (operands.dropWhile isSpace)
      else none

/-- `([.\w]+)(?:\s+(.*?))?\s*$`. -/
def mnemonicAndOperands (text : Str) : Option (Str × Str) :=
  let inMnemonic := fun c => c == '.' || tables.isWord c
  let mnemonic := text.takeWhile inMnemonic
  let rest := text.dropWhile inMnemonic
  if mnemonic = [] then none
  else if rest = [] then some (mnemonic, [])
  else (blanks rest).map fun operands => (mnemonic, operands.rdropWhile isSpace)

/-- `(?:([0-9a-fA-F]{4,8})\s+)?` and the parts after it; the pattern does without the
encoding where it cannot match with one. -/
def encodingAndRest (text : Str) : Option (Option Str × Str × Str) :=
  (do
    let (digits, rest) ← hexRun text
    let parts ← if 4 ≤ digits.length ∧ digits.length ≤ 8 then
      (blanks rest).bind (mnemonicAndOperands tables) else none
    some (some digits, parts)) <|>
  (mnemonicAndOperands tables text).map fun parts => (none, parts)

/-- The instruction of one match of `INS`. -/
def instructionLine (line : Str) : Option Instruction := do
  let (address, rest) ← hexRun (line.dropWhile isSpace)
  let rest ← expect ':' rest
  let (encoding, mnemonic, operands) ← encodingAndRest tables (← blanks rest)
  let mnemonicLower := tables.lower mnemonic
  some
    { address := hexValue address, mnemonic := mnemonicLower, operands,
      target := (targetDigits mnemonicLower operands).map hexValue, text := strip line,
      size := (encoding.map fun digits => digits.length / 2).getD 4, encoding }

def decoded (text : Str) : List Instruction :=
  (splitLines text).filterMap (instructionLine tables)

/-- The state of the sweep over the extents: the functions still to come, the `active`
ones, and the heap of their ends with the least one first. -/
structure Sweep where
  pending : List Function
  active : List Function
  endings : List (Nat × Nat)

def pushEnding (endings : List (Nat × Nat)) (fn : Function) : List (Nat × Nat) :=
  endings.orderedInsert (fun first second =>
    first.1 < second.1 ∨ (first.1 = second.1 ∧ first.2 ≤ second.2)) (fn.stop, fn.start)

/-- The functions that begin up to an address become active, and those that end there are
active no more. -/
def Sweep.advance (sweep : Sweep) (address : Nat) : Sweep :=
  let begun := sweep.pending.takeWhile fun fn => fn.start ≤ address
  let endings := begun.foldl pushEnding sweep.endings
  let ended := (endings.takeWhile fun ending => ending.1 ≤ address).map Prod.snd
  { pending := sweep.pending.dropWhile fun fn => fn.start ≤ address
    active := (sweep.active ++ begun).filter fun fn => fn.start ∉ ended
    endings := endings.dropWhile fun ending => ending.1 ≤ address }

/-- The instructions appended by the sweep, each with the start of its function. -/
def Sweep.run : Sweep → List Instruction → List (Nat × Instruction)
  | _, [] => []
  | sweep, instruction :: rest =>
      let sweep := sweep.advance instruction.address
      (sweep.active.filter fun fn => instruction.address < fn.stop).map
          (fun fn => (fn.start, instruction)) ++
        sweep.run rest

def sortedByAddress (instructions : List Instruction) : List Instruction :=
  instructions.insertionSort fun first second => first.address ≤ second.address

/-- What the sweep appends for all functions of a table. -/
def covered (text : Str) (byAddress : Dict Nat Function) : List (Nat × Instruction) :=
  let functions := (byAddress.entries.map Prod.snd).insertionSort fun first second =>
    first.start < second.start ∨ (first.start = second.start ∧ first.stop ≤ second.stop)
  Sweep.run ⟨functions, [], []⟩ (sortedByAddress (decoded tables text))

/-- `parse_disassembly` fills the instructions of each function; the functions of `by_name`
are those of `by_addr` and are filled with them. -/
def parseDisassembly (text : Str) (byAddress : Dict Nat Function) : Dict Nat Function :=
  let appended := covered tables text byAddress
  byAddress.mapValues fun fn =>
    { fn with
      instructions := sortedByAddress (fn.instructions ++
        (appended.filter fun entry => entry.1 = fn.start).map Prod.snd) }

def shareInstructions (byAddress : Dict Nat Function) (byName : Dict Str Function) :
    Dict Str Function :=
  byName.mapValues fun fn =>
    match byAddress.get? fn.start with
    | none => fn
    | some canonical => { fn with instructions := canonical.instructions }

end AxolotyEmbedded.FirstInit
