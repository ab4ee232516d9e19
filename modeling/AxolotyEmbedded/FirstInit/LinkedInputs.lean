import AxolotyEmbedded.FirstInit.Program
import AxolotyEmbedded.Library.PythonInt

/-!
`validate_linked_inputs`: the symbol listing, the functions and their decoded instructions
against the symbols and the executable bytes of the image.
-/
namespace AxolotyEmbedded.FirstInit

open PythonText PythonInt Checked
open LinkedStorage (slice number)

/-- What the functions over the texts raise: an error of the readers or one of Python's own. -/
inductive Raised where
  | proof (error : ProofError)
  | overflowError
  | valueError
  | indexError
  deriving DecidableEq

/-- `InputBindingError`. -/
def Raised.binding (text : Str) : Raised := .proof (.inputBinding text)

/-- A result of Python's own that may be missing. -/
def orRaise {α : Type} (raised : Raised) : Option α → Except Raised α
  | none => .error raised
  | some a => .ok a

/-! ## The tables of the image -/

/-- `by_name`. -/
def elfRanges (rows : List SymbolRow) : Dict Str (List (Nat × Nat)) :=
  (Dict.groupBy SymbolRow.name rows).mapValues fun named =>
    named.map fun row => (row.address, row.size)

/-- The largest size at each address of some rows. -/
def largestSizes (rows : List SymbolRow) : Dict Nat Nat :=
  rows.foldl (fun extents row => extents.put row.address fun old => max (old.getD 0) row.size) ∅

/-- `elf_extents`, of the in-image function symbols. -/
def elfExtents (rows : List SymbolRow) (executable : List Executable) : Dict Nat Nat :=
  largestSizes (selected rows executable)

/-! ## The checks -/

/-- A line of the listing is one of the image. -/
def checkSymbol (rows : List SymbolRow) (line : SymbolLine) : Except Raised Unit :=
  refuseIf ((line.address, line.size) ∉ ((elfRanges rows).get? line.name).getD [])
    (.binding ("symbol listing does not match ELF: ".toList ++ line.name ++ " (".toList ++
      line.kind :: ")".toList))

variable (ints : IntTables) (executable : List Executable)

/-- The executable sections that hold all bytes of an instruction. -/
def matching (ins : Instruction) (size : Nat) : List Executable :=
  executable.filter fun item => item.start ≤ ins.address ∧ ins.address + size ≤ item.stop

/-- The encoding of an instruction is that of the bytes at its address. -/
def checkEncoding (ins : Instruction) : Except Raised Unit :=
  match ins.encoding with
  | none => .error (.binding ("missing instruction encoding at 0x".toList ++ hexText ins.address))
  | some encoding =>
      let size := encoding.length / 2
      match matching executable ins size with
      | [item] => do
          let raw := slice item.bytes (ins.address - item.start) size
          let value ← orRaise .valueError (toInt ints 16 encoding)
          let expected ← orRaise .overflowError (toBytes size value)
          refuseIf (raw ≠ expected)
            (.binding ("disassembly encoding mismatch at 0x".toList ++ hexText ins.address))
      | _ =>
          .error (.binding ("instruction address 0x".toList ++ hexText ins.address ++
            " is not uniquely inside executable ELF bytes".toList))

/-- The loop over the instructions, after those at the addresses `pcs`. -/
def checkInstructions (fn : Function) (pcs : List Nat) : List Instruction → Except Raised Unit
  | [] => .ok ()
  | ins :: rest => do
      refuseIf (ins.address ∈ pcs)
        (.binding ("duplicate instruction address 0x".toList ++ hexText ins.address ++
          " in ".toList ++ fn.name))
      checkEncoding ints executable ins
      checkInstructions fn (ins.address :: pcs) rest

/-- The loop over the sorted instructions, which leaves no byte of the function out. -/
def checkCover (fn : Function) (cursor : Nat) : List Instruction → Except Raised Unit
  | [] =>
      refuseIf (cursor ≠ fn.stop)
        (.binding ("disassembly leaves trailing function bytes uncovered at 0x".toList ++
          hexText cursor ++ " in ".toList ++ fn.name))
  | ins :: rest => do
      refuseIf (ins.address ≠ cursor)
        (.binding ("disassembly leaves function bytes uncovered at 0x".toList ++ hexText cursor ++
          " in ".toList ++ fn.name))
      checkCover fn (cursor + ins.size) rest

/-- `kind.upper() in {"T", "W"}`. -/
def isFunctionKind (kind : Char) : Bool := kind ∈ ['T', 't', 'W', 'w']

def checkFunction (rows : List SymbolRow) (fn : Function) : Except Raised Unit :=
  match (elfExtents rows executable).get? fn.start with
  | none =>
      refuseIf ((fn.symbolKinds.entries.map Prod.snd).any isFunctionKind = true)
        (.binding ("symbol listing claims a function without ELF STT_FUNC metadata at 0x".toList ++
          hexText fn.start))
  | some extent => do
      refuseIf (extent ≠ fn.size)
        (.binding ("analyzed function extent does not match the largest ELF symbol range at 0x".toList
          ++ hexText fn.start))
      checkInstructions ints executable fn [] fn.instructions
      checkCover fn fn.start (sortedByAddress fn.instructions)

def validateLinkedInputs (tables : UnicodeTables) (elfData : List UInt8) (symbolText : Str)
    (functions : Dict Nat Function) : Except Raised Unit := do
  let (rows, executable) ← (elf32RiscvImage elfData).mapError .proof
  checkAll (checkSymbol rows) ((splitLines symbolText).filterMap (symbolLine tables))
  checkAll (checkFunction ints executable rows) (functions.entries.map Prod.snd)

/-! ## What the checks establish -/

/-- The instructions fill the addresses from `start` up to `stop`, each of them beginning
where the one before it ends. -/
inductive Tiles (stop : Nat) : Nat → List Instruction → Prop where
  | done : Tiles stop stop []
  | next {start : Nat} {ins : Instruction} {rest : List Instruction} (here : ins.address = start)
      (later : Tiles stop (start + ins.size) rest) : Tiles stop start (ins :: rest)

/-- The encoding of an instruction is the little-endian number of its bytes, which lie in
one executable section. -/
structure InBytes (ins : Instruction) (encoding : Str) (item : Executable) : Prop where
  encoded : ins.encoding = some encoding
  alone : matching executable ins (encoding.length / 2) = [item]
  value : toInt ints 16 encoding =
    some (number true (slice item.bytes (ins.address - item.start) (encoding.length / 2)))
  whole : (slice item.bytes (ins.address - item.start) (encoding.length / 2)).length =
    encoding.length / 2

/-- The largest size of the in-image function symbols at one address. -/
structure IsExtent (rows : List SymbolRow) (address size : Nat) : Prop where
  attained : ∃ row ∈ selected rows executable, row.address = address ∧ row.size = size
  largest : ∀ row ∈ selected rows executable, row.address = address → row.size ≤ size

/-- A function bound to the bytes of the image. -/
structure ByteBound (rows : List SymbolRow) (fn : Function) : Prop where
  extent : IsExtent executable rows fn.start fn.size
  distinct : (fn.instructions.map Instruction.address).Nodup
  tiles : Tiles fn.stop fn.start (sortedByAddress fn.instructions)
  bytes : ∀ ins ∈ fn.instructions, ∃ encoding item, InBytes ints executable ins encoding item

variable {ints executable} {rows : List SymbolRow} {fn : Function} {ins : Instruction}

theorem mem_elfRanges {line : SymbolLine} :
    (line.address, line.size) ∈ ((elfRanges rows).get? line.name).getD [] ↔
      ∃ row ∈ rows, row.name = line.name ∧ row.address = line.address ∧ row.size = line.size := by
  rw [elfRanges, Dict.get?_mapValues, Dict.get?_groupBy]
  split
  · simp only [Option.map_some, Option.getD_some, List.mem_map, List.mem_filter,
      decide_eq_true_eq, Prod.mk.injEq, and_assoc]
  · next absent =>
      simp only [Option.map_none, Option.getD_none, List.not_mem_nil, false_iff]
      rintro ⟨row, held, named, -⟩
      exact absent (named ▸ List.mem_map_of_mem held)

theorem get?_largestSizes_append (chosen : List SymbolRow) (last : SymbolRow) (address : Nat) :
    (largestSizes (chosen ++ [last])).get? address =
      if address = last.address then
        some (max (((largestSizes chosen).get? last.address).getD 0) last.size)
      else (largestSizes chosen).get? address := by
  rw [largestSizes, List.foldl_append, List.foldl_cons, List.foldl_nil, Dict.get?_put, ← largestSizes]

/-- An address without extent has no in-image function symbol. -/
theorem address_ne_of_largestSizes {chosen : List SymbolRow} {address : Nat}
    (absent : (largestSizes chosen).get? address = none) {row : SymbolRow} (held : row ∈ chosen) :
    row.address ≠ address := by
  induction chosen using List.reverseRecOn with
  | nil => cases held
  | append_singleton chosen last ih =>
      rw [get?_largestSizes_append] at absent
      split at absent
      · cases absent
      · next apart =>
          obtain inside | single := List.mem_append.mp held
          · exact ih absent inside
          · obtain rfl := List.mem_singleton.mp single
            exact fun same => apart same.symm

/-- One more row raises the extent at its address and no other. -/
theorem largest_of_largestSizes {chosen : List SymbolRow} {address size : Nat}
    (found : (largestSizes chosen).get? address = some size) :
    (∃ row ∈ chosen, row.address = address ∧ row.size = size) ∧
      ∀ row ∈ chosen, row.address = address → row.size ≤ size := by
  induction chosen using List.reverseRecOn generalizing size with
  | nil => cases found
  | append_singleton chosen last ih =>
      rw [get?_largestSizes_append] at found
      simp only [List.mem_append, List.mem_singleton]
      split at found
      · next here =>
          obtain rfl := Option.some.inj found
          cases before : (largestSizes chosen).get? address with
          | none =>
              rw [← here, before, Option.getD_none, Nat.zero_max]
              refine ⟨⟨last, .inr rfl, here.symm, rfl⟩, ?_⟩
              rintro row (inside | rfl) same
              · exact absurd same (address_ne_of_largestSizes before inside)
              · exact Nat.le_refl _
          | some old =>
              obtain ⟨⟨row, inside, same, rfl⟩, above⟩ := ih before
              rw [← here, before, Option.getD_some]
              refine ⟨?_, ?_⟩
              · obtain larger | larger := Nat.le_total row.size last.size
                · exact ⟨last, .inr rfl, here.symm, (Nat.max_eq_right larger).symm⟩
                · exact ⟨row, .inl inside, same, (Nat.max_eq_left larger).symm⟩
              · rintro other (held | rfl) at'
                · exact Nat.le_trans (above other held at') (Nat.le_max_left _ _)
                · exact Nat.le_max_right _ _
      · next apart =>
          obtain ⟨⟨row, inside, same⟩, above⟩ := ih found
          refine ⟨⟨row, .inl inside, same⟩, ?_⟩
          rintro other (held | rfl) at'
          · exact above other held at'
          · exact absurd at'.symm apart

theorem cons_number (byte : UInt8) (bytes : List UInt8) :
    number true (byte :: bytes) = number true bytes * 256 + byte.toNat := by
  simp [number]

/-- The bytes of a number are read back as the number. -/
theorem number_of_bytesOf {size value : Nat} {bytes : List UInt8}
    (written : bytesOf size value = some bytes) :
    number true bytes = value ∧ bytes.length = size := by
  induction size generalizing value bytes with
  | zero =>
      rw [bytesOf] at written
      split at written
      · next zero =>
          obtain rfl := Option.some.inj written
          exact ⟨zero.symm, rfl⟩
      · cases written
  | succ size ih =>
      obtain ⟨rest, later, rfl⟩ := Option.map_eq_some_iff.mp written
      obtain ⟨value', length⟩ := ih later
      refine ⟨?_, congrArg (· + 1) length⟩
      rw [cons_number, value', UInt8.toNat_ofNat']
      omega

theorem number_of_toBytes {size : Nat} {value : Int} {bytes : List UInt8}
    (written : toBytes size value = some bytes) :
    value = number true bytes ∧ bytes.length = size := by
  rw [toBytes] at written
  split at written
  · cases written
  · next natural =>
      obtain ⟨same, length⟩ := number_of_bytesOf written
      exact ⟨by omega, length⟩

theorem orRaise_eq_ok {α : Type} {raised : Raised} {value : Option α} {a : α} :
    orRaise raised value = .ok a ↔ value = some a := by
  cases value with
  | none => simp [orRaise]
  | some b => simp [orRaise]

theorem inBytes_of_checkEncoding (passed : checkEncoding ints executable ins = .ok ()) :
    ∃ encoding item, InBytes ints executable ins encoding item := by
  rw [checkEncoding] at passed
  split at passed
  · cases passed
  · next encoding encoded =>
      dsimp only at passed
      split at passed
      · next item alone =>
          simp only [bind_eq_ok, orRaise_eq_ok, refuseIf_eq_ok, not_not] at passed
          obtain ⟨value, read, expected, written, same⟩ := passed
          obtain ⟨rfl, length⟩ := number_of_toBytes written
          exact ⟨encoding, item, encoded, alone, same ▸ read, same ▸ length⟩
      · cases passed

theorem checkInstructions_eq_ok {pcs : List Nat} {instructions : List Instruction} {u : Unit} :
    checkInstructions ints executable fn pcs instructions = .ok u ↔
      (instructions.map Instruction.address).Nodup ∧
        ∀ ins ∈ instructions, ins.address ∉ pcs ∧ checkEncoding ints executable ins = .ok () := by
  induction instructions generalizing pcs with
  | nil => simp [checkInstructions]
  | cons ins rest ih =>
      simp only [checkInstructions, bind_eq_ok, refuseIf_eq_ok, ih, List.map_cons, List.nodup_cons,
        List.mem_map, not_exists, not_and, List.mem_cons, not_or, forall_eq_or_imp,
        exists_and_left, exists_const]
      constructor
      · rintro ⟨fresh, _, encoded, distinct, later⟩
        exact ⟨⟨fun other held same => (later other held).1.1 same, distinct⟩, ⟨fresh, encoded⟩,
          fun other held => ⟨(later other held).1.2, (later other held).2⟩⟩
      · rintro ⟨⟨apart, distinct⟩, ⟨fresh, encoded⟩, later⟩
        exact ⟨fresh, (), encoded, distinct, fun other held =>
          ⟨⟨apart other held, (later other held).1⟩, (later other held).2⟩⟩

theorem checkCover_eq_ok {cursor : Nat} {instructions : List Instruction} {u : Unit} :
    checkCover fn cursor instructions = .ok u ↔ Tiles fn.stop cursor instructions := by
  induction instructions generalizing cursor with
  | nil =>
      rw [checkCover, refuseIf_eq_ok, not_not]
      constructor
      · rintro rfl
        exact .done
      · intro tiles
        cases tiles
        rfl
  | cons ins rest ih =>
      simp only [checkCover, bind_eq_ok, refuseIf_eq_ok, not_not, ih, exists_const]
      constructor
      · rintro ⟨here, later⟩
        exact .next here later
      · intro tiles
        cases tiles with
        | next here later => exact ⟨here, later⟩

theorem byteBound_of_checkFunction (passed : checkFunction ints executable rows fn = .ok ())
    {row : SymbolRow} (known : row ∈ selected rows executable) (here : row.address = fn.start) :
    ByteBound ints executable rows fn := by
  rw [checkFunction] at passed
  split at passed
  · next absent => exact absurd here (address_ne_of_largestSizes absent known)
  · next extent found =>
      simp only [bind_eq_ok, refuseIf_eq_ok, not_not, checkInstructions_eq_ok, checkCover_eq_ok,
        exists_const] at passed
      obtain ⟨rfl, ⟨distinct, encoded⟩, tiles⟩ := passed
      obtain ⟨attained, largest⟩ := largest_of_largestSizes found
      exact ⟨⟨attained, largest⟩, distinct, tiles, fun ins held =>
        inBytes_of_checkEncoding (encoded ins held).2⟩

/-- On all inputs that `validate_linked_inputs` accepts, the functions of the table that the
image knows are bound to its bytes, and each line of the listing is a symbol of the image. -/
theorem byteBound_of_validateLinkedInputs (tables : UnicodeTables) (ints : IntTables)
    (elfData : List UInt8) (symbolText : Str) (functions : Dict Nat Function)
    (accepted : validateLinkedInputs ints tables elfData symbolText functions = .ok ()) :
    ∃ rows executable, elf32RiscvImage elfData = .ok (rows, executable) ∧
      (∀ fn ∈ functions.entries.map Prod.snd,
        (∃ row ∈ selected rows executable, row.address = fn.start) →
          ByteBound ints executable rows fn) ∧
      ∀ line ∈ (splitLines symbolText).filterMap (symbolLine tables),
        ∃ row ∈ rows, row.name = line.name ∧ row.address = line.address ∧ row.size = line.size := by
  rw [validateLinkedInputs] at accepted
  cases read : elf32RiscvImage elfData with
  | error error =>
      rw [read] at accepted
      cases accepted
  | ok image =>
      obtain ⟨rows, executable⟩ := image
      rw [read] at accepted
      obtain ⟨image, same, rest⟩ := bind_eq_ok.mp accepted
      obtain rfl := Except.ok.inj same
      obtain ⟨_, listed, checked⟩ := bind_eq_ok.mp rest
      refine ⟨rows, executable, rfl, ?_, ?_⟩
      · rintro fn held ⟨row, known, here⟩
        exact byteBound_of_checkFunction (checkAll_eq_ok.mp checked fn held) known here
      · intro line held
        have passed := checkAll_eq_ok.mp listed line held
        rw [checkSymbol, refuseIf_eq_ok, not_not] at passed
        exact mem_elfRanges.mp passed

/-- Two names of one function, a push of the stack pointer before a return. -/
def startImage : List UInt8 :=
  codeImage 0x42000028 [0x41, 0x11, 0x67, 0x80, 0, 0] [(1, 0x42000028, 6), (6, 0x42000028, 2)]
    (0 :: "main".toList.map (fun c => UInt8.ofNat c.toNat) ++ 0 ::
      "start".toList.map (fun c => UInt8.ofNat c.toNat) ++ [0])

def startListing : Str := "42000028 00000006 T main\n42000028 00000002 T start\n".toList

def startFunctions : Dict Nat Function :=
  parseDisassembly asciiTables
    "42000028: 1141 addi sp,sp,-16\n4200002a: 00008067 ret\n".toList
    (parseSymbols asciiTables startListing).1

/-- A function of two instructions of different sizes, with a shorter alias. -/
theorem byteBound_of_validateLinkedInputs_start :
    ∃ rows executable fn, elf32RiscvImage startImage = .ok (rows, executable) ∧
      fn ∈ startFunctions.entries.map Prod.snd ∧
        fn.instructions.map Instruction.size = [2, 4] ∧
        (selected rows executable).map SymbolRow.size = [6, 2] ∧
        ByteBound ⟨fun _ => none, 4300⟩ executable rows fn := by
  have accepted : validateLinkedInputs ⟨fun _ => none, 4300⟩ asciiTables startImage startListing
      startFunctions = .ok () := by
    apply toOption_eq_some.mp
    decide +kernel
  have shape : startFunctions.entries.map (fun entry =>
      (entry.2.start, entry.2.instructions.map Instruction.size)) = [(0x42000028, [2, 4])] := by
    decide +kernel
  have known : (elf32RiscvImage startImage).toOption.map (fun image =>
      (selected image.1 image.2).map fun row => (row.address, row.size)) =
        some [(0x42000028, 6), (0x42000028, 2)] := by decide +kernel
  obtain ⟨rows, executable, read, bound, -⟩ :=
    byteBound_of_validateLinkedInputs asciiTables _ startImage startListing startFunctions accepted
  obtain ⟨entry, held, same⟩ := List.mem_map.mp (shape ▸ List.mem_singleton_self (_, _))
  obtain ⟨start, sizes⟩ := Prod.mk.inj same
  rw [read] at known
  have aliases := Option.some.inj known
  obtain ⟨row, listed, named⟩ := List.mem_map.mp (aliases ▸ List.mem_cons_self)
  have member : entry.2 ∈ startFunctions.entries.map Prod.snd := List.mem_map_of_mem held
  have extents : (selected rows executable).map SymbolRow.size = [6, 2] := by
    have second := congrArg (List.map Prod.snd) aliases
    rw [List.map_map] at second
    exact second
  exact ⟨rows, executable, entry.2, read, member, sizes, extents,
    bound entry.2 member ⟨row, listed, (congrArg Prod.fst named).trans start.symm⟩⟩

end AxolotyEmbedded.FirstInit
