import AxolotyEmbedded.FirstInit.CallbackArgument
import AxolotyEmbedded.FirstInit.FrameRaises
import AxolotyEmbedded.FirstInit.ImageReads

/-!
The functions over a symbol listing, a disassembly and an image in sequence: which
exceptions besides an `InputBindingError` leave them, and at which lines.
-/
namespace AxolotyEmbedded.FirstInit

open PythonText PythonInt Checked
open LinkedStorage (slice)

/-- A result or an `InputBindingError`. -/
def Settles {α : Type} (result : Except Raised α) : Prop :=
  ∀ raised, result = .error raised → ∃ text, raised = .binding text

variable (tables : UnicodeTables) (ints : IntTables) (printable : Char → Bool)
  (elfData : List UInt8) (symbolText disassembly : Str)

/-- The functions of the listing with their instructions. -/
def linkedFunctions : Dict Nat Function :=
  parseDisassembly tables disassembly (parseSymbols tables symbolText).1

/-- Whether the image binds the texts. -/
def validated : Except Raised Unit :=
  validateLinkedInputs ints tables elfData symbolText
    (linkedFunctions tables symbolText disassembly)

/-- No other exception leaves the pipeline, and it ends. -/
structure NoTraceback : Prop where
  validation : Settles (validated tables ints elfData symbolText disassembly)
  argument : validated tables ints elfData symbolText disassembly = .ok () →
    ∀ fn ∈ (linkedFunctions tables symbolText disassembly).entries.map Prod.snd,
      ∀ callPc register, Settles (callbackArgumentValue ints fn callPc register)
  frame : validated tables ints elfData symbolText disassembly = .ok () →
    ∀ fn ∈ (linkedFunctions tables symbolText disassembly).entries.map Prod.snd,
      ∀ linkregReturn, (∃ fuel ended, analyzeFrame ints printable fuel fn linkregReturn = some ended) ∧
        ∀ fuel ended, analyzeFrame ints printable fuel fn linkregReturn = some ended → Settles ended

/-! ## Encodings that do not fit -/

/-- A number of an odd number of digits with a first one, for half as many bytes. -/
structure Oversized (encoding : Str) : Prop where
  odd : encoding.length % 2 = 1
  first : encoding.head? ≠ some '0'

/-- The checks of a function come to an encoding that does not fit. -/
structure Overflows (rows : List SymbolRow) (executable : List Executable) (fn : Function) : Prop where
  extent : (elfExtents rows executable).get? fn.start = some fn.size
  reached : ∃ earlier ins later encoding item, fn.instructions = earlier ++ ins :: later ∧
    checkInstructions ints executable fn [] earlier = .ok () ∧
    ins.address ∉ earlier.map Instruction.address ∧ ins.encoding = some encoding ∧
    matching executable ins (encoding.length / 2) = [item] ∧ Oversized encoding

/-- The validation comes to such a function. -/
def OverflowReached : Prop :=
  ∃ rows executable before fn after, elf32RiscvImage elfData = .ok (rows, executable) ∧
    (∀ line ∈ (splitLines symbolText).filterMap (symbolLine tables),
      checkSymbol rows line = .ok ()) ∧
    (linkedFunctions tables symbolText disassembly).entries.map Prod.snd = before ++ fn :: after ∧
    (∀ other ∈ before, checkFunction ints executable rows other = .ok ()) ∧
    Overflows ints rows executable fn

/-- No step of the pipeline comes to an operand or a number that it does not guard. -/
structure Guarded : Prop where
  fits : ¬OverflowReached tables ints elfData symbolText disassembly
  addends : validated tables ints elfData symbolText disassembly = .ok () →
    ∀ fn ∈ (linkedFunctions tables symbolText disassembly).entries.map Prod.snd,
      ¬BlankReached ints fn
  short : validated tables ints elfData symbolText disassembly = .ok () →
    ∀ fn ∈ (linkedFunctions tables symbolText disassembly).entries.map Prod.snd,
      ∀ linkregReturn, ¬LongReached ints printable fn linkregReturn

/-! ## The lines of the disassembly -/

variable {tables ints elfData symbolText disassembly} {executable : List Executable}
  {rows : List SymbolRow} {fn : Function} {ins : Instruction} {raised : Raised}

/-- The digits of an encoding. -/
def HexEncoded (ins : Instruction) : Prop :=
  ∀ encoding, ins.encoding = some encoding → encoding ≠ [] ∧ ∀ c ∈ encoding, isHex c = true

theorem hexRun_spec {text digits rest : Str} (run : hexRun text = some (digits, rest)) :
    digits ≠ [] ∧ ∀ c ∈ digits, isHex c = true := by
  rw [hexRun] at run
  split at run
  · cases run
  · next some' =>
      obtain ⟨rfl, -⟩ := Prod.ext_iff.mp (Option.some.inj run)
      exact ⟨some', fun c held => List.mem_takeWhile_imp held⟩

theorem hex_of_encodingAndRest {text encoding : Str} {parts : Str × Str}
    (parsed : encodingAndRest tables text = some (some encoding, parts)) :
    encoding ≠ [] ∧ ∀ c ∈ encoding, isHex c = true := by
  rw [encodingAndRest, Option.orElse_eq_orElse, Option.orElse_eq_or, Option.or_eq_some_iff] at parsed
  obtain encoded | ⟨-, plain⟩ := parsed
  · obtain ⟨⟨digits, rest⟩, run, found⟩ := Option.bind_eq_some_iff.mp encoded
    have same : ∃ later : Option (Str × Str),
        (later.bind fun parts => some (some digits, parts)) = some (some encoding, parts) := by
      dsimp only at found
      split at found
      · exact ⟨_, found⟩
      · exact ⟨none, found⟩
    obtain ⟨later, built⟩ := same
    obtain ⟨_, -, pair⟩ := Option.bind_eq_some_iff.mp built
    obtain rfl := Option.some.inj (Prod.ext_iff.mp (Option.some.inj pair)).1
    exact hexRun_spec run
  · obtain ⟨_, -, same⟩ := Option.map_eq_some_iff.mp plain
    cases (Prod.ext_iff.mp same).1

theorem hexEncoded_of_instructionLine {line : Str}
    (parsed : instructionLine tables line = some ins) : HexEncoded ins := by
  intro encoding encoded
  simp only [instructionLine, bind, Option.bind_eq_some_iff] at parsed
  obtain ⟨_, -, _, -, _, -, ⟨found, mnemonic, operands⟩, read, same⟩ := parsed
  obtain rfl := Option.some.inj same
  obtain rfl : found = some encoding := encoded
  exact hex_of_encodingAndRest read

theorem mem_of_mem_run {sweep : Sweep} {instructions : List Instruction} {entry : Nat × Instruction}
    (held : entry ∈ sweep.run instructions) : entry.2 ∈ instructions := by
  induction instructions generalizing sweep with
  | nil => cases held
  | cons first rest ih =>
      rw [Sweep.run] at held
      obtain here | later := List.mem_append.mp held
      · obtain ⟨fn, -, rfl⟩ := List.mem_map.mp here
        exact List.mem_cons_self
      · exact List.mem_cons_of_mem _ (ih later)

/-- Each instruction of a function is a line of the disassembly. -/
theorem hexEncoded_of_linkedFunctions
    (member : fn ∈ (linkedFunctions tables symbolText disassembly).entries.map Prod.snd)
    (held : ins ∈ fn.instructions) : HexEncoded ins := by
  obtain ⟨entry, listed, rfl⟩ := List.mem_map.mp member
  obtain ⟨⟨address, bare⟩, parsed, rfl⟩ := List.mem_map.mp listed
  obtain ⟨group, -, same⟩ := List.mem_map.mp parsed
  obtain ⟨-, rfl⟩ := Prod.ext_iff.mp same
  simp only [sortedByAddress, List.mem_insertionSort, aliasedFunction, List.nil_append] at held
  obtain ⟨appended, covers, rfl⟩ := List.mem_map.mp held
  have inside := mem_of_mem_run (List.mem_filter.mp covers).1
  rw [sortedByAddress, List.mem_insertionSort] at inside
  obtain ⟨line, -, read⟩ := List.mem_filterMap.mp inside
  exact hexEncoded_of_instructionLine read

/-! ## What the validation raises -/

theorem binding_of_refuseIf {refused : Prop} [Decidable refused] {text : Str}
    (failed : refuseIf refused (Raised.binding text) = .error raised) :
    ∃ text, raised = .binding text := by
  rw [refuseIf] at failed
  split at failed
  · exact ⟨text, (Except.error.inj failed).symm⟩
  · cases failed

/-- The one place where the validation raises something else. -/
def OversizedAt (executable : List Executable) (ins : Instruction) : Prop :=
  ∃ encoding item, ins.encoding = some encoding ∧
    matching executable ins (encoding.length / 2) = [item] ∧ Oversized encoding

/-- The checks of an encoding whose bytes lie in one section. -/
theorem checkEncoding_alone {encoding : Str} {item : Executable} (hex : HexEncoded ins)
    (encoded : ins.encoding = some encoding)
    (alone : matching executable ins (encoding.length / 2) = [item]) :
    checkEncoding ints executable ins =
      orRaise .overflowError (toBytes (encoding.length / 2) (hexValue encoding)) >>= fun expected =>
        refuseIf (slice item.bytes (ins.address - item.start) (encoding.length / 2) ≠ expected)
          (.binding ("disassembly encoding mismatch at 0x".toList ++ hexText ins.address)) := by
  obtain ⟨some', digits⟩ := hex encoding encoded
  unfold checkEncoding
  rw [encoded]
  dsimp only
  rw [alone]
  dsimp only
  rw [toInt_of_isHex digits some']
  rfl

/-- The encoding of a line raises an `OverflowError` if it is oversized, and nothing else
but an `InputBindingError`. -/
theorem checkEncoding_eq_error (hex : HexEncoded ins)
    (failed : checkEncoding ints executable ins = .error raised) :
    (∃ text, raised = .binding text) ∨ (raised = .overflowError ∧ OversizedAt executable ins) := by
  cases encoded : ins.encoding with
  | none =>
      rw [checkEncoding, encoded] at failed
      exact .inl ⟨_, (Except.error.inj failed).symm⟩
  | some encoding =>
      by_cases single : ∃ item, matching executable ins (encoding.length / 2) = [item]
      · obtain ⟨item, alone⟩ := single
        rw [checkEncoding_alone hex encoded alone] at failed
        obtain overflow | ⟨bytes, -, mismatch⟩ := bind_eq_error.mp failed
        · obtain ⟨same, fits⟩ := orRaise_eq_error.mp overflow
          rw [toBytes, if_neg (by omega)] at fits
          obtain ⟨odd, first⟩ := (bytesOf_hexValue_eq_none (hex encoding encoded).2).mp fits
          exact .inr ⟨same, encoding, item, encoded, alone, odd, first⟩
        · exact .inl (binding_of_refuseIf mismatch)
      · rw [checkEncoding, encoded] at failed
        dsimp only at failed
        split at failed
        · next item alone => exact absurd ⟨item, alone⟩ single
        · exact .inl ⟨_, (Except.error.inj failed).symm⟩

theorem checkEncoding_of_oversized (hex : HexEncoded ins) (oversized : OversizedAt executable ins) :
    checkEncoding ints executable ins = .error .overflowError := by
  obtain ⟨encoding, item, encoded, alone, odd, first⟩ := oversized
  have fits : toBytes (encoding.length / 2) (hexValue encoding) = none := by
    rw [toBytes, if_neg (by omega)]
    exact (bytesOf_hexValue_eq_none (hex encoding encoded).2).mpr ⟨odd, first⟩
  rw [checkEncoding_alone hex encoded alone, fits]
  rfl

theorem checkInstructions_cons {pcs : List Nat} {rest : List Instruction}
    (fresh : ins.address ∉ pcs) :
    checkInstructions ints executable fn pcs (ins :: rest) =
      checkEncoding ints executable ins >>= fun _ =>
        checkInstructions ints executable fn (ins.address :: pcs) rest := by
  rw [checkInstructions, refuseIf, if_neg fresh]
  rfl

theorem checkInstructions_eq_error {pcs : List Nat} {instructions : List Instruction}
    (hex : ∀ ins ∈ instructions, HexEncoded ins)
    (failed : checkInstructions ints executable fn pcs instructions = .error raised) :
    (∃ text, raised = .binding text) ∨ (raised = .overflowError ∧
      ∃ earlier ins later, instructions = earlier ++ ins :: later ∧
        checkInstructions ints executable fn pcs earlier = .ok () ∧
        ins.address ∉ pcs ∧ ins.address ∉ earlier.map Instruction.address ∧
        OversizedAt executable ins) := by
  induction instructions generalizing pcs with
  | nil => cases failed
  | cons first rest ih =>
      rw [checkInstructions] at failed
      obtain duplicate | ⟨_, fresh, failed⟩ := bind_eq_error.mp failed
      · exact .inl (binding_of_refuseIf duplicate)
      have fresh := refuseIf_eq_ok.mp fresh
      obtain here | ⟨_, encoded, failed⟩ := bind_eq_error.mp failed
      · refine (checkEncoding_eq_error (hex first List.mem_cons_self) here).imp_right ?_
        rintro ⟨same, oversized⟩
        exact ⟨same, [], first, rest, rfl, rfl, fresh, List.not_mem_nil, oversized⟩
      · refine (ih (fun other held => hex other (List.mem_cons_of_mem _ held)) failed).imp_right ?_
        rintro ⟨same, earlier, ins, later, rfl, passed, apart, unlisted, oversized⟩
        obtain ⟨other, before⟩ := not_or.mp (List.mem_cons.not.mp apart)
        refine ⟨same, first :: earlier, ins, later, rfl, ?_, before, ?_, oversized⟩
        · rw [checkInstructions_cons fresh, encoded]
          exact passed
        · exact List.mem_cons.not.mpr (not_or.mpr ⟨other, unlisted⟩)

theorem checkInstructions_of_oversized {pcs : List Nat} {earlier later : List Instruction}
    (hex : HexEncoded ins)
    (passed : checkInstructions ints executable fn pcs earlier = .ok ())
    (fresh : ins.address ∉ pcs) (unlisted : ins.address ∉ earlier.map Instruction.address)
    (oversized : OversizedAt executable ins) :
    checkInstructions ints executable fn pcs (earlier ++ ins :: later) = .error .overflowError := by
  induction earlier generalizing pcs with
  | nil =>
      rw [List.nil_append, checkInstructions_cons fresh, checkEncoding_of_oversized hex oversized]
      rfl
  | cons first rest ih =>
      simp only [checkInstructions, bind_eq_ok] at passed
      obtain ⟨_, apart, _, encoded, passed⟩ := passed
      obtain ⟨other, others⟩ := not_or.mp (List.mem_cons.not.mp unlisted)
      rw [List.cons_append, checkInstructions_cons (refuseIf_eq_ok.mp apart), encoded]
      exact ih passed (List.mem_cons.not.mpr (not_or.mpr ⟨other, fresh⟩)) others

theorem binding_of_checkCover {cursor : Nat} {instructions : List Instruction}
    (failed : checkCover fn cursor instructions = .error raised) : ∃ text, raised = .binding text := by
  induction instructions generalizing cursor with
  | nil => exact binding_of_refuseIf failed
  | cons ins rest ih =>
      rw [checkCover] at failed
      obtain uncovered | ⟨_, -, later⟩ := bind_eq_error.mp failed
      · exact binding_of_refuseIf uncovered
      · exact ih later

theorem checkFunction_eq_error (hex : ∀ ins ∈ fn.instructions, HexEncoded ins)
    (failed : checkFunction ints executable rows fn = .error raised) :
    (∃ text, raised = .binding text) ∨
      (raised = .overflowError ∧ Overflows ints rows executable fn) := by
  rw [checkFunction] at failed
  split at failed
  · exact .inl (binding_of_refuseIf failed)
  · next extent known =>
      obtain different | ⟨_, same, failed⟩ := bind_eq_error.mp failed
      · exact .inl (binding_of_refuseIf different)
      have same : extent = fn.size := not_not.mp (refuseIf_eq_ok.mp same)
      obtain instructions | ⟨_, -, cover⟩ := bind_eq_error.mp failed
      · refine (checkInstructions_eq_error hex instructions).imp_right ?_
        rintro ⟨overflow, earlier, ins, later, listed, passed, -, unlisted, encoding, item, encoded,
          alone, oversized⟩
        exact ⟨overflow, same ▸ known, earlier, ins, later, encoding, item, listed, passed, unlisted,
          encoded, alone, oversized⟩
      · exact .inl (binding_of_checkCover cover)

theorem checkFunction_of_overflows (hex : ∀ ins ∈ fn.instructions, HexEncoded ins)
    (overflows : Overflows ints rows executable fn) :
    checkFunction ints executable rows fn = .error .overflowError := by
  obtain ⟨extent, earlier, ins, later, encoding, item, listed, passed, unlisted, encoded, alone,
    oversized⟩ := overflows
  have inside : HexEncoded ins := hex ins (listed ▸ List.mem_append_right _ List.mem_cons_self)
  have raises := @checkInstructions_of_oversized ints executable fn ins [] earlier later inside passed
    nofun unlisted ⟨encoding, item, encoded, alone, oversized⟩
  unfold checkFunction
  rw [extent]
  dsimp only
  rw [listed, raises, refuseIf, if_neg (not_not.mpr rfl)]
  rfl

theorem validated_eq (image : List SymbolRow × List Executable)
    (read : elf32RiscvImage elfData = .ok image) :
    validated tables ints elfData symbolText disassembly =
      checkAll (checkSymbol image.1) ((splitLines symbolText).filterMap (symbolLine tables)) >>=
        fun _ => checkAll (checkFunction ints image.2 image.1)
          ((linkedFunctions tables symbolText disassembly).entries.map Prod.snd) := by
  rw [validated, validateLinkedInputs, read]
  rfl

/-- The validation raises an `InputBindingError`, or an `OverflowError` at an encoding that
does not fit. -/
theorem validated_eq_error (failed : validated tables ints elfData symbolText disassembly = .error raised) :
    (∃ text, raised = .binding text) ∨ (raised = .overflowError ∧
      OverflowReached tables ints elfData symbolText disassembly) := by
  cases read : elf32RiscvImage elfData with
  | error error =>
      obtain ⟨text, rfl⟩ := (settled_elf32RiscvImage elfData).errors read
      rw [validated, validateLinkedInputs, read] at failed
      exact .inl ⟨text, (Except.error.inj failed).symm⟩
  | ok image =>
      rw [validated_eq image read] at failed
      obtain symbols | ⟨_, symbols, functions⟩ := bind_eq_error.mp failed
      · obtain ⟨-, line, -, -, -, refused⟩ := checkAll_eq_error.mp symbols
        exact .inl (binding_of_refuseIf refused)
      · obtain ⟨before, fn, after, listed, passed, refused⟩ := checkAll_eq_error.mp functions
        have member : fn ∈ (linkedFunctions tables symbolText disassembly).entries.map Prod.snd :=
          listed ▸ List.mem_append_right _ List.mem_cons_self
        refine (checkFunction_eq_error (fun ins held => hexEncoded_of_linkedFunctions member held)
          refused).imp_right ?_
        rintro ⟨overflow, overflows⟩
        exact ⟨overflow, image.1, image.2, before, fn, after, read, checkAll_eq_ok.mp symbols, listed,
          passed, overflows⟩

theorem validated_of_overflowReached
    (reached : OverflowReached tables ints elfData symbolText disassembly) :
    validated tables ints elfData symbolText disassembly = .error .overflowError := by
  obtain ⟨rows, executable, before, fn, after, read, symbols, listed, passed, overflows⟩ := reached
  have member : fn ∈ (linkedFunctions tables symbolText disassembly).entries.map Prod.snd :=
    listed ▸ List.mem_append_right _ List.mem_cons_self
  have symbolsPass : checkAll (checkSymbol rows)
      ((splitLines symbolText).filterMap (symbolLine tables)) = .ok () := checkAll_eq_ok.mpr symbols
  rw [validated_eq (rows, executable) read, symbolsPass]
  refine checkAll_eq_error.mpr ⟨before, fn, after, listed, passed, ?_⟩
  exact checkFunction_of_overflows (fun ins held => hexEncoded_of_linkedFunctions member held) overflows

/-! ## The pipeline -/

theorem not_settles {α : Type} {result : Except Raised α} (failed : result = .error raised)
    (other : ∀ text, raised ≠ .binding text) : ¬Settles result := fun settles =>
  (settles raised failed).elim other

/-- No other exception leaves the pipeline exactly if it comes to no encoding that does not
fit its bytes, no `addi` of a known constant without addend, and no message with a number
of more digits than the interpreter allows. -/
theorem noTraceback_iff (tables : UnicodeTables) (ints : IntTables) (printable : Char → Bool)
    (elfData : List UInt8) (symbolText disassembly : Str) :
    NoTraceback tables ints printable elfData symbolText disassembly ↔
      Guarded tables ints printable elfData symbolText disassembly := by
  constructor
  · intro settled
    constructor
    case fits =>
      intro reached
      exact not_settles (validated_of_overflowReached reached) nofun settled.validation
    case addends =>
      intro accepted fn member blank
      obtain ⟨callPc, register, failed⟩ := callbackArgumentValue_eq_error.mpr ⟨rfl, blank⟩
      exact not_settles failed nofun (settled.argument accepted fn member callPc register)
    case short =>
      intro accepted fn member linkregReturn long
      obtain ⟨fuel, failed⟩ := analyzeFrame_eq_error.mpr ⟨rfl, long⟩
      have raises : (.error .valueError : Except Raised FrameReport) = .error .valueError := rfl
      exact not_settles raises nofun
        ((settled.frame accepted fn member linkregReturn).2 fuel _ failed)
  · intro guarded
    constructor
    case validation =>
      intro raised failed
      exact (validated_eq_error failed).resolve_right fun overflow => guarded.fits overflow.2
    case argument =>
      intro accepted fn member callPc register raised failed
      exact absurd (callbackArgumentValue_eq_error.mp ⟨callPc, register, failed⟩).2
        (guarded.addends accepted fn member)
    case frame =>
      intro accepted fn member linkregReturn
      refine ⟨exists_analyzeFrame ints printable fn linkregReturn, ?_⟩
      rintro fuel ended ran raised rfl
      exact absurd (analyzeFrame_eq_error.mp ⟨fuel, ran⟩).2
        (guarded.short accepted fn member linkregReturn)

def mainImage : List UInt8 :=
  smallImage 0x42000028 4 [(1, 0x42000028)]
    (0 :: "main".toList.map (fun c => UInt8.ofNat c.toNat) ++ [0])

def mainListing : Str := "42000028 00000004 T main\n".toList

/-- An encoding of five digits. -/
theorem not_noTraceback_odd :
    validated asciiTables ⟨fun _ => none, 4300⟩ mainImage mainListing
        "42000028: 12345 unimp\n".toList = .error .overflowError ∧
      ¬NoTraceback asciiTables ⟨fun _ => none, 4300⟩ (fun _ => false) mainImage mainListing
        "42000028: 12345 unimp\n".toList := by
  have raises : validated asciiTables ⟨fun _ => none, 4300⟩ mainImage mainListing
      "42000028: 12345 unimp\n".toList = .error .overflowError := by
    decide +kernel
  exact ⟨raises, fun settled => not_settles raises nofun settled.validation⟩

end AxolotyEmbedded.FirstInit
