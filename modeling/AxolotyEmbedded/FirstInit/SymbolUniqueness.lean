import Mathlib.Data.Set.Basic
import AxolotyEmbedded.FirstInit.Program
import AxolotyEmbedded.FirstInit.SymbolNames

/-!
Which function `one` returns. The names of an accepted pair of images pass through a
listing, two tables keyed by name and a last table in which the ROM takes the names of the
firmware; what is left of a name is the address bound last.
-/
namespace AxolotyEmbedded.FirstInit

open PythonText Checked

/-! ## The address a name is left with -/

/-- The ROM takes the names of the firmware. -/
inductive BindsTo (firmware rom : List (Str × Nat)) (name : Str) (address : Nat) : Prop where
  | rom (binds : Binds rom name address)
  | firmware (absent : ∀ other, (name, other) ∉ rom) (binds : Binds firmware name address)

variable {name : Str} {address : Nat} {lines : List SymbolLine} {tables : UnicodeTables}

/-! ## Loading -/

/-- The rows of an image that `__init__` lists, none if the image cannot be read. -/
def functionRows (data : List UInt8) : List SymbolRow :=
  match elf32RiscvImage data with
  | .error _ => []
  | .ok (rows, executable) => selected rows executable

/-- The lines `parse_symbols` reads back from the listing of an image. -/
def listedLines (tables : UnicodeTables) (data : List UInt8) : List SymbolLine :=
  symbolLines tables (listing (functionRows data))

namespace Program

/-- Each function stands under its own start, and each name is bound to such a start. -/
structure Consistent (program : Program) : Prop where
  keyed : ∀ {address fn}, program.functions.get? address = some fn → fn.start = address
  bound : ∀ {name fn}, program.names.get? name = some fn →
    ∃ held, program.functions.get? fn.start = some held

variable {program after : Program} {image : LoadedImage}

theorem load_eq_ok (loaded : program.load tables image = .ok after) :
    let byAddr := parseDisassembly tables image.text
      (functionsByAddress (listedLines tables image.data))
    after.functions = program.functions.update byAddr.entries ∧
      after.names = program.names.update
        (shareInstructions byAddr (functionsByName (listedLines tables image.data))).entries := by
  simp only [load, bind_eq_ok] at loaded
  obtain ⟨⟨rows, executable⟩, read, -, -, sections, -, instructions, -, built⟩ := loaded
  have listed : symbolLines tables (listing (selected rows executable)) =
      listedLines tables image.data := by
    rw [listedLines, functionRows, read]
  simp only [parseSymbols, listed, pure, Except.pure, Except.ok.injEq] at built
  subst built
  intro byAddr
  constructor
  · dsimp only [byAddr]
  · dsimp only [byAddr]

theorem get?_parseDisassembly {text : Str} {byAddress : Dict Nat Function} {fn : Function}
    (found : (parseDisassembly tables text byAddress).get? address = some fn) :
    ∃ before, byAddress.get? address = some before ∧ fn.start = before.start := by
  rw [parseDisassembly, Dict.get?_mapValues] at found
  obtain ⟨before, held, rfl⟩ := Option.map_eq_some_iff.mp found
  exact ⟨before, held, rfl⟩

theorem get?_shareInstructions {byAddress : Dict Nat Function} {byName : Dict Str Function} :
    ((shareInstructions byAddress byName).get? name).map Function.start =
      (byName.get? name).map Function.start := by
  rw [shareInstructions, Dict.get?_mapValues, Option.map_map]
  congr 1
  funext fn
  rw [Function.comp_apply]
  split <;> rfl

/-- The names of an image take the names of those before it. -/
theorem start_load (loaded : program.load tables image = .ok after) (name : Str) :
    (after.names.get? name).map Function.start =
      (((functionsByName (listedLines tables image.data)).get? name).map Function.start).or
        ((program.names.get? name).map Function.start) := by
  rw [(load_eq_ok loaded).2, Dict.get?_update_entries, Option.map_or, get?_shareInstructions]

theorem Consistent.load (consistent : program.Consistent)
    (loaded : program.load tables image = .ok after) : after.Consistent where
  keyed := by
    intro address fn found
    rw [(load_eq_ok loaded).1, Dict.get?_update_entries, Option.or_eq_some_iff] at found
    obtain here | ⟨-, earlier⟩ := found
    · obtain ⟨before, held, same⟩ := get?_parseDisassembly here
      exact same.trans (start_of_get?_functionsByAddress held)
    · exact consistent.keyed earlier
  bound := by
    intro name fn found
    have start := start_load loaded name
    rw [found, Option.map_some, eq_comm, Option.or_eq_some_iff] at start
    rw [(load_eq_ok loaded).1, Dict.get?_update_entries]
    obtain here | ⟨-, earlier⟩ := start
    · obtain ⟨line, inside, equal⟩ := List.mem_map.mp (functionsByName_start.mp here).held
      have listed : fn.start ∈ (functionsByAddress (listedLines tables image.data)).keys := by
        rw [functionsByAddress, Dict.keys, List.map_map]
        refine Dict.mem_keys_groupBy.mpr (List.mem_map.mpr ⟨line, inside, ?_⟩)
        exact congrArg Prod.snd equal
      obtain ⟨held, present⟩ := Dict.mem_keys.mp listed
      rw [parseDisassembly, Dict.get?_mapValues, present]
      exact ⟨_, rfl⟩
    · obtain ⟨before, held, same⟩ := Option.map_eq_some_iff.mp earlier
      obtain ⟨kept, present⟩ := consistent.bound held
      rw [← same, present]
      cases (parseDisassembly tables image.text
        (functionsByAddress (listedLines tables image.data))).get? before.start with
      | none => exact ⟨kept, rfl⟩
      | some newer => exact ⟨newer, rfl⟩

variable {sha256 : List UInt8 → Str} {firmware rom : List UInt8} {firmwareText romText : Str}

theorem init_eq_ok (accepted : init tables sha256 firmware firmwareText rom romText = .ok program) :
    ∃ first, empty.load tables ⟨"firmware".toList, firmware, firmwareText⟩ = .ok first ∧
      first.load tables ⟨"rom".toList, rom, romText⟩ = .ok program := by
  simp only [init, bind_eq_ok] at accepted
  obtain ⟨-, -, first, loaded, done⟩ := accepted
  exact ⟨first, loaded, done⟩

theorem consistent_init
    (accepted : init tables sha256 firmware firmwareText rom romText = .ok program) :
    program.Consistent := by
  obtain ⟨first, firmwareLoaded, romLoaded⟩ := init_eq_ok accepted
  have begun : empty.Consistent := ⟨(nomatch ·), (nomatch ·)⟩
  exact (begun.load firmwareLoaded).load romLoaded

/-- What an accepted pair of images leaves of a name. -/
theorem start_init (accepted : init tables sha256 firmware firmwareText rom romText = .ok program) :
    (program.names.get? name).map Function.start = some address ↔
      BindsTo (namedAddresses (listedLines tables firmware))
        (namedAddresses (listedLines tables rom)) name address := by
  obtain ⟨first, firmwareLoaded, romLoaded⟩ := init_eq_ok accepted
  have before := start_load firmwareLoaded name
  rw [show empty.names.get? name = none from rfl, Option.map_none, Option.or_none] at before
  rw [start_load romLoaded, before, Option.or_eq_some_iff, functionsByName_start,
    functionsByName_start, Option.map_eq_none_iff, functionsByName_eq_none]
  constructor
  · rintro (binds | ⟨absent, binds⟩)
    · exact .rom binds
    · exact .firmware absent binds
  · rintro (binds | ⟨absent, binds⟩)
    · exact .inl binds
    · exact .inr ⟨absent, binds⟩

/-! ## `one` -/

variable {predicate : Str → Bool}

theorem mem_starts :
    address ∈ program.starts predicate ↔
      ∃ name, predicate name = true ∧
        (program.names.get? name).map Function.start = some address := by
  simp only [starts, List.mem_dedup, List.mem_map, List.mem_filter, Prod.exists, Dict.mem_entries,
    Option.map_eq_some_iff]
  constructor
  · rintro ⟨name, fn, ⟨found, good⟩, start⟩
    exact ⟨name, good, fn, found, start⟩
  · rintro ⟨name, good, fn, found, start⟩
    exact ⟨name, fn, ⟨found, good⟩, start⟩

theorem one_of_unique (consistent : program.Consistent)
    (unique : ∀ other, other ∈ program.starts predicate ↔ other = address) :
    ∃ fn, program.one predicate = .ok fn ∧ program.functions.get? address = some fn ∧
      fn.start = address := by
  have single : program.starts predicate = [address] := by
    refine List.perm_singleton.mp ((List.perm_ext_iff_of_nodup (List.nodup_dedup _)
      (List.nodup_singleton address)).mpr fun other => ?_)
    rw [List.mem_singleton]
    exact unique other
  obtain ⟨name, -, bound⟩ := mem_starts.mp ((unique address).mpr rfl)
  obtain ⟨named, found, rfl⟩ := Option.map_eq_some_iff.mp bound
  obtain ⟨fn, held⟩ := consistent.bound found
  exact ⟨fn, by rw [one, single]; simp only [held], held, consistent.keyed held⟩

theorem one_of_not_unique
    (mixed : ∀ address, ¬ ∀ other, other ∈ program.starts predicate ↔ other = address) :
    ∃ text, program.one predicate = .error (.unclosed text) := by
  rw [one]
  rcases single : program.starts predicate with _ | ⟨address, _ | ⟨second, rest⟩⟩
  · exact ⟨_, rfl⟩
  · refine absurd (fun other => ?_) (mixed address)
    rw [single, List.mem_singleton]
  · exact ⟨_, rfl⟩

end Program

/-! ## Names that are listed as they are -/

/-- No line break, and no blank at either end. -/
def isPlain (name : Str) : Bool :=
  name.all (fun c => !isLineBreak c) && name.head?.any (fun c => !isSpace c) &&
    name.getLast?.any fun c => !isSpace c

/-- A name that the listing gives back. -/
structure PlainName (name : Str) : Prop where
  unbroken : ∀ c ∈ name, isLineBreak c = false
  first : ∃ c rest, name = c :: rest ∧ isSpace c = false
  last : ∃ c rest, name = rest ++ [c] ∧ isSpace c = false

theorem plainName_of_isPlain (plain : isPlain name = true) : PlainName name := by
  simp only [isPlain, Bool.and_eq_true, List.all_eq_true, Option.any_eq_true, Bool.not_eq_true'] at plain
  obtain ⟨⟨unbroken, c, head, firstNonblank⟩, d, last, lastNonblank⟩ := plain
  obtain ⟨rest, split⟩ := List.head?_eq_some_iff.mp head
  obtain ⟨before, ends⟩ := List.getLast?_eq_some_iff.mp last
  exact ⟨unbroken, ⟨c, rest, split, firstNonblank⟩, ⟨d, before, ends, lastNonblank⟩⟩

theorem range_of_isHex {c : Char} (digit : isHex c = true) : 0x30 ≤ c.toNat ∧ c.toNat ≤ 0x66 := by
  simp only [isHex, Bool.or_eq_true, Bool.and_eq_true, decide_eq_true_eq, Char.le_def,
    UInt32.le_iff_toNat_le] at digit
  have zero : ('0').val.toNat = 0x30 := rfl
  have nine : ('9').val.toNat = 0x39 := rfl
  have lower : ('a').val.toNat = 0x61 ∧ ('f').val.toNat = 0x66 := ⟨rfl, rfl⟩
  have upper : ('A').val.toNat = 0x41 ∧ ('F').val.toNat = 0x46 := ⟨rfl, rfl⟩
  have same : c.val.toNat = c.toNat := rfl
  omega

theorem isSpace_of_isHex {c : Char} (digit : isHex c = true) : isSpace c = false := by
  have range := range_of_isHex digit
  simp only [isSpace, Bool.or_eq_false_iff, Bool.and_eq_false_iff, decide_eq_false_iff_not,
    beq_eq_false_iff_ne]
  omega

theorem isLineBreak_of_isHex {c : Char} (digit : isHex c = true) : isLineBreak c = false := by
  have range := range_of_isHex digit
  simp only [isLineBreak, Bool.or_eq_false_iff, Bool.and_eq_false_iff, decide_eq_false_iff_not,
    beq_eq_false_iff_ne]
  omega

theorem isHex_of_mem_hex8 {value : Nat} {c : Char} (held : c ∈ hex8 value) : isHex c = true := by
  obtain zero | digit := List.mem_append.mp held
  · exact (List.mem_replicate.mp zero).2 ▸ by decide
  · exact isHex_of_mem_hexText digit

theorem hexValue_hex8 (value : Nat) : hexValue (hex8 value) = value :=
  (hexValue_replicate_append _ _).trans (hexValue_hexText value)

theorem hex8_eq_cons (value : Nat) : ∃ c rest, hex8 value = c :: rest ∧ isSpace c = false := by
  cases text : hex8 value with
  | nil => exact absurd (List.append_eq_nil_iff.mp text).2 (hexText_ne_nil value)
  | cons c rest =>
      have held : c ∈ hex8 value := text ▸ List.mem_cons_self
      exact ⟨c, rest, rfl, isSpace_of_isHex (isHex_of_mem_hex8 held)⟩

theorem hexRun_hex8 (value : Nat) (rest : Str) :
    hexRun (hex8 value ++ ' ' :: rest) = some (hex8 value, ' ' :: rest) := by
  have digits : ∀ c ∈ hex8 value, isHex c = true := fun c => isHex_of_mem_hex8
  have taken : (hex8 value ++ ' ' :: rest).takeWhile isHex = hex8 value := by
    rw [List.takeWhile_append_of_pos digits, List.takeWhile_cons_of_neg (by decide),
      List.append_nil]
  have dropped : (hex8 value ++ ' ' :: rest).dropWhile isHex = ' ' :: rest := by
    rw [List.dropWhile_append_of_pos digits, List.dropWhile_cons_of_neg (by decide)]
  obtain ⟨c, others, text, -⟩ := hex8_eq_cons value
  rw [hexRun, taken, dropped, if_neg (by simp [text])]

theorem dropWhile_isSpace {text : Str} (nonblank : ∃ c rest, text = c :: rest ∧ isSpace c = false)
    (more : Str) : (text ++ more).dropWhile isSpace = text ++ more := by
  obtain ⟨c, rest, rfl, held⟩ := nonblank
  rw [List.cons_append, List.dropWhile_cons_of_neg (by simp [held])]

theorem blanks_space {text : Str} (nonblank : ∃ c rest, text = c :: rest ∧ isSpace c = false)
    (more : Str) : blanks (' ' :: (text ++ more)) = some (text ++ more) := by
  rw [blanks, if_pos (by decide), dropWhile_isSpace nonblank]

theorem lastField_plain (plain : PlainName name) : lastField (' ' :: name) = some name := by
  obtain ⟨c, rest, split, -⟩ := plain.first
  obtain ⟨last, before, ends, nonblank⟩ := plain.last
  have found := blanks_space plain.first []
  rw [List.append_nil] at found
  have kept : name.rdropWhile isSpace = name := by
    rw [ends, List.rdropWhile_concat_neg _ _ _ (by simp [nonblank])]
  have nonempty : name ≠ [] := by simp [split]
  rw [lastField, found, Option.bind_eq_bind, Option.bind_some, if_neg nonempty, kept]

/-- The line of a row whose name is plain is read back as the row. -/
theorem symbolLine_rowText {row : SymbolRow} (plain : PlainName row.name) :
    symbolLine tables (rowText row) = some ⟨row.address, row.size, 'T', row.name⟩ := by
  have letter : ∃ c rest, ['T'] = c :: rest ∧ isSpace c = false := ⟨'T', [], rfl, by decide⟩
  have kind : blanks (' ' :: 'T' :: ' ' :: row.name) = some ('T' :: ' ' :: row.name) :=
    blanks_space letter (' ' :: row.name)
  have word : wordChar tables ('T' :: ' ' :: row.name) = some ('T', ' ' :: row.name) := rfl
  have size := blanks_space (hex8_eq_cons row.size) (' ' :: 'T' :: ' ' :: row.name)
  rw [symbolLine, rowText, dropWhile_isSpace (hex8_eq_cons _), hexRun_hex8]
  simp only [Option.bind_eq_bind, Option.bind_some, size, hexRun_hex8 row.size, kind, word,
    lastField_plain plain, hexValue_hex8]

/-- The rows of an image with their addresses. -/
def rowAddresses (data : List UInt8) : List (Str × Nat) :=
  (functionRows data).map fun row => (row.name, row.address)

theorem size_of_mem_functionRows {data : List UInt8} {row : SymbolRow}
    (held : row ∈ functionRows data) : row.size ≠ 0 := by
  rw [functionRows] at held
  split at held
  · cases held
  · next read => exact size_of_mem_elf32RiscvImage read (List.mem_of_mem_filter held)

theorem unbroken_rowText {row : SymbolRow} (plain : PlainName row.name) :
    ∀ c ∈ rowText row, isLineBreak c = false := by
  have address : ∀ c ∈ hex8 row.address, isLineBreak c = false := fun c held =>
    isLineBreak_of_isHex (isHex_of_mem_hex8 held)
  have size : ∀ c ∈ hex8 row.size, isLineBreak c = false := fun c held =>
    isLineBreak_of_isHex (isHex_of_mem_hex8 held)
  have space : isLineBreak ' ' = false := by decide
  have letter : isLineBreak 'T' = false := by decide
  simp only [rowText, List.forall_mem_append, List.forall_mem_cons]
  exact ⟨address, space, size, space, letter, space, plain.unbroken⟩

/-- Plain names pass through the listing and the pattern unchanged. -/
theorem namedAddresses_listedLines {data : List UInt8}
    (plain : ∀ row ∈ functionRows data, PlainName row.name) :
    namedAddresses (listedLines tables data) = rowAddresses data := by
  have unbroken : ∀ line ∈ (functionRows data).map rowText, ∀ c ∈ line, isLineBreak c = false := by
    intro line inside
    obtain ⟨row, held, rfl⟩ := List.mem_map.mp inside
    exact unbroken_rowText (plain row held)
  have nonempty : ∀ line ∈ (functionRows data).map rowText, line ≠ [] := by
    intro line inside
    obtain ⟨row, held, rfl⟩ := List.mem_map.mp inside
    obtain ⟨c, rest, text, -⟩ := hex8_eq_cons row.address
    simp [rowText, text]
  have sized : ∀ row ∈ functionRows data, row.size ≠ 0 := fun row => size_of_mem_functionRows
  rw [listedLines, symbolLines, listing, splitLines_intercalate unbroken nonempty, rowAddresses]
  generalize functionRows data = rows at plain sized
  induction rows with
  | nil => rfl
  | cons row rest ih =>
      have here : symbolLine tables (rowText row) = some ⟨row.address, row.size, 'T', row.name⟩ :=
        symbolLine_rowText (plain row List.mem_cons_self)
      rw [List.map_cons, List.filterMap_cons_some here, List.filter_cons_of_pos
        (by simpa using sized row List.mem_cons_self), namedAddresses, List.map_cons, List.map_cons,
        ← ih (fun other inside => plain other (List.mem_cons_of_mem _ inside))
          fun other inside => sized other (List.mem_cons_of_mem _ inside)]
      rfl

/-! ## Uniqueness of a symbol -/

/-- The addresses of the function symbols of both images whose names satisfy a predicate. -/
def carriers (firmware rom : List UInt8) (predicate : Str → Bool) : Set Nat :=
  {address | ∃ row ∈ functionRows firmware ++ functionRows rom,
    predicate row.name = true ∧ row.address = address}

/-- The lookup finds the function of the one address that carries a matching symbol, and
is refused where no address is the only one. -/
structure SymbolUnique (program : Program) (carriers : Set Nat) (predicate : Str → Bool) :
    Prop where
  returns : ∀ address, carriers = {address} → ∃ fn, program.one predicate = .ok fn ∧
    program.functions.get? address = some fn ∧ fn.start = address
  raises : (∀ address, carriers ≠ {address}) →
    ∃ text, program.one predicate = .error (.unclosed text)

/-- The addresses that two lists leave to the names that satisfy a predicate. -/
def bindings (firmware rom : List (Str × Nat)) (predicate : Str → Bool) : Set Nat :=
  {address | ∃ name, predicate name = true ∧ BindsTo firmware rom name address}

section

variable {program : Program} {sha256 : List UInt8 → Str} {firmware rom : List UInt8}
  {firmwareText romText : Str} {predicate : Str → Bool}

theorem mem_starts_init
    (accepted : Program.init tables sha256 firmware firmwareText rom romText = .ok program) :
    address ∈ program.starts predicate ↔
      address ∈ bindings (namedAddresses (listedLines tables firmware))
        (namedAddresses (listedLines tables rom)) predicate := by
  rw [Program.mem_starts]
  exact exists_congr fun name => and_congr_right fun _ => Program.start_init accepted

theorem bindings_eq_singleton
    (accepted : Program.init tables sha256 firmware firmwareText rom romText = .ok program) :
    bindings (namedAddresses (listedLines tables firmware))
        (namedAddresses (listedLines tables rom)) predicate = {address} ↔
      ∀ other, other ∈ program.starts predicate ↔ other = address := by
  rw [Set.ext_iff]
  exact forall_congr' fun other => by rw [mem_starts_init accepted, Set.mem_singleton_iff]

/-- The lookup is right where the names are left with one address exactly when one
address carries them. -/
theorem symbolUnique_iff_bindings
    (accepted : Program.init tables sha256 firmware firmwareText rom romText = .ok program)
    (matching : Set Nat) :
    SymbolUnique program matching predicate ↔
      ∀ address, bindings (namedAddresses (listedLines tables firmware))
        (namedAddresses (listedLines tables rom)) predicate = {address} ↔
          matching = {address} := by
  have consistent := Program.consistent_init accepted
  simp only [bindings_eq_singleton accepted]
  constructor
  · intro right address
    constructor
    · intro unique
      obtain ⟨fn, found, -, start⟩ := Program.one_of_unique consistent unique
      by_contra other
      by_cases carried : ∃ elsewhere, matching = {elsewhere}
      · obtain ⟨elsewhere, only⟩ := carried
        obtain ⟨second, again, -, secondStart⟩ := right.returns elsewhere only
        obtain rfl := Except.ok.inj (found.symm.trans again)
        exact other (start.symm.trans secondStart ▸ only)
      · obtain ⟨text, refused⟩ := right.raises fun elsewhere only => carried ⟨elsewhere, only⟩
        cases found.symm.trans refused
    · intro only
      obtain ⟨fn, found, -, start⟩ := right.returns address only
      by_contra mixed
      have none : ∀ elsewhere, ¬∀ other, other ∈ program.starts predicate ↔ other = elsewhere := by
        intro elsewhere unique
        obtain ⟨second, again, -, secondStart⟩ := Program.one_of_unique consistent unique
        obtain rfl := Except.ok.inj (found.symm.trans again)
        exact mixed (start.symm.trans secondStart ▸ unique)
      obtain ⟨text, refused⟩ := Program.one_of_not_unique none
      cases found.symm.trans refused
  · intro same
    refine ⟨fun address only => ?_, fun mixed => ?_⟩
    · exact Program.one_of_unique consistent ((same address).mpr only)
    · exact Program.one_of_not_unique fun address unique =>
        mixed address ((same address).mp unique)

/-- A listed name is left with an address. -/
theorem exists_bindsTo {firmware rom : List SymbolLine}
    (listed : (name, address) ∈ namedAddresses firmware ∨ (name, address) ∈ namedAddresses rom) :
    ∃ other, BindsTo (namedAddresses firmware) (namedAddresses rom) name other := by
  have kept : ∀ {lines : List SymbolLine} {address : Nat}, (name, address) ∈ namedAddresses lines →
      ∃ other, Binds (namedAddresses lines) name other := by
    intro lines address inside
    cases found : (functionsByName lines).get? name with
    | none => exact absurd inside (functionsByName_eq_none.mp found address)
    | some fn => exact ⟨fn.start, functionsByName_start.mp (by rw [found]; rfl)⟩
  by_cases shadowed : ∃ other, (name, other) ∈ namedAddresses rom
  · obtain ⟨other, inside⟩ := shadowed
    obtain ⟨final, binds⟩ := kept inside
    exact ⟨final, .rom binds⟩
  · obtain ⟨final, binds⟩ := kept (listed.resolve_right fun inside => shadowed ⟨address, inside⟩)
    exact ⟨final, .firmware (fun other inside => shadowed ⟨other, inside⟩) binds⟩

theorem mem_carriers :
    address ∈ carriers firmware rom predicate ↔ ∃ name, predicate name = true ∧
      ((name, address) ∈ rowAddresses firmware ∨ (name, address) ∈ rowAddresses rom) := by
  simp only [carriers, rowAddresses, Set.mem_ofPred_eq, List.mem_append, List.mem_map,
    Prod.mk.injEq]
  constructor
  · rintro ⟨row, inside | inside, good, rfl⟩
    · exact ⟨row.name, good, .inl ⟨row, inside, rfl, rfl⟩⟩
    · exact ⟨row.name, good, .inr ⟨row, inside, rfl, rfl⟩⟩
  · rintro ⟨_, good, ⟨row, inside, rfl, rfl⟩ | ⟨row, inside, rfl, rfl⟩⟩
    · exact ⟨row, .inl inside, good, rfl⟩
    · exact ⟨row, .inr inside, good, rfl⟩

theorem bindings_subset :
    bindings (rowAddresses firmware) (rowAddresses rom) predicate ⊆
      carriers firmware rom predicate := by
  rintro address ⟨name, good, binds | ⟨absent, binds⟩⟩
  · exact mem_carriers.mpr ⟨name, good, .inr binds.held⟩
  · exact mem_carriers.mpr ⟨name, good, .inl binds.held⟩

/-- All matching names are left with one address, and a matching symbol lies elsewhere. -/
def Shadowed (firmware rom : List UInt8) (predicate : Str → Bool) : Prop :=
  ∃ address, bindings (rowAddresses firmware) (rowAddresses rom) predicate = {address} ∧
    ∃ other ∈ carriers firmware rom predicate, other ≠ address

/-- Plain names are lost only where a later address shadows an earlier one. -/
theorem not_shadowed_iff (tables : UnicodeTables)
    (plain : ∀ row ∈ functionRows firmware ++ functionRows rom, PlainName row.name) :
    (∀ address, bindings (rowAddresses firmware) (rowAddresses rom) predicate = {address} ↔
        carriers firmware rom predicate = {address}) ↔
      ¬Shadowed firmware rom predicate := by
  constructor
  · rintro same ⟨address, only, other, carried, apart⟩
    rw [(same address).mp only] at carried
    exact apart carried
  · intro clear address
    constructor
    · intro only
      refine Set.Subset.antisymm (fun other carried => ?_) (only ▸ bindings_subset)
      by_contra apart
      exact clear ⟨address, only, other, carried, apart⟩
    · intro only
      obtain ⟨name, good, listed⟩ := mem_carriers.mp (only ▸ Set.mem_singleton address)
      have inFirmware : namedAddresses (listedLines tables firmware) = rowAddresses firmware :=
        namedAddresses_listedLines fun row held => plain row (List.mem_append_left _ held)
      have inRom : namedAddresses (listedLines tables rom) = rowAddresses rom :=
        namedAddresses_listedLines fun row held => plain row (List.mem_append_right _ held)
      rw [← inFirmware, ← inRom] at listed
      obtain ⟨other, binds⟩ := exists_bindsTo listed
      rw [inFirmware, inRom] at binds
      have below : bindings (rowAddresses firmware) (rowAddresses rom) predicate ⊆ {address} :=
        only ▸ bindings_subset
      obtain rfl : other = address := below ⟨name, good, binds⟩
      exact Set.Subset.antisymm below (Set.singleton_subset_iff.mpr ⟨name, good, binds⟩)

/-- `one` keeps its promise exactly where the addresses left to the matching names are the
addresses that carry them, as far as one address goes. Among plain names it breaks only
where one name shadows itself. -/
theorem symbolUnique_iff
    (accepted : Program.init tables sha256 firmware firmwareText rom romText = .ok program)
    (predicate : Str → Bool) :
    (SymbolUnique program (carriers firmware rom predicate) predicate ↔
      ∀ address, bindings (namedAddresses (listedLines tables firmware))
        (namedAddresses (listedLines tables rom)) predicate = {address} ↔
          carriers firmware rom predicate = {address}) ∧
    ((∀ row ∈ functionRows firmware ++ functionRows rom, isPlain row.name = true) →
      (SymbolUnique program (carriers firmware rom predicate) predicate ↔
        ¬Shadowed firmware rom predicate)) := by
  refine ⟨symbolUnique_iff_bindings accepted _, fun listedPlain => ?_⟩
  have plain : ∀ row ∈ functionRows firmware ++ functionRows rom, PlainName row.name :=
    fun row held => plainName_of_isPlain (listedPlain row held)
  have inFirmware : namedAddresses (listedLines tables firmware) = rowAddresses firmware :=
    namedAddresses_listedLines fun row held => plain row (List.mem_append_left _ held)
  have inRom : namedAddresses (listedLines tables rom) = rowAddresses rom :=
    namedAddresses_listedLines fun row held => plain row (List.mem_append_right _ held)
  rw [symbolUnique_iff_bindings accepted, inFirmware, inRom]
  exact not_shadowed_iff tables plain

end

/-! ## Two local functions of one name -/

/-- Two local functions of one name and `main`. -/
def helperFirmware : List UInt8 :=
  smallImage 0x42000020 12 [(1, 0x42000020), (1, 0x42000024), (8, 0x42000028)]
    (0 :: "helper".toList.map (fun c => UInt8.ofNat c.toNat) ++ 0 ::
      "main".toList.map (fun c => UInt8.ofNat c.toNat) ++ [0])

def memcpyRom : List UInt8 :=
  smallImage 0x400004AC 4 [(1, 0x400004AC)]
    (0 :: "memcpy".toList.map (fun c => UInt8.ofNat c.toNat) ++ [0])

theorem rowAddresses_helperFirmware : rowAddresses helperFirmware =
    [("helper".toList, 0x42000020), ("helper".toList, 0x42000024), ("main".toList, 0x42000028)] := by
  decide +kernel

theorem isPlain_helperFirmware : ∀ row ∈ functionRows helperFirmware, isPlain row.name = true := by
  decide +kernel

theorem memcpyRom_accepted :
    ∃ program, Program.init asciiTables (fun _ => Program.romDigest) helperFirmware [] memcpyRom [] =
      .ok program := by
  apply exists_of_toOption_isSome
  decide +kernel

def isNamed (wanted name : Str) : Bool := name == wanted

/-- `main` is found. -/
theorem symbolUnique_iff_main :
    ∃ program, Program.init asciiTables (fun _ => Program.romDigest) helperFirmware [] memcpyRom [] =
        .ok program ∧
      SymbolUnique program (carriers helperFirmware memcpyRom (isNamed "main".toList))
        (isNamed "main".toList) := by
  obtain ⟨program, accepted⟩ := memcpyRom_accepted
  have plain : ∀ row ∈ functionRows helperFirmware ++ functionRows memcpyRom,
      isPlain row.name = true := by decide +kernel
  refine ⟨program, accepted, ((symbolUnique_iff accepted _).2 plain).mpr ?_⟩
  have romRows : rowAddresses memcpyRom = [("memcpy".toList, 0x400004AC)] := by decide +kernel
  have only : ∀ address ∈ carriers helperFirmware memcpyRom (isNamed "main".toList),
      address = 0x42000028 := by
    intro address carried
    obtain ⟨name, good, listed⟩ := mem_carriers.mp carried
    obtain rfl := eq_of_beq good
    simpa [rowAddresses_helperFirmware, romRows] using listed
  rintro ⟨address, bound, other, carried, apart⟩
  have inside := bindings_subset (bound.symm ▸ Set.mem_singleton address)
  exact apart ((only other carried).trans (only address inside).symm)

/-- With two local functions of one name the lookup returns one of them. -/
theorem not_symbolUnique_helper :
    (∀ (tables : UnicodeTables) (sha256 : List UInt8 → Str) (firmwareText : Str)
        (rom : List UInt8) (romText : Str) (program : Program),
      Program.init tables sha256 helperFirmware firmwareText rom romText = .ok program →
        ¬SymbolUnique program (carriers helperFirmware rom (isNamed "helper".toList))
          (isNamed "helper".toList)) ∧
      ∃ program, Program.init asciiTables (fun _ => Program.romDigest) helperFirmware [] memcpyRom []
        = .ok program := by
  refine ⟨?_, memcpyRom_accepted⟩
  intro tables sha256 firmwareText rom romText program accepted unique
  have first : 0x42000020 ∈ carriers helperFirmware rom (isNamed "helper".toList) :=
    mem_carriers.mpr ⟨"helper".toList, by decide, .inl (by rw [rowAddresses_helperFirmware]; decide)⟩
  have second : 0x42000024 ∈ carriers helperFirmware rom (isNamed "helper".toList) :=
    mem_carriers.mpr ⟨"helper".toList, by decide, .inl (by rw [rowAddresses_helperFirmware]; decide)⟩
  obtain ⟨text, refused⟩ := unique.raises fun address only => by
    rw [only, Set.mem_singleton_iff] at first second
    omega
  have listed : ("helper".toList, 0x42000020) ∈ namedAddresses (listedLines tables helperFirmware) := by
    rw [namedAddresses_listedLines fun row held => plainName_of_isPlain
      (isPlain_helperFirmware row held), rowAddresses_helperFirmware]
    decide
  obtain ⟨address, binds⟩ : ∃ address, BindsTo (namedAddresses (listedLines tables helperFirmware))
      (namedAddresses (listedLines tables rom)) "helper".toList address :=
    exists_bindsTo (.inl listed)
  have start := (Program.start_init accepted).mpr binds
  -- One name has one entry in the table of names, so it gives one start.
  have single : ∀ other, other ∈ program.starts (isNamed "helper".toList) ↔ other = address := by
    intro other
    rw [Program.mem_starts]
    constructor
    · rintro ⟨name, good, bound⟩
      obtain rfl := eq_of_beq good
      exact Option.some.inj (bound.symm.trans start)
    · rintro rfl
      exact ⟨_, by decide, start⟩
  obtain ⟨fn, found, -⟩ := Program.one_of_unique (Program.consistent_init accepted) single
  cases found.symm.trans refused

end AxolotyEmbedded.FirstInit
