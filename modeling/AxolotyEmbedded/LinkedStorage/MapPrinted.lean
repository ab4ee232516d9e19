import AxolotyEmbedded.LinkedStorage.Map

/-!
The printed form of a map: output headers and input rows on one line or on two, padding rows,
and the names without a range that stand between the outputs, with what each pattern of
`parse_map` finds on each line of them.
-/
namespace AxolotyEmbedded.LinkedStorage

open PythonText

/-! ## What is printed -/

/-- The name of a section, output or input. -/
structure SectionName where
  text : Str
  dotted : text.head? = some '.'
  solid : ∀ c ∈ text, isSpace c = false

/-- The object a row belongs to. -/
structure Owner where
  text : Str
  first : ∀ c ∈ text.head?, isSpace c = false
  last : ∀ c ∈ text.getLast?, isSpace c = false

/-- A number, with the zeros before it. -/
structure PrintedNumber where
  zeros : Nat
  value : Nat

def PrintedNumber.text (number : PrintedNumber) : Str :=
  '0' :: 'x' :: (List.replicate number.zeros '0' ++ hexText number.value)

/-- One blank and so many more. -/
def blanks (more : Nat) : Str := ' ' :: List.replicate more ' '

/-- An address and a size, each after its blanks. -/
structure PrintedRange where
  indent : Nat
  address : PrintedNumber
  gap : Nat
  size : PrintedNumber

def PrintedRange.text (range : PrintedRange) : Str :=
  blanks range.indent ++ (range.address.text ++ (blanks range.gap ++ range.size.text))

/-- Whether a record is broken after its name. -/
inductive RecordLayout where
  | oneLine
  | twoLines
  deriving DecidableEq

def RecordLayout.lines (layout : RecordLayout) (name rest : Str) : List Str :=
  match layout with
  | .oneLine => [name ++ rest]
  | .twoLines => [name, rest]

inductive PrintedRow where
  | input (layout : RecordLayout) (indent : Nat) (name : SectionName) (range : PrintedRange)
      (gap : Nat) (owner : Owner)
  | fill (indent : Nat) (range : PrintedRange)

namespace PrintedRow

def lines : PrintedRow → List Str
  | input layout indent name range gap owner =>
      layout.lines (blanks indent ++ name.text) (range.text ++ (blanks gap ++ owner.text))
  | fill indent range => [blanks indent ++ (fillName ++ range.text)]

/-- Neither the bare name of a dot nor an owner that does not stand on one line is read. -/
def Readable : PrintedRow → Prop
  | input _ _ name _ _ owner =>
      name.text ≠ ['.'] ∧ owner.text ≠ [] ∧ ∀ c ∈ owner.text, isLineBreak c = false
  | fill _ _ => True

/-- The row of the map that is printed. -/
def item : PrintedRow → MapInput
  | input _ _ name range _ owner =>
      ⟨name.text, range.address.value, range.size.value, owner.text⟩
  | fill _ range =>
      ⟨fillName, range.address.value, range.size.value, "linker padding".toList⟩

/-- An input row of the object; padding belongs to none. -/
def isOwnedBy (identity : Str) : PrintedRow → Bool
  | input _ _ _ _ _ owner => owner.text == identity
  | fill _ _ => false

end PrintedRow

/-- An output section after the names without a range that are printed before it. -/
structure PrintedSection where
  debugNames : List SectionName
  layout : RecordLayout
  name : SectionName
  range : PrintedRange
  rows : List PrintedRow

namespace PrintedSection

variable (printed : PrintedSection)

def lines : List Str :=
  printed.debugNames.map SectionName.text ++
    (printed.layout.lines printed.name.text printed.range.text ++
      printed.rows.flatMap PrintedRow.lines)

/-- The output section that is printed. -/
def output : MapOutput :=
  ⟨printed.name.text, printed.range.address.value, printed.range.size.value,
    printed.rows.map PrintedRow.item⟩

/-- The header that no pattern matches: a dot alone on the first of two lines. -/
def isBare : Bool := printed.layout == .twoLines && printed.name.text == ['.']

/-- Whether a name without a range is still pending at the first row: a header on two lines
takes its place, a header on one line leaves it. -/
def isPending (before : Bool) : Bool :=
  match printed.layout with
  | .oneLine => printed.debugNames.foldl (fun _ name => name.text != ['.']) before
  | .twoLines => false

/-- The output section as `parse_map` reads it: with a name pending it has no rows. -/
def readOutput (before : Bool) : MapOutput :=
  ⟨printed.name.text, printed.range.address.value, printed.range.size.value,
    if printed.isPending before then [] else printed.rows.map PrintedRow.item⟩

theorem readOutput_eq_output {before : Bool} :
    printed.readOutput before = printed.output ↔
      (!printed.isPending before || printed.rows.isEmpty) = true := by
  rw [readOutput, output, MapOutput.mk.injEq]
  cases printed.isPending before with
  | false => simp
  | true => simp

end PrintedSection

def readBack : Bool → List PrintedSection → List MapOutput
  | _, [] => []
  | before, printed :: sections =>
      printed.readOutput before ::
        readBack (printed.isPending before && printed.rows.isEmpty) sections

/-- Whether a name is pending after the sections. -/
def pendingAfter (before : Bool) (sections : List PrintedSection) : Bool :=
  sections.foldl (fun before printed => printed.isPending before && printed.rows.isEmpty) before

/-- No row follows a pending name, and no name is pending at the end. -/
def noneLost : Bool → List PrintedSection → Bool
  | pending, [] => !pending
  | before, printed :: sections =>
      (!printed.isPending before || printed.rows.isEmpty) &&
        noneLost (printed.isPending before && printed.rows.isEmpty) sections

/-- What the layout must keep for the map to be read back. -/
structure Readable (sections : List PrintedSection) : Prop where
  headers : ∀ printed ∈ sections, printed.isBare = false
  rows : ∀ printed ∈ sections, ∀ row ∈ printed.rows, row.Readable
  pending : noneLost false sections = true

/-- The text of a map, a line break after every line. -/
def mapText (sections : List PrintedSection) : Str :=
  endedLines (sections.flatMap PrintedSection.lines)

theorem noneLost_iff {before : Bool} {sections : List PrintedSection} :
    noneLost before sections = true ↔
      readBack before sections = sections.map PrintedSection.output ∧
        pendingAfter before sections = false := by
  induction sections generalizing before with
  | nil => simp [noneLost, readBack, pendingAfter]
  | cons printed sections ih =>
      have after : pendingAfter before (printed :: sections) =
          pendingAfter (printed.isPending before && printed.rows.isEmpty) sections := rfl
      rw [noneLost, Bool.and_eq_true, ← PrintedSection.readOutput_eq_output, ih, readBack,
        List.map_cons, List.cons.injEq, after, and_assoc]

/-! ## Runs of one class of characters -/

section Runs

variable {p : Char → Bool} {part rest : Str}

theorem takeWhile_run (run : ∀ c ∈ part, p c = true) (stop : ∀ c ∈ rest.head?, p c = false) :
    (part ++ rest).takeWhile p = part := by
  rw [List.takeWhile_append_of_pos run]
  cases rest with
  | nil => simp
  | cons c rest => simp [stop c rfl]

theorem dropWhile_run (run : ∀ c ∈ part, p c = true) (stop : ∀ c ∈ rest.head?, p c = false) :
    (part ++ rest).dropWhile p = rest := by
  rw [List.dropWhile_append_of_pos run]
  cases rest with
  | nil => rfl
  | cons c rest => simp [stop c rfl]

/-- A test that no character of a text passes, from its evaluation. -/
theorem fails_of_all (none : part.all (fun c => !p c) = true) : ∀ c ∈ part, p c = false :=
  fun c held => by simpa using List.all_eq_true.mp none c held

end Runs

theorem isSpace_of_mem_blanks {more : Nat} {c : Char} (held : c ∈ blanks more) :
    isSpace c = true := by
  obtain rfl | later := List.mem_cons.mp held
  · decide
  · obtain rfl := List.eq_of_mem_replicate later
    decide

/-- A line break is a blank. -/
theorem isSpace_of_isLineBreak {c : Char} (breaks : isLineBreak c = true) : isSpace c = true := by
  simp only [isLineBreak, isSpace, Bool.or_eq_true, Bool.and_eq_true, decide_eq_true_eq,
    beq_iff_eq] at breaks ⊢
  omega

theorem isSpace_of_isHex {c : Char} (hex : isHex c = true) : isSpace c = false := by
  have bounds : 0x30 ≤ c.toNat ∧ c.toNat ≤ 0x66 := by
    simp only [isHex, Bool.or_eq_true, Bool.and_eq_true, decide_eq_true_eq, Char.le_def,
      UInt32.le_iff_toNat_le] at hex
    change 0x30 ≤ c.val.toNat ∧ c.val.toNat ≤ 0x66
    have digits : '0'.val.toNat = 0x30 ∧ '9'.val.toNat = 0x39 ∧ 'a'.val.toNat = 0x61 ∧
        'f'.val.toNat = 0x66 ∧ 'A'.val.toNat = 0x41 ∧ 'F'.val.toNat = 0x46 := by decide
    omega
  simp only [isSpace, Bool.or_eq_false_iff, Bool.and_eq_false_iff, decide_eq_false_iff_not,
    beq_eq_false_iff_ne]
  omega

/-! ## Printed lines are lines -/

theorem unbroken_of_solid {c : Char} (solid : isSpace c = false) : isLineBreak c = false := by
  cases breaks : isLineBreak c with
  | false => rfl
  | true => exact (isSpace_of_isLineBreak breaks).symm.trans solid

theorem unbroken_blanks {more : Nat} {c : Char} (held : c ∈ blanks more) :
    isLineBreak c = false := by
  obtain rfl | later := List.mem_cons.mp held
  · decide
  · obtain rfl := List.eq_of_mem_replicate later
    decide

theorem PrintedNumber.isHex_of_mem {number : PrintedNumber} {c : Char}
    (held : c ∈ List.replicate number.zeros '0' ++ hexText number.value) : isHex c = true := by
  obtain zero | digit := List.mem_append.mp held
  · obtain rfl := List.eq_of_mem_replicate zero
    decide
  · exact isHex_of_mem_hexText digit

theorem PrintedNumber.unbroken {number : PrintedNumber} {c : Char} (held : c ∈ number.text) :
    isLineBreak c = false := by
  obtain rfl | later := List.mem_cons.mp held
  · decide
  · obtain rfl | digit := List.mem_cons.mp later
    · decide
    · exact unbroken_of_solid (isSpace_of_isHex (isHex_of_mem digit))

theorem PrintedRange.unbroken {range : PrintedRange} {c : Char} (held : c ∈ range.text) :
    isLineBreak c = false := by
  simp only [PrintedRange.text, List.mem_append] at held
  obtain indent | address | gap | size := held
  · exact unbroken_blanks indent
  · exact PrintedNumber.unbroken address
  · exact unbroken_blanks gap
  · exact PrintedNumber.unbroken size

theorem RecordLayout.mem_of_mem_lines {layout : RecordLayout} {name rest line : Str} {c : Char}
    (held : line ∈ layout.lines name rest) (inside : c ∈ line) : c ∈ name ∨ c ∈ rest := by
  cases layout with
  | oneLine =>
      obtain rfl := List.mem_singleton.mp held
      exact List.mem_append.mp inside
  | twoLines =>
      obtain rfl | second := List.mem_cons.mp held
      · exact .inl inside
      · obtain rfl := List.mem_singleton.mp second
        exact .inr inside

theorem PrintedRow.unbroken {row : PrintedRow} (readable : row.Readable) {line : Str}
    (held : line ∈ row.lines) {c : Char} (inside : c ∈ line) : isLineBreak c = false := by
  cases row with
  | input layout indent name range gap owner =>
      obtain ⟨-, -, owned⟩ := readable
      have parts := RecordLayout.mem_of_mem_lines held inside
      simp only [List.mem_append] at parts
      obtain (before | word) | found | after | last := parts
      · exact unbroken_blanks before
      · exact unbroken_of_solid (name.solid c word)
      · exact PrintedRange.unbroken found
      · exact unbroken_blanks after
      · exact owned c last
  | fill indent range =>
      obtain rfl := List.mem_singleton.mp held
      simp only [List.mem_append] at inside
      obtain before | word | found := inside
      · exact unbroken_blanks before
      · exact fails_of_all (by decide) c word
      · exact PrintedRange.unbroken found

theorem PrintedSection.unbroken {printed : PrintedSection}
    (readable : ∀ row ∈ printed.rows, row.Readable) {line : Str} (held : line ∈ printed.lines)
    {c : Char} (inside : c ∈ line) : isLineBreak c = false := by
  simp only [PrintedSection.lines, List.mem_append, List.mem_map, List.mem_flatMap] at held
  obtain ⟨name, -, rfl⟩ | header | ⟨row, mine, found⟩ := held
  · exact unbroken_of_solid (name.solid c inside)
  · obtain word | extent := RecordLayout.mem_of_mem_lines header inside
    · exact unbroken_of_solid (printed.name.solid c word)
    · exact PrintedRange.unbroken extent
  · exact PrintedRow.unbroken (readable row mine) found inside

/-! ## The patterns on printed parts -/

section Parts

variable {more : Nat} {rest : Str}

theorem afterBlanks_blanks (stop : ∀ c ∈ rest.head?, isSpace c = false) :
    afterBlanks (blanks more ++ rest) = some rest := by
  have run : ∀ c ∈ List.replicate more ' ', isSpace c = true := by
    intro c held
    obtain rfl := List.eq_of_mem_replicate held
    decide
  change (if isSpace ' ' then some ((List.replicate more ' ' ++ rest).dropWhile isSpace)
    else none) = _
  rw [if_pos (by decide), dropWhile_run run stop]

theorem afterBlanks_eq_none (start : ∀ c ∈ rest.head?, isSpace c = false) :
    afterBlanks rest = none := by
  cases rest with
  | nil => rfl
  | cons c rest => simp [afterBlanks, start c rfl]

theorem hexNumber_text (number : PrintedNumber) (stop : ∀ c ∈ rest.head?, isHex c = false) :
    hexNumber (number.text ++ rest) = some (number.value, rest) := by
  have run : ∀ c ∈ List.replicate number.zeros '0' ++ hexText number.value, isHex c = true :=
    fun _ => PrintedNumber.isHex_of_mem
  have some_digit : (List.replicate number.zeros '0' ++ hexText number.value).isEmpty = false := by
    simp [hexText_ne_nil]
  rw [PrintedNumber.text, List.cons_append, List.cons_append, hexNumber, takeWhile_run run stop,
    dropWhile_run run stop, if_neg (by simp [some_digit]), hexValue_replicate_append,
    hexValue_hexText]

theorem addressSize_text (range : PrintedRange) (stop : ∀ c ∈ rest.head?, isHex c = false) :
    addressSize (range.text ++ rest) = some (range.address.value, range.size.value, rest) := by
  have inner : ∀ c ∈ (blanks range.gap ++ (range.size.text ++ rest)).head?, isHex c = false := by
    rintro c ⟨⟩
    decide
  have zero : ∀ (number : PrintedNumber) (rest : Str),
      ∀ c ∈ (number.text ++ rest).head?, isSpace c = false := by
    rintro number rest c ⟨⟩
    decide
  simp only [addressSize, PrintedRange.text, List.append_assoc, Option.bind_eq_bind,
    afterBlanks_blanks (zero _ _), Option.bind_some, hexNumber_text range.address inner,
    hexNumber_text range.size stop]
  rfl

theorem addressSize_eq_none (stop : ∀ c ∈ rest.head?, isSpace c = false ∧ c ≠ '0') :
    addressSize (blanks more ++ rest) = none := by
  have no_number : hexNumber rest = none := by
    cases rest with
    | nil => rfl
    | cons c rest =>
        rw [hexNumber]
        rintro line ⟨⟩
        exact (stop '0' rfl).2 rfl
  simp only [addressSize, afterBlanks_blanks fun c held => (stop c held).1, Option.bind_eq_bind,
    Option.bind_some, no_number, Option.bind_none]

theorem sectionName_text {name : SectionName} (long : name.text ≠ ['.'])
    (stop : ∀ c ∈ rest.head?, isSpace c = true) :
    sectionName (name.text ++ rest) = some (name.text, rest) := by
  obtain ⟨text, dotted, solid⟩ := name
  cases text with
  | nil => cases dotted
  | cons c text =>
      obtain rfl := Option.some.inj dotted
      have run : ∀ c ∈ text, (!isSpace c) = true := fun c held => by
        simp [solid c (List.mem_cons_of_mem _ held)]
      have stopped : ∀ c ∈ rest.head?, (!isSpace c) = false := fun c held => by
        simp [stop c held]
      have some_more : text ≠ [] := fun nothing =>
        long (congrArg (List.cons '.') nothing)
      rw [List.cons_append, sectionName, takeWhile_run run stopped, dropWhile_run run stopped,
        if_neg (by simpa using some_more)]

theorem sectionName_eq_none (start : ∀ c ∈ rest.head?, c ≠ '.') : sectionName rest = none := by
  cases rest with
  | nil => rfl
  | cons c rest =>
      rw [sectionName]
      rintro line ⟨⟩
      exact start '.' rfl rfl

theorem owner_text {owned : Owner} (some_owner : owned.text ≠ []) :
    owner (blanks more ++ owned.text) = some owned.text := by
  have run : ∀ c ∈ blanks more, isSpace c = true := fun _ => isSpace_of_mem_blanks
  have last : (owned.text.reverse.dropWhile isSpace).reverse = owned.text := by
    have stop : ∀ c ∈ owned.text.reverse.head?, isSpace c = false := by
      rw [List.head?_reverse]
      exact owned.last
    have whole : ([] ++ owned.text.reverse).dropWhile isSpace = owned.text.reverse :=
      dropWhile_run (by simp) stop
    rw [List.nil_append] at whole
    rw [whole, List.reverse_reverse]
  rw [owner, takeWhile_run run owned.first, dropWhile_run run owned.first]
  cases shape : owned.text with
  | nil => exact absurd shape some_owner
  | cons c text =>
      rw [shape] at last
      cases more with
      | zero => exact congrArg some last
      | succ more => exact congrArg some last

end Parts

/-! ## The patterns on printed lines -/

section Lines

variable {name : SectionName} {range : PrintedRange} {owned : Owner} {more gap : Nat} {rest : Str}

theorem SectionName.head_append (name : SectionName) (rest : Str) :
    ∀ c ∈ (name.text ++ rest).head?, c = '.' := by
  obtain ⟨text, dotted, solid⟩ := name
  cases text with
  | nil => cases dotted
  | cons c text =>
      obtain rfl := Option.some.inj dotted
      rintro c ⟨⟩
      rfl

@[simp] theorem outSection_blanks : outSection (blanks more ++ rest) = none := rfl

@[simp] theorem outNameOnly_blanks : outNameOnly (blanks more ++ rest) = none := rfl

theorem outContinuation_eq_none (start : ∀ c ∈ rest.head?, isSpace c = false) :
    outContinuation rest = none := by
  simp only [outContinuation, addressSize, afterBlanks_eq_none start, Option.bind_eq_bind,
    Option.bind_none]

/-- The parentheses keep `rfl` from being tried again with the continuation unfolded. -/
theorem outSectionFrom_cons (head line : Str) (c : Char) :
    outSectionFrom head (c :: line) =
      match outContinuation (c :: line) with
      | some (address, size) => some (head.reverse, address, size)
      | none => outSectionFrom (c :: head) line := (rfl)

theorem outSectionFrom_of_none {head line : Str} {c : Char}
    (missed : outContinuation (c :: line) = none) :
    outSectionFrom head (c :: line) = outSectionFrom (c :: head) line := by
  rw [outSectionFrom_cons, missed]

theorem outSectionFrom_of_some {head line : Str} {c : Char} {found : Nat × Nat}
    (read : outContinuation (c :: line) = some found) :
    outSectionFrom head (c :: line) = some (head.reverse, found.1, found.2) := by
  rw [outSectionFrom_cons, read]

/-- No range starts inside a word. -/
theorem outSectionFrom_word {head word : Str} (solid : ∀ c ∈ word, isSpace c = false) :
    outSectionFrom head (word ++ rest) = outSectionFrom (word.reverse ++ head) rest := by
  induction word generalizing head with
  | nil => rfl
  | cons c word ih =>
      have start : ∀ d ∈ (c :: (word ++ rest)).head?, isSpace d = false := by
        intro d held
        obtain rfl := Option.some.inj held
        exact solid c List.mem_cons_self
      rw [List.cons_append, outSectionFrom_of_none (outContinuation_eq_none start),
        ih fun d held => solid d (List.mem_cons_of_mem _ held), List.reverse_cons,
        List.append_assoc, List.singleton_append]

theorem outContinuation_range :
    outContinuation range.text = some (range.address.value, range.size.value) := by
  have read : addressSize (range.text ++ []) = _ := addressSize_text range (by simp)
  rw [List.append_nil] at read
  simp only [outContinuation, read, Option.bind_eq_bind, Option.bind_some]
  rfl

theorem outSection_name_append :
    outSection (name.text ++ rest) = outSectionFrom name.text.reverse rest := by
  obtain ⟨text, dotted, solid⟩ := name
  cases text with
  | nil => cases dotted
  | cons c text =>
      have word : outSectionFrom [c] (text ++ rest) = _ :=
        outSectionFrom_word fun d held => solid d (List.mem_cons_of_mem _ held)
      rw [List.cons_append, outSection, if_neg (by simp [solid c]), word, List.reverse_cons]

theorem outSection_header :
    outSection (name.text ++ range.text) =
      some (name.text, range.address.value, range.size.value) := by
  have found : outSectionFrom name.text.reverse range.text = _ :=
    outSectionFrom_of_some outContinuation_range
  rw [outSection_name_append, found, List.reverse_reverse]

theorem outSection_name : outSection name.text = none := by
  have shown : outSection (name.text ++ []) = _ := outSection_name_append
  rw [List.append_nil] at shown
  rw [shown]
  rfl

theorem outContinuation_name : outContinuation name.text = none := by
  refine outContinuation_eq_none ?_
  rw [name.dotted]
  rintro c ⟨⟩
  decide

theorem outNameOnly_name (long : name.text ≠ ['.']) : outNameOnly name.text = some name.text := by
  have read : sectionName (name.text ++ []) = _ := sectionName_text long (by simp)
  rw [List.append_nil] at read
  simp only [outNameOnly, read, Option.bind_eq_bind, Option.bind_some]
  rfl

/-- What is indented is no range unless its first word is a number. -/
theorem outContinuation_indented (stop : ∀ c ∈ rest.head?, isSpace c = false ∧ c ≠ '0') :
    outContinuation (blanks more ++ rest) = none := by
  simp only [outContinuation, addressSize_eq_none stop, Option.bind_eq_bind, Option.bind_none]

theorem SectionName.stops (name : SectionName) (rest : Str) :
    ∀ c ∈ (name.text ++ rest).head?, isSpace c = false ∧ c ≠ '0' := by
  intro c held
  rw [name.head_append rest c held]
  decide

theorem Owner.stops (owned : Owner) (gap : Nat) :
    ∀ c ∈ (blanks gap ++ owned.text).head?, isHex c = false := by
  rintro c ⟨⟩
  decide

theorem outContinuation_owned (some_owner : owned.text ≠ []) :
    outContinuation (range.text ++ (blanks gap ++ owned.text)) = none := by
  have words : ¬(blanks gap ++ owned.text).all isSpace = true := by
    intro blank
    cases shape : owned.text with
    | nil => exact some_owner shape
    | cons c text =>
        have solid := owned.first c (by rw [shape]; rfl)
        have space := List.all_eq_true.mp blank c (by simp [shape])
        rw [solid] at space
        cases space
  simp only [outContinuation, addressSize_text range (owned.stops gap), Option.bind_eq_bind,
    Option.bind_some, if_neg words]

theorem inputContinuation_owned (some_owner : owned.text ≠ []) :
    inputContinuation (range.text ++ (blanks gap ++ owned.text)) =
      some (range.address.value, range.size.value, owned.text) := by
  simp only [inputContinuation, addressSize_text range (owned.stops gap), Option.bind_eq_bind,
    Option.bind_some, owner_text some_owner]
  rfl

theorem input_owned (long : name.text ≠ ['.']) (some_owner : owned.text ≠ []) :
    input (blanks more ++ name.text ++ (range.text ++ (blanks gap ++ owned.text))) =
      some ⟨name.text, range.address.value, range.size.value, owned.text⟩ := by
  have next : ∀ c ∈ (range.text ++ (blanks gap ++ owned.text)).head?, isSpace c = true := by
    rintro c ⟨⟩
    decide
  simp only [input, List.append_assoc, afterBlanks_blanks fun c held => (name.stops _ c held).1,
    Option.bind_eq_bind, Option.bind_some, sectionName_text long next,
    inputContinuation_owned some_owner]
  rfl

theorem afterBlanks_name : afterBlanks (blanks more ++ name.text) = some name.text := by
  have stops := name.stops []
  rw [List.append_nil] at stops
  exact afterBlanks_blanks fun c held => (stops c held).1

theorem input_name (long : name.text ≠ ['.']) : input (blanks more ++ name.text) = none := by
  have read : sectionName (name.text ++ []) = _ := sectionName_text long (by simp)
  rw [List.append_nil] at read
  simp only [input, afterBlanks_name, Option.bind_eq_bind, Option.bind_some, read]
  rfl

theorem inputNameOnly_name (long : name.text ≠ ['.']) :
    inputNameOnly (blanks more ++ name.text) = some name.text := by
  simp only [inputNameOnly, afterBlanks_name, Option.bind_eq_bind, Option.bind_some,
    outNameOnly_name long]

section Undotted

variable (stop : ∀ c ∈ rest.head?, isSpace c = false ∧ c ≠ '.')
include stop

theorem input_undotted : input (blanks more ++ rest) = none := by
  have unnamed := sectionName_eq_none fun c held => (stop c held).2
  simp only [input, afterBlanks_blanks fun c held => (stop c held).1, Option.bind_eq_bind,
    Option.bind_some, unnamed, Option.bind_none]

theorem inputNameOnly_undotted : inputNameOnly (blanks more ++ rest) = none := by
  have unnamed := sectionName_eq_none fun c held => (stop c held).2
  simp only [inputNameOnly, outNameOnly, afterBlanks_blanks fun c held => (stop c held).1,
    Option.bind_eq_bind, Option.bind_some, unnamed, Option.bind_none]

end Undotted

theorem fillName_stops :
    ∀ c ∈ (fillName ++ rest).head?, isSpace c = false ∧ c ≠ '.' ∧ c ≠ '0' := by
  rintro c ⟨⟩
  decide

theorem fill_range :
    fill (blanks more ++ (fillName ++ range.text)) =
      some (range.address.value, range.size.value) := by
  have named : fillName.isPrefixOf (fillName ++ range.text) = true :=
    List.isPrefixOf_iff_prefix.mpr (List.prefix_append _ _)
  simp only [fill, afterBlanks_blanks fun c held => (fillName_stops c held).1,
    Option.bind_eq_bind, Option.bind_some, if_pos named, List.drop_left,
    outContinuation_range]

theorem PrintedRange.stops (range : PrintedRange) :
    ∀ c ∈ (range.address.text ++ (blanks range.gap ++ range.size.text)).head?,
      isSpace c = false ∧ c ≠ '.' := by
  rintro c ⟨⟩
  decide

theorem fill_range_alone (range : PrintedRange) : fill range.text = none := by
  have other : fillName.isPrefixOf
      (range.address.text ++ (blanks range.gap ++ range.size.text)) = false := rfl
  simp only [fill, PrintedRange.text, afterBlanks_blanks fun c held => (range.stops c held).1,
    Option.bind_eq_bind, Option.bind_some, other]
  rfl

end Lines

end AxolotyEmbedded.LinkedStorage
