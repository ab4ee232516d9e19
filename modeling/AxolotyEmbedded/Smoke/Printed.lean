import AxolotyEmbedded.Smoke.Emitter
import AxolotyEmbedded.Smoke.ValidatorSteps

/-!
What the validator reads on the lines the firmware prints: the line of a record parses
to its members, the two checksums agree on it, and no fatal fragment appears on it that
is not in one of its texts.
-/
namespace AxolotyEmbedded.Smoke.Firmware

/-! ### Parsing -/

def Printed.value : Printed → JsValue
  | .uint value => .num (.finite value.toNat)
  | .string value => .str value
  | .object members => .obj (members.map fun m => (m.1, .num (.finite m.2.toNat)))

/-- The record of a line. -/
def recordOf (members : Members) : JsValue := .obj (members.map fun m => (m.1, m.2.value))

/-- The texts of a value need no escape, and an object is not empty. -/
def Printed.Plain : Printed → Prop
  | .uint _ => True
  | .string value => Json.Plain value
  | .object members => members ≠ [] ∧ ∀ m ∈ members, Json.Plain m.1

def PlainMembers (members : Members) : Prop := ∀ m ∈ members, Json.Plain m.1 ∧ m.2.Plain

theorem readsAs_uint (value : BitVec 32) :
    Json.ReadsAs Numeral.toBinary64 (Json.decimal value.toNat)
      (.num (.finite value.toNat)) := by
  have exact : Numeral.toBinary64 (.integer value.toNat) = .finite value.toNat := by
    have bound : value.toNat < 2 ^ 53 := lt_trans value.isLt (by norm_num)
    simpa [Numeral.toBinary64, Numeral.value] using Binary64.nearest_natCast bound
  rw [← exact]
  exact Json.readsAs_decimal Numeral.toBinary64 value.toNat

theorem Printed.readsAs {printed : Printed} (plain : printed.Plain) :
    Json.ReadsAs Numeral.toBinary64 printed.text printed.value := by
  cases printed with
  | uint value => exact readsAs_uint value
  | string value => exact Json.readsAs_quoted _ plain
  | object members =>
      refine Json.readsAs_braces ?_ (by simpa using plain.1)
      rw [Json.MembersRead, List.forall₂_map_left_iff, List.forall₂_map_right_iff,
        List.forall₂_same]
      exact fun m member => ⟨rfl, plain.2 m member, readsAs_uint m.2⟩

/-- The line of a record is JSON text of the record. -/
theorem jsonParse_line {members : Members} (plain : PlainMembers members)
    (nonempty : members ≠ []) : jsonParse (line members) = some (recordOf members) := by
  refine Json.parse_of_readsAs (Json.readsAs_braces ?_ (by simpa using nonempty))
  rw [Json.MembersRead, List.forall₂_map_left_iff, List.forall₂_map_right_iff,
    List.forall₂_same]
  exact fun m member => ⟨rfl, (plain m member).1, Printed.readsAs (plain m member).2⟩

theorem isRecordLine_line (members : Members) : isRecordLine (line members) = true := rfl

/-! ### Fields -/

/-- The names of the members after the prefix. -/
def extraNames : List Text :=
  [text "counts", text "finalChecksum", text "diagnostic", text "metrics"]

def ExtraMembers (extra : Members) : Prop := ∀ m ∈ extra, m.1 ∈ extraNames

theorem field_append_right {name : Text} {members extra : Members}
    (absent : ∀ m ∈ members, m.1 ≠ name) :
    (recordOf (members ++ extra)).field name = (recordOf extra).field name := by
  have missing : ((members.map fun m => (m.1, m.2.value)).reverse).lookup name = none := by
    rw [List.lookup_eq_none_iff]
    intro p member
    obtain ⟨m, among, rfl⟩ := List.mem_map.mp (List.mem_reverse.mp member)
    simpa using fun same => absent m among same.symm
  simp only [recordOf, Json.field, List.map_append, List.reverse_append, List.lookup_append, missing,
    Option.or_none]

theorem field_append_left {name : Text} {members extra : Members}
    (absent : ∀ m ∈ extra, m.1 ≠ name) :
    (recordOf (members ++ extra)).field name = (recordOf members).field name := by
  have missing : ((extra.map fun m => (m.1, m.2.value)).reverse).lookup name = none := by
    rw [List.lookup_eq_none_iff]
    intro p member
    obtain ⟨m, among, rfl⟩ := List.mem_map.mp (List.mem_reverse.mp member)
    simpa using fun same => absent m among same.symm
  simp only [recordOf, Json.field, List.map_append, List.reverse_append, List.lookup_append, missing,
    Option.none_or]

section

variable {runId caseId operation stage status : Text} {sequence own : BitVec 32} {extra : Members}

/-- The value printed under a name of the prefix. -/
def prefixField (runId caseId operation stage status : Text) (sequence own : BitVec 32)
    (name : Text) : Option JsValue :=
  (recordOf (printPrefix runId caseId operation stage status sequence own)).field name

@[simp] theorem prefixField_schemaVersion :
    prefixField runId caseId operation stage status sequence own (text "schemaVersion") =
      some (.num (.finite schemaVersion.toNat)) := rfl

@[simp] theorem prefixField_runId :
    prefixField runId caseId operation stage status sequence own (text "runId") =
      some (.str runId) := rfl

@[simp] theorem prefixField_sequence :
    prefixField runId caseId operation stage status sequence own (text "sequence") =
      some (.num (.finite sequence.toNat)) := rfl

@[simp] theorem prefixField_caseId :
    prefixField runId caseId operation stage status sequence own (text "caseId") =
      some (.str caseId) := rfl

@[simp] theorem prefixField_operation :
    prefixField runId caseId operation stage status sequence own (text "operation") =
      some (.str operation) := rfl

@[simp] theorem prefixField_stage :
    prefixField runId caseId operation stage status sequence own (text "stage") =
      some (.str stage) := rfl

@[simp] theorem prefixField_status :
    prefixField runId caseId operation stage status sequence own (text "status") =
      some (.str status) := rfl

@[simp] theorem prefixField_checksum :
    prefixField runId caseId operation stage status sequence own (text "checksum") =
      some (.num (.finite own.toNat)) := rfl

/-- The members of the prefix are what the validator reads under their names. -/
theorem field_append_prefixed (named : ExtraMembers extra) {name : Text} (other : name ∉ extraNames) :
    (recordOf (printPrefix runId caseId operation stage status sequence own ++ extra)).field name =
      prefixField runId caseId operation stage status sequence own name :=
  field_append_left fun m member same => other (same ▸ named m member)

theorem field_extra {name : Text} (other : name ∈ extraNames) :
    (recordOf (printPrefix runId caseId operation stage status sequence own ++ extra)).field name =
      (recordOf extra).field name := by
  refine field_append_right fun m member same => ?_
  have unnamed : ∀ m ∈ printPrefix runId caseId operation stage status sequence own,
      m.1 ∉ extraNames := by
    simp only [printPrefix, List.forall_mem_cons]
    decide
  exact unnamed m member (same ▸ other)

theorem caseIdOf_record (named : ExtraMembers extra) :
    caseIdOf (recordOf (printPrefix runId caseId operation stage status sequence own ++ extra)) =
      caseId := by
  rw [caseIdOf, field_append_prefixed named (by decide), prefixField_caseId, textOf]

theorem reports_record (named : ExtraMembers extra) :
    Reports (recordOf (printPrefix runId caseId operation stage status sequence own ++ extra))
      operation stage status := by
  simp only [Reports, isText_iff]
  rw [field_append_prefixed named (by decide), field_append_prefixed named (by decide),
    field_append_prefixed named (by decide)]
  exact ⟨prefixField_operation, prefixField_stage, prefixField_status⟩

end

/-! ### The checksum -/

theorem mixText_ascii {value : Text} (ascii : Text.Ascii value) (hash : BitVec 32) :
    mixText hash value = mixStatic hash value := by
  rw [mixText, Text.utf8_ascii ascii, List.foldl_map]
  rfl

theorem mixUInt32_eq (hash value : BitVec 32) :
    Smoke.mixUInt32 hash value = mixUInt32 hash value := by
  simp only [Smoke.mixUInt32, List.foldl_cons, List.foldl_nil, BitVec.ushiftRight_zero]
  rfl

theorem toUint32_uint {convert : JsValue → Option (BitVec 32)} (value : BitVec 32) :
    toUint32 convert (some (.num (.finite value.toNat))) = some value := by
  simp [toUint32, Binary64.toUint32]

/-- The counts of a record as both sides mix them in, zero where it has none. -/
def Counted (record : JsValue) (passed failed unsupported : BitVec 32) : Prop :=
  count (text "passed") record = .num (.finite passed.toNat)
    ∧ count (text "failed") record = .num (.finite failed.toNat)
    ∧ count (text "unsupported") record = .num (.finite unsupported.toNat)

section

variable {convert : JsValue → Option (BitVec 32)} {runId caseId operation stage status : Text}
  {sequence own passed failed unsupported : BitVec 32} {extra : Members}

/-- The two checksums agree on every record of ASCII texts. -/
theorem checksum_record (named : ExtraMembers extra)
    (counted : Counted
      (recordOf (printPrefix runId caseId operation stage status sequence own ++ extra))
      passed failed unsupported)
    (asciiRun : Text.Ascii runId) (asciiCase : Text.Ascii caseId)
    (asciiOperation : Text.Ascii operation) (asciiStage : Text.Ascii stage)
    (asciiStatus : Text.Ascii status) (previous : BitVec 32) :
    checksum convert
        (recordOf (printPrefix runId caseId operation stage status sequence own ++ extra)) previous =
      some (nextChecksum runId caseId operation stage status previous sequence passed failed
        unsupported) := by
  obtain ⟨isPassed, isFailed, isUnsupported⟩ := counted
  rw [checksum, isPassed, isFailed, isUnsupported]
  rw [field_append_prefixed named (by decide), field_append_prefixed named (by decide),
    field_append_prefixed named (by decide), field_append_prefixed named (by decide),
    field_append_prefixed named (by decide), field_append_prefixed named (by decide),
    field_append_prefixed named (by decide)]
  simp only [prefixField_schemaVersion, prefixField_runId, prefixField_sequence, prefixField_caseId,
    prefixField_operation, prefixField_stage, prefixField_status, textOf, toUint32_uint,
    Option.bind_eq_bind, Option.bind_some, mixText_ascii asciiRun, mixText_ascii asciiCase,
    mixText_ascii asciiOperation, mixText_ascii asciiStage, mixText_ascii asciiStatus, mixUInt32_eq,
    isNumber_num]
  by_cases none_unsupported : unsupported = 0
  · simp [nextChecksum, none_unsupported]
  · have nonzero : ¬(unsupported.toNat : ℚ) = 0 := by
      rw [Nat.cast_eq_zero]
      exact fun zero => none_unsupported (BitVec.eq_of_toNat_eq zero)
    rw [if_neg nonzero, nextChecksum, if_pos none_unsupported]

/-- A printed record is the next one of the chain. -/
theorem linked_record (named : ExtraMembers extra) {previous : BitVec 32} {n : Nat}
    (counted : Counted
      (recordOf (printPrefix runId caseId operation stage status sequence own ++ extra))
      passed failed unsupported)
    (asciiRun : Text.Ascii runId) (asciiCase : Text.Ascii caseId)
    (asciiOperation : Text.Ascii operation) (asciiStage : Text.Ascii stage)
    (asciiStatus : Text.Ascii status) (position : sequence.toNat = n)
    (staged : stage ∈ recordStages)
    (computed : own = nextChecksum runId caseId operation stage status previous sequence passed
      failed unsupported) :
    Linked convert runId n previous
      (recordOf (printPrefix runId caseId operation stage status sequence own ++ extra)) own where
  object := rfl
  schema := by
    rw [field_append_prefixed named (by decide), prefixField_schemaVersion, isNumber_num]
    rfl
  run := by
    rw [field_append_prefixed named (by decide), prefixField_runId, isText_iff]
  position := by
    rw [field_append_prefixed named (by decide), prefixField_sequence, isNumber_num, position]
  caseId := by
    rw [field_append_prefixed named (by decide), prefixField_caseId, isString]
  operation := by
    rw [field_append_prefixed named (by decide), prefixField_operation, isString]
  stage := by
    rw [field_append_prefixed named (by decide), prefixField_stage, List.any_eq_true]
    exact ⟨stage, staged, isText_iff.mpr rfl⟩
  status := by
    rw [field_append_prefixed named (by decide), prefixField_status, isString]
  computed := by
    rw [checksum_record named counted asciiRun asciiCase asciiOperation asciiStage asciiStatus,
      computed]
  restated := by
    rw [field_append_prefixed named (by decide), prefixField_checksum, isNumber_num]

end

/-! ### Counts -/

theorem counted_of_none {record : JsValue} (missing : record.field (text "counts") = none) :
    Counted record 0 0 0 := by
  simp [Counted, count, missing, orZero]

theorem counts_value (e : Emitter) :
    ∃ printed, (counts e).2.value = printed
      ∧ printed.field (text "passed") = some (.num (.finite e.passed.toNat))
      ∧ printed.field (text "failed") = some (.num (.finite e.failed.toNat))
      ∧ printed.field (text "unsupported") =
        if e.unsupported ≠ 0 then some (.num (.finite e.unsupported.toNat)) else none := by
  refine ⟨_, rfl, ?_⟩
  by_cases none_unsupported : e.unsupported = 0
  · simp only [counts, none_unsupported, ne_eq, not_true_eq_false, if_false]
    exact ⟨rfl, rfl, rfl⟩
  · simp only [counts, none_unsupported, ne_eq, not_false_eq_true, if_true]
    exact ⟨rfl, rfl, rfl⟩

theorem counted_of_counts {record : JsValue} {e : Emitter}
    (given : record.field (text "counts") = some (counts e).2.value) :
    Counted record e.passed e.failed e.unsupported := by
  obtain ⟨printed, same, passed, failed, unsupported⟩ := counts_value e
  simp only [Counted, count, given, same, Option.bind_some, passed, failed, unsupported, orZero,
    true_and]
  by_cases none_unsupported : e.unsupported = 0
  · simp [none_unsupported]
  · rw [if_pos none_unsupported]

theorem counts_of_counts {record : JsValue} {e : Emitter} {passed failed unsupported : Nat}
    (given : record.field (text "counts") = some (counts e).2.value)
    (isPassed : e.passed.toNat = passed) (isFailed : e.failed.toNat = failed)
    (isUnsupported : e.unsupported.toNat = unsupported) :
    Counts record passed failed unsupported := by
  obtain ⟨printed, same, first, second, third⟩ := counts_value e
  simp only [Counts, given, same, Option.bind_some, first, second, third, isNumber_num, isPassed,
    isFailed, true_and]
  by_cases none_unsupported : e.unsupported = 0
  · refine .inr ⟨?_, by simp [none_unsupported]⟩
    rw [← isUnsupported, none_unsupported]
    rfl
  · refine .inl ?_
    rw [if_pos none_unsupported, isNumber_num, isUnsupported]

/-! ### Fatal fragments -/

def Quiet (t : Text) : Prop := isFatal t = false

instance (t : Text) : Decidable (Quiet t) := inferInstanceAs (Decidable (isFatal t = false))

theorem quiet_iff {t : Text} : Quiet t ↔ ∀ fragment ∈ fatalFragments, ¬fragment <:+: t := by
  simp [Quiet, isFatal]

theorem Quiet.infix {t u : Text} (quiet : Quiet u) (within : t <:+: u) : Quiet t := by
  rw [quiet_iff] at quiet ⊢
  exact fun fragment member inside => quiet fragment member (inside.trans within)

/-- What has no `t` has no fatal fragment. -/
theorem quiet_of_not_mem {t : Text} (absent : unit 't' ∉ t) : Quiet t := by
  rw [quiet_iff]
  intro fragment member inside
  have marked : ∀ fragment ∈ fatalFragments, unit 't' ∈ fragment := by decide
  exact absent (inside.subset (marked fragment member))

/-- A piece of a text lies on one side of a separator that it does not hold. -/
theorem infix_separated {piece before after : Text} {u : UInt16} (separates : u ∉ piece)
    (inside : piece <:+: before ++ u :: after) : piece <:+: before ∨ piece <:+: after := by
  obtain ⟨start, tail, whole⟩ := inside
  rw [List.append_assoc] at whole
  obtain ⟨middle, rfl, ends⟩ | ⟨middle, rfl, starts⟩ := List.append_eq_append_iff.mp whole
  · obtain ⟨gap, rfl, _⟩ | ⟨gap, rfl, crossing⟩ := List.append_eq_append_iff.mp ends
    · exact .inl ⟨start, gap, by simp⟩
    · cases gap with
      | nil => exact .inl ⟨start, [], by simp⟩
      | cons w gap =>
          rw [List.cons_append, List.cons.injEq] at crossing
          exact absurd (by simp [crossing.1]) separates
  · cases middle with
    | nil =>
        cases piece with
        | nil => exact .inl (List.nil_infix)
        | cons w piece =>
            rw [List.nil_append, List.cons_append, List.cons.injEq] at starts
            exact absurd (by simp [starts.1]) separates
    | cons w middle =>
        rw [List.cons_append, List.cons.injEq] at starts
        exact .inr ⟨middle, tail, by rw [starts.2, List.append_assoc]⟩

/-- No fatal fragment reaches across a separator that it does not hold. -/
theorem quiet_separated (before : Text) {after : Text} {u : UInt16}
    (separates : ∀ fragment ∈ fatalFragments, u ∉ fragment) (left : Quiet before)
    (right : Quiet after) : Quiet (before ++ u :: after) := by
  rw [quiet_iff] at left right ⊢
  intro fragment member inside
  cases infix_separated (separates fragment member) inside with
  | inl within => exact left fragment member within
  | inr within => exact right fragment member within

theorem quiet_enclosed {texts : List (Text × Text)}
    (members : ∀ m ∈ texts, Quiet m.1 ∧ Quiet (unit ':' :: m.2)) : Quiet (Json.enclosed texts) := by
  have member : ∀ {m : Text × Text} {rest : Text} {c : Char},
      (∀ fragment ∈ fatalFragments, unit c ∉ fragment) → Quiet m.1 ∧ Quiet (unit ':' :: m.2) →
        Quiet rest → Quiet (Json.quoted m.1 ++ unit ':' :: m.2 ++ unit c :: rest) := by
    intro m rest c separates parts after
    have whole : Json.quoted m.1 ++ unit ':' :: m.2 ++ unit c :: rest =
        [] ++ unit '"' :: (m.1 ++ unit '"' :: ((unit ':' :: m.2) ++ unit c :: rest)) := by
      simp [Json.quoted]
    rw [whole]
    exact quiet_separated [] (by decide) (by decide)
      (quiet_separated m.1 (by decide) parts.1 (quiet_separated _ separates parts.2 after))
  induction texts with
  | nil => decide
  | cons m others ih =>
      rw [List.forall_mem_cons] at members
      cases others with
      | nil => exact member (by decide) members.1 (by decide)
      | cons next others => exact member (by decide) members.1 (ih members.2)

theorem quiet_braces {texts : List (Text × Text)}
    (members : ∀ m ∈ texts, Quiet m.1 ∧ Quiet (unit ':' :: m.2)) : Quiet (Json.braces texts) :=
  quiet_separated [] (by decide) (by decide) (quiet_enclosed members)

theorem quiet_decimal (n : Nat) : Quiet (unit ':' :: Json.decimal n) := by
  refine quiet_of_not_mem fun member => ?_
  cases List.mem_cons.mp member with
  | inl colon => exact absurd colon (by decide)
  | inr digit => exact absurd (Json.isDigit_of_mem_decimal digit) (by decide)

/-- The strings of a value hold no fatal fragment, and neither do the names in it. -/
def Printed.Quiet : Printed → Prop
  | .uint _ => True
  | .string value => Firmware.Quiet value
  | .object members => ∀ m ∈ members, Firmware.Quiet m.1

theorem Printed.quiet_text {printed : Printed} (quiet : printed.Quiet) :
    Firmware.Quiet (unit ':' :: printed.text) := by
  cases printed with
  | uint value => exact quiet_decimal value.toNat
  | string value =>
      exact quiet_separated [unit ':'] (by decide) (by decide)
        (quiet_separated value (by decide) quiet (by decide))
  | object members =>
      refine quiet_separated [unit ':'] (by decide) (by decide) (quiet_enclosed ?_)
      intro m member
      obtain ⟨p, among, rfl⟩ := List.mem_map.mp member
      exact ⟨quiet p among, quiet_decimal p.2.toNat⟩

/-- A line is harmless when its names and strings are. -/
theorem quiet_line {members : Members} (quiet : ∀ m ∈ members, Quiet m.1 ∧ m.2.Quiet) :
    Quiet (line members) := by
  refine quiet_braces ?_
  intro m member
  obtain ⟨p, among, rfl⟩ := List.mem_map.mp member
  exact ⟨(quiet p among).1, Printed.quiet_text (quiet p among).2⟩

theorem infix_enclosed {texts : List (Text × Text)} {m : Text × Text} (member : m ∈ texts) :
    m.2 <:+: Json.enclosed texts := by
  induction texts with
  | nil => cases member
  | cons first others ih =>
      cases others with
      | nil =>
          rw [List.mem_singleton.mp member]
          exact ⟨Json.quoted first.1 ++ [unit ':'], [unit '}'], by simp [Json.enclosed]⟩
      | cons next others =>
          cases List.mem_cons.mp member with
          | inl same =>
              rw [same]
              exact ⟨Json.quoted first.1 ++ [unit ':'], unit ',' :: Json.enclosed (next :: others),
                by simp [Json.enclosed]⟩
          | inr later =>
              refine (ih later).trans ⟨Json.quoted first.1 ++ unit ':' :: first.2 ++ [unit ','], [], ?_⟩
              simp [Json.enclosed]

/-- A string of a line is part of it. -/
theorem infix_line {members : Members} {name value : Text}
    (member : (name, Printed.string value) ∈ members) : value <:+: line members := by
  have among : (name, Json.quoted value) ∈ members.map fun m => (m.1, m.2.text) :=
    List.mem_map.mpr ⟨_, member, rfl⟩
  have inside : value <:+: Json.quoted value := ⟨[unit '"'], [unit '"'], rfl⟩
  exact inside.trans ((infix_enclosed among).trans ⟨[unit '{'], [], by simp [line, Json.braces]⟩)

end AxolotyEmbedded.Smoke.Firmware
