import AxolotyEmbedded.Smoke.Printed

/-!
The lines that the sensor node writes to its console: the static records, and the metrics line
that is appended piece by piece to a bounded buffer. A line is the JSON text of its record, and
the buffer holds the longest metrics line.
-/
namespace AxolotyEmbedded.SensorNode

open Smoke.Firmware

/-! ## Lines -/

/-- `SensorNodeStage`: the step a session had reached when it ended. -/
inductive Stage where
  | network | lastWill | connect | subscribe | advertise | serving
  deriving DecidableEq

/-- `endedRecord`. -/
def Stage.endedRecord : Stage → Text
  | network => text "\x7b\"event\":\"sensor-node-session-ended\",\"stage\":\"network\"\x7d\n"
  | lastWill => text "\x7b\"event\":\"sensor-node-session-ended\",\"stage\":\"last-will\"\x7d\n"
  | connect => text "\x7b\"event\":\"sensor-node-session-ended\",\"stage\":\"connect\"\x7d\n"
  | subscribe => text "\x7b\"event\":\"sensor-node-session-ended\",\"stage\":\"subscribe\"\x7d\n"
  | advertise => text "\x7b\"event\":\"sensor-node-session-ended\",\"stage\":\"advertise\"\x7d\n"
  | serving => text "\x7b\"event\":\"sensor-node-session-ended\",\"stage\":\"serving\"\x7d\n"

/-- `SensorNodeCounters`. -/
structure Counters where
  sessions : BitVec 32
  readings : BitVec 32
  resolves : BitVec 32
  rejected : BitVec 32
  publishFailures : BitVec 32
  readingLastUs : BitVec 32
  readingMaxUs : BitVec 32
  frameLastUs : BitVec 32
  frameMaxUs : BitVec 32
  deriving DecidableEq

def Counters.zero : Counters := ⟨0, 0, 0, 0, 0, 0, 0, 0, 0⟩

/-- What the metrics line reads of `axoloty_platform_metrics_v1`. -/
structure Metrics where
  freeInternalHeap : BitVec 32
  minimumFreeInternalHeap : BitVec 32
  mainStackHighWater : BitVec 32
  mainStackSize : BitVec 32
  deriving DecidableEq

inductive Line where
  | unconfigured
  | advertised
  | ended (stage : Stage)
  | metrics (counters : Counters) (platform : Metrics)
  | restart
  deriving DecidableEq

/-! ## The metrics line -/

def metricsLineCapacity : Nat := 384

namespace MetricsLine

/-- `append` of a text: what the buffer has no room for is left out. -/
def append (line addition : Text) : Text :=
  line ++ addition.take (metricsLineCapacity - line.length)

/-- `while value / divisor >= 10 { divisor *= 10 }`. -/
def leadingDivisor (value divisor : Nat) : Nat :=
  if 10 ≤ value / divisor then leadingDivisor value (divisor * 10) else divisor
termination_by value / divisor
decreasing_by
  rw [← Nat.div_div_eq_div_mul]
  omega

/-- `while divisor > 0 { … divisor /= 10 }`. -/
def digits (value divisor : Nat) : Text :=
  if 0 < divisor then UInt16.ofNat (48 + value / divisor % 10) :: digits value (divisor / 10)
  else []
termination_by divisor

/-- `append` of a value. -/
def appendValue (line : Text) (value : BitVec 32) : Text :=
  append line (digits value.toNat (leadingDivisor value.toNat 1))

end MetricsLine

/-- The texts of the metrics line with the values after them. -/
def metricsPieces (counters : Counters) (platform : Metrics) : List (Text × BitVec 32) :=
  [(text "\x7b\"event\":\"sensor-node-metrics\",\"sessions\":", counters.sessions),
    (text ",\"readings\":", counters.readings), (text ",\"resolves\":", counters.resolves),
    (text ",\"rejected\":", counters.rejected), (text ",\"publishFailures\":", counters.publishFailures),
    (text ",\"readingLastUs\":", counters.readingLastUs), (text ",\"readingMaxUs\":", counters.readingMaxUs),
    (text ",\"frameLastUs\":", counters.frameLastUs), (text ",\"frameMaxUs\":", counters.frameMaxUs),
    (text ",\"freeHeap\":", platform.freeInternalHeap),
    (text ",\"minimumFreeHeap\":", platform.minimumFreeInternalHeap),
    (text ",\"stackRemaining\":", platform.mainStackHighWater), (text ",\"stackSize\":", platform.mainStackSize)]

/-- The line that `logSensorNodeMetrics` writes. -/
def metricsLine (counters : Counters) (platform : Metrics) : Text :=
  MetricsLine.append
    ((metricsPieces counters platform).foldl
      (fun line piece => MetricsLine.appendValue (MetricsLine.append line piece.1) piece.2) [])
    (text "\x7d\n")

def Line.text : Line → Text
  | unconfigured => AxolotyEmbedded.text "\x7b\"event\":\"sensor-node-unconfigured\"\x7d\n"
  | advertised => AxolotyEmbedded.text "\x7b\"event\":\"sensor-node-advertised\"\x7d\n"
  | ended stage => stage.endedRecord
  | metrics counters platform => metricsLine counters platform
  | restart => AxolotyEmbedded.text "\x7b\"event\":\"sensor-node-restart\"\x7d\n"

/-! ## Decimals -/

namespace MetricsLine

variable {value divisor : Nat}

theorem digits_of_pos (positive : 0 < divisor) :
    digits value divisor = UInt16.ofNat (48 + value / divisor % 10) :: digits value (divisor / 10) := by
  rw [digits, if_pos positive]

theorem digits_zero : digits value 0 = [] := by
  rw [digits]
  rfl

/-- The last digit of a value comes last. -/
theorem digits_pow_succ (value k : Nat) :
    digits value (10 ^ (k + 1)) = digits (value / 10) (10 ^ k) ++ [UInt16.ofNat (48 + value % 10)] := by
  have positive (n : Nat) : 0 < 10 ^ n := Nat.pow_pos (by omega)
  have next (n : Nat) : 10 ^ (n + 1) / 10 = 10 ^ n := by
    rw [Nat.pow_succ, Nat.mul_div_cancel _ (by omega)]
  induction k with
  | zero =>
      have unit (value : Nat) : digits value 1 = [UInt16.ofNat (48 + value % 10)] := by
        rw [digits_of_pos (by omega), Nat.div_one, digits_zero]
      rw [digits_of_pos (positive 1), next, Nat.pow_zero, unit, unit]
      rfl
  | succ k ih =>
      rw [digits_of_pos (positive (k + 2)), next, ih, digits_of_pos (positive (k + 1)), next,
        Nat.div_div_eq_div_mul, Nat.mul_comm 10, ← Nat.pow_succ]
      rfl

theorem leadingDivisor_mul (value divisor : Nat) :
    leadingDivisor value (divisor * 10) = leadingDivisor (value / 10) divisor * 10 := by
  induction divisor using leadingDivisor.induct (value / 10) with
  | case1 divisor more ih =>
      have again : 10 ≤ value / (divisor * 10) := by
        rw [Nat.mul_comm, ← Nat.div_div_eq_div_mul]
        exact more
      rw [leadingDivisor, if_pos again, ih, leadingDivisor.eq_def (value / 10) divisor, if_pos more]
  | case2 divisor last =>
      have stop : ¬10 ≤ value / (divisor * 10) := by
        rw [Nat.mul_comm, ← Nat.div_div_eq_div_mul]
        exact last
      rw [leadingDivisor, if_neg stop, leadingDivisor, if_neg last]

theorem exists_leadingDivisor (value : Nat) :
    ∃ n, leadingDivisor value 1 = 10 ^ n ∧ digits value (10 ^ n) = Json.decimal value := by
  induction value using Nat.strong_induction_on with
  | _ value ih =>
      have digit : ∀ d < 10, UInt16.ofNat (48 + d) = unit d.digitChar := by decide
      by_cases small : value < 10
      · refine ⟨0, ?_, ?_⟩
        · rw [leadingDivisor, Nat.div_one, if_neg (by omega), Nat.pow_zero]
        · rw [Nat.pow_zero, digits_of_pos (by omega), Nat.div_one, digits_zero, Nat.mod_eq_of_lt small,
            Json.decimal, Nat.toDigits_of_lt_base small, digit value small]
          rfl
      · obtain ⟨n, leading, same⟩ := ih (value / 10) (by omega)
        refine ⟨n + 1, ?_, ?_⟩
        · rw [leadingDivisor, Nat.div_one, if_pos (by omega), leadingDivisor_mul, leading, Nat.pow_succ]
        · rw [digits_pow_succ, same, Json.decimal, Json.decimal,
            Nat.toDigits_of_base_le (by omega) (Nat.not_lt.mp small), List.map_append,
            digit _ (Nat.mod_lt _ (by omega))]
          rfl

/-- The loops write the decimal numeral of the value. -/
theorem digits_leadingDivisor (value : Nat) : digits value (leadingDivisor value 1) = Json.decimal value := by
  obtain ⟨n, leading, same⟩ := exists_leadingDivisor value
  rw [leading, same]

theorem length_decimal (value : BitVec 32) : (Json.decimal value.toNat).length ≤ 10 := by
  rw [Json.decimal, List.length_map]
  exact (Nat.length_toDigits_le_iff (by omega) (by omega)).mpr (Nat.lt_trans value.isLt (by omega))

theorem append_of_room {line addition : Text} (room : line.length + addition.length ≤ metricsLineCapacity) :
    append line addition = line ++ addition := by
  rw [append, List.take_of_length_le (by omega)]

/-- Texts with the values after them. -/
def joined (pieces : List (Text × BitVec 32)) (tail : Text) : Text :=
  pieces.foldr (fun piece rest => piece.1 ++ (Json.decimal piece.2.toNat ++ rest)) tail

theorem joined_append (pieces : List (Text × BitVec 32)) (tail : Text) :
    joined pieces [] ++ tail = joined pieces tail := by
  induction pieces with
  | nil => rfl
  | cons piece rest ih =>
      rw [joined, List.foldr_cons, List.append_assoc, List.append_assoc]
      exact congrArg (fun later => piece.1 ++ (Json.decimal piece.2.toNat ++ later)) ih

/-- No piece is cut where the longest values fit. -/
theorem foldl_pieces {pieces : List (Text × BitVec 32)} {line : Text}
    (room : line.length + (pieces.map fun piece => piece.1.length + 10).sum ≤ metricsLineCapacity) :
    pieces.foldl (fun line piece => appendValue (append line piece.1) piece.2) line =
        line ++ joined pieces [] ∧
      (line ++ joined pieces []).length ≤
        line.length + (pieces.map fun piece => piece.1.length + 10).sum := by
  induction pieces generalizing line with
  | nil => simp [joined]
  | cons piece rest ih =>
      rw [List.map_cons, List.sum_cons] at room
      have digits := length_decimal piece.2
      have here : appendValue (append line piece.1) piece.2 =
          line ++ (piece.1 ++ Json.decimal piece.2.toNat) := by
        rw [appendValue, digits_leadingDivisor, append_of_room, append_of_room, List.append_assoc]
        · omega
        · rw [append_of_room (by omega), List.length_append]
          omega
      have all : line ++ joined (piece :: rest) [] =
          (line ++ (piece.1 ++ Json.decimal piece.2.toNat)) ++ joined rest [] := by
        simp [joined, List.append_assoc]
      rw [List.foldl_cons, here, all, List.map_cons, List.sum_cons]
      have room' : (line ++ (piece.1 ++ Json.decimal piece.2.toNat)).length +
          (rest.map fun piece => piece.1.length + 10).sum ≤ metricsLineCapacity := by
        rw [List.length_append, List.length_append]
        omega
      obtain ⟨same, bound⟩ := ih room'
      refine ⟨same, bound.trans ?_⟩
      rw [List.length_append, List.length_append]
      omega

end MetricsLine

theorem length_text (s : String) : (text s).length = s.length := by
  rw [text, List.length_map, String.length_toList]

/-- The longest metrics line has 353 bytes, and none is cut. -/
theorem metricsLine_eq (counters : Counters) (platform : Metrics) :
    metricsLine counters platform = MetricsLine.joined (metricsPieces counters platform) (text "\x7d\n") ∧
      (metricsLine counters platform).length ≤ 353 := by
  have fixed : ((metricsPieces counters platform).map fun piece => piece.1.length + 10).sum = 351 := by
    simp only [metricsPieces, List.map_cons, List.map_nil, length_text]
    decide
  have tail : (text "\x7d\n").length = 2 := by
    decide
  obtain ⟨same, bound⟩ := @MetricsLine.foldl_pieces (metricsPieces counters platform) []
    (by rw [fixed]; decide)
  rw [fixed, List.length_nil, Nat.zero_add, List.nil_append] at bound
  rw [List.nil_append] at same
  rw [metricsLine, same, MetricsLine.append_of_room (by rw [tail, metricsLineCapacity]; omega),
    List.length_append, tail]
  refine ⟨?_, by omega⟩
  exact MetricsLine.joined_append _ _

/-! ## Records -/

def Stage.name : Stage → Text
  | network => text "network"
  | lastWill => text "last-will"
  | connect => text "connect"
  | subscribe => text "subscribe"
  | advertise => text "advertise"
  | serving => text "serving"

def eventMember (event : String) : Text × Printed := (text "event", .string (text event))

/-- The fields of a sample. -/
def metricsFields (counters : Counters) (platform : Metrics) : List (Text × BitVec 32) :=
  [(text "sessions", counters.sessions), (text "readings", counters.readings),
    (text "resolves", counters.resolves), (text "rejected", counters.rejected),
    (text "publishFailures", counters.publishFailures), (text "readingLastUs", counters.readingLastUs),
    (text "readingMaxUs", counters.readingMaxUs), (text "frameLastUs", counters.frameLastUs),
    (text "frameMaxUs", counters.frameMaxUs), (text "freeHeap", platform.freeInternalHeap),
    (text "minimumFreeHeap", platform.minimumFreeInternalHeap),
    (text "stackRemaining", platform.mainStackHighWater), (text "stackSize", platform.mainStackSize)]

/-- The members of the record of a line. -/
def Line.members : Line → Members
  | unconfigured => [eventMember "sensor-node-unconfigured"]
  | advertised => [eventMember "sensor-node-advertised"]
  | ended stage => [eventMember "sensor-node-session-ended", (AxolotyEmbedded.text "stage", .string stage.name)]
  | metrics counters platform =>
      eventMember "sensor-node-metrics" ::
        (metricsFields counters platform).map fun field => (field.1, .uint field.2)
  | restart => [eventMember "sensor-node-restart"]

/-- The texts before the values of the members of an object after its first. -/
def laterPieces (fields : List (Text × BitVec 32)) : List (Text × BitVec 32) :=
  fields.map fun field => (unit ',' :: Json.quoted field.1 ++ [unit ':'], field.2)

theorem joined_laterPieces {field : Text × BitVec 32} {fields : List (Text × BitVec 32)} (tail : Text) :
    MetricsLine.joined (laterPieces (field :: fields)) (unit '}' :: tail) =
      unit ',' :: Json.enclosed ((field :: fields).map fun field => (field.1, Json.decimal field.2.toNat)) ++
        tail := by
  induction fields generalizing field with
  | nil => simp [MetricsLine.joined, laterPieces, Json.enclosed]
  | cons next fields ih =>
      have later : MetricsLine.joined (laterPieces (field :: next :: fields)) (unit '}' :: tail) =
          (unit ',' :: Json.quoted field.1 ++ [unit ':']) ++ (Json.decimal field.2.toNat ++
            MetricsLine.joined (laterPieces (next :: fields)) (unit '}' :: tail)) := rfl
      rw [later, ih]
      simp [Json.enclosed]

/-- The event of a sample, before its fields. -/
def metricsEvent : Text := text "\x7b\"event\":\"sensor-node-metrics\""

theorem metricsPieces_eq (counters : Counters) (platform : Metrics) :
    metricsPieces counters platform =
      match laterPieces (metricsFields counters platform) with
      | [] => []
      | first :: rest => (metricsEvent ++ first.1, first.2) :: rest := by
  simp only [metricsPieces, metricsFields, laterPieces, List.map_cons, List.map_nil, List.cons.injEq,
    Prod.mk.injEq, and_true]
  decide

/-- An object of an event and fields that are numbers. -/
theorem line_of_fields (field : Text × BitVec 32) (fields : List (Text × BitVec 32)) (tail : Text) :
    Smoke.Firmware.line (eventMember "sensor-node-metrics" ::
        (field :: fields).map fun field => (field.1, .uint field.2)) ++ tail =
      metricsEvent ++ MetricsLine.joined (laterPieces (field :: fields)) (unit '}' :: tail) := by
  have event : metricsEvent =
      unit '{' :: Json.quoted (text "event") ++ unit ':' :: Json.quoted (text "sensor-node-metrics") := by
    decide
  rw [joined_laterPieces, event]
  simp [Smoke.Firmware.line, Json.braces, Json.enclosed, eventMember, Printed.text, Function.comp_def]

theorem metricsText_eq (counters : Counters) (platform : Metrics) :
    metricsLine counters platform =
      Smoke.Firmware.line (Line.metrics counters platform).members ++ [unit '\n'] := by
  have event : text "\x7d\n" = unit '}' :: [unit '\n'] := by
    decide
  rw [(metricsLine_eq counters platform).1, metricsPieces_eq, event]
  change (metricsEvent ++ _) ++ _ = _
  rw [List.append_assoc]
  exact (line_of_fields _ _ _).symm

/-- What the host makes of a line. -/
def Line.record (line : Line) : Smoke.JsValue := recordOf line.members

theorem plain_cons {name : Text} {value : Printed} {members : Members} (plainName : Json.Plain name)
    (plainValue : value.Plain) (rest : PlainMembers members) : PlainMembers ((name, value) :: members) := by
  intro m member
  cases member with
  | head => exact ⟨plainName, plainValue⟩
  | tail _ later => exact rest m later

theorem plain_nil : PlainMembers [] := by
  intro m member
  cases member

theorem plain_fields (counters : Counters) (platform : Metrics) :
    PlainMembers ((metricsFields counters platform).map fun field => (field.1, .uint field.2)) := by
  have names : ∀ name ∈ (metricsFields counters platform).map Prod.fst, Json.Plain name := by
    simp only [metricsFields, List.map_cons, List.map_nil]
    decide
  intro m member
  obtain ⟨field, listed, rfl⟩ := List.mem_map.mp member
  exact ⟨names _ (List.mem_map_of_mem listed), trivial⟩

theorem Stage.plain_name (stage : Stage) : Json.Plain stage.name := by
  cases stage <;> decide

theorem plain_event {event : String} {members : Members} (plain : Json.Plain (text event))
    (rest : PlainMembers members) : PlainMembers (eventMember event :: members) :=
  plain_cons (by decide) plain rest

theorem Line.plain (line : Line) : PlainMembers line.members := by
  cases line with
  | unconfigured => exact plain_event (by decide) plain_nil
  | advertised => exact plain_event (by decide) plain_nil
  | ended stage => exact plain_event (by decide) (plain_cons (by decide) stage.plain_name plain_nil)
  | metrics counters platform => exact plain_event (by decide) (plain_fields counters platform)
  | restart => exact plain_event (by decide) plain_nil

theorem Line.jsonParse_line (line : Line) :
    Smoke.jsonParse (Smoke.Firmware.line line.members) = some line.record := by
  apply Smoke.Firmware.jsonParse_line line.plain
  cases line <;> exact List.cons_ne_nil _ _

/-- Every metrics line is whole, however large its counters are, and the host reads from it what was
counted. -/
theorem metricsLine_reads (counters : Counters) (platform : Metrics) :
    ∃ body record, metricsLine counters platform = body ++ [unit '\n'] ∧ body.length ≤ 352 ∧
      Smoke.jsonParse body = some record ∧
        ∀ field ∈ metricsFields counters platform,
          record.field field.1 = some (.num (.finite field.2.toNat)) := by
  refine ⟨_, _, metricsText_eq counters platform, ?_, Line.jsonParse_line _, ?_⟩
  · have bound := (metricsLine_eq counters platform).2
    rw [metricsText_eq, List.length_append, List.length_singleton] at bound
    omega
  · simp only [metricsFields, List.forall_mem_cons]
    refine ⟨rfl, rfl, rfl, rfl, rfl, rfl, rfl, rfl, rfl, rfl, rfl, rfl, rfl, ?_⟩
    intro field member
    cases member

end AxolotyEmbedded.SensorNode
