import Mathlib.Data.Bool.AllAny
import Mathlib.Data.List.TakeWhile
import AxolotyEmbedded.Library.JsonRest
import AxolotyEmbedded.SensorNode.Console
import AxolotyEmbedded.SensorNode.Validator

/-!
The console of the sensor node as the host reads it, with the lines of the logger between its lines
or inside of them. The assembler returns each record once and in order, also where the logger has
cut one in two.
-/
namespace AxolotyEmbedded.SensorNode

open Smoke (jsonParse)

/-! ## Records -/

/-- A line of the console without its end. -/
def Line.body (line : Line) : Text := Smoke.Firmware.line line.members

/-- A unit of a record that is no brace. -/
def IsInner (u : UInt16) : Prop :=
  isJsSpace u = false ∧ isLevel u = false ∧ u ≠ unit '{' ∧ u ≠ unit '}'

instance (u : UInt16) : Decidable (IsInner u) := inferInstanceAs (Decidable (_ ∧ _))

theorem isInner_digit {u : UInt16} (digit : Json.isDigit u = true) : IsInner u := by
  have all : ∀ n < 10, IsInner (UInt16.ofNat (48 + n)) := by decide
  rw [Json.isDigit, Bool.and_eq_true, decide_eq_true_eq, decide_eq_true_eq] at digit
  have same : UInt16.ofNat (48 + (u.toNat - 48)) = u := by
    rw [Nat.add_sub_cancel' digit.1, UInt16.ofNat_toNat]
  rw [← same]
  exact all _ (by omega)

theorem isInner_joined {pieces : List (Text × BitVec 32)}
    (inner : ∀ piece ∈ pieces, ∀ u ∈ piece.1, IsInner u) :
    ∀ u ∈ MetricsLine.joined pieces [], IsInner u := by
  induction pieces with
  | nil =>
      intro u member
      cases member
  | cons piece pieces ih =>
      intro u member
      change u ∈ piece.1 ++ (Json.decimal piece.2.toNat ++ MetricsLine.joined pieces []) at member
      rw [List.mem_append, List.mem_append] at member
      rcases member with named | digits | later
      · exact inner piece List.mem_cons_self u named
      · exact isInner_digit (Json.isDigit_of_mem_decimal digits)
      · exact ih (fun piece member => inner piece (List.mem_cons_of_mem _ member)) u later

/-- A record has one brace at its start and one at its end. -/
theorem body_eq (line : Line) :
    ∃ inner, line.body = recordStart ++ inner ++ [unit '}'] ∧ ∀ u ∈ inner, IsInner u := by
  cases line with
  | unconfigured => exact ⟨text "unconfigured\"", by rfl, List.all_iff_forall_prop.mp (by decide)⟩
  | advertised => exact ⟨text "advertised\"", by rfl, List.all_iff_forall_prop.mp (by decide)⟩
  | ended stage =>
      exact ⟨text "session-ended\",\"stage\":\"" ++ stage.name ++ [unit '"'], by cases stage <;> rfl,
        List.all_iff_forall_prop.mp (by cases stage <;> decide)⟩
  | restart => exact ⟨text "restart\"", by rfl, List.all_iff_forall_prop.mp (by decide)⟩
  | metrics counters platform =>
      obtain ⟨first, rest, pieces, inner⟩ : ∃ (first : Text × BitVec 32) (rest : List (Text × BitVec 32)),
          metricsPieces counters platform = (recordStart ++ first.1, first.2) :: rest ∧
            ∀ piece ∈ first :: rest, ∀ u ∈ piece.1, IsInner u := by
        refine ⟨(text "metrics\",\"sessions\":", counters.sessions),
          (metricsPieces counters platform).tail, by rfl, ?_⟩
        have texts : (text "metrics\",\"sessions\":" ::
            (metricsPieces counters platform).tail.map Prod.fst).all
              (fun name => name.all (fun u => decide (IsInner u))) = true := by
          simp only [metricsPieces, List.tail_cons, List.map_cons, List.map_nil]
          decide
        intro piece member
        refine List.all_iff_forall_prop.mp (List.all_eq_true.mp texts piece.1 ?_)
        cases member with
        | head => exact List.mem_cons_self
        | tail _ later => exact List.mem_cons_of_mem _ (List.mem_map_of_mem later)
      refine ⟨MetricsLine.joined (first :: rest) [], ?_, isInner_joined inner⟩
      have whole : (Line.metrics counters platform).body ++ [unit '\n'] =
          (recordStart ++ MetricsLine.joined (first :: rest) [] ++ [unit '}']) ++ [unit '\n'] := by
        rw [Line.body, ← metricsText_eq, (metricsLine_eq counters platform).1, pieces,
          ← MetricsLine.joined_append]
        simp [MetricsLine.joined]
        rfl
      exact List.append_cancel_right whole

/-- The start of a record, up to a place before its end. -/
theorem open_of_place {line : Line} {place : Nat} (early : place < line.body.length) :
    ∀ u ∈ line.body.take place, isJsSpace u = false ∧ isLevel u = false ∧ u ≠ unit '}' := by
  obtain ⟨inner, body, plain⟩ := body_eq line
  have start : ∀ u ∈ recordStart, isJsSpace u = false ∧ isLevel u = false ∧ u ≠ unit '}' :=
    List.all_iff_forall_prop.mp (by decide)
  rw [body, List.length_append, List.length_singleton] at early
  rw [body, List.take_append_of_le_length (by omega)]
  intro u member
  have member := List.mem_of_mem_take member
  rw [List.mem_append] at member
  cases member with
  | inl first => exact start u first
  | inr later => exact ⟨(plain u later).1, (plain u later).2.1, (plain u later).2.2.2⟩

theorem visible_body (line : Line) : ∀ u ∈ line.body, isJsSpace u = false := by
  obtain ⟨inner, body, plain⟩ := body_eq line
  have start : ∀ u ∈ recordStart, isJsSpace u = false := List.all_iff_forall_prop.mp (by decide)
  rw [body]
  intro u member
  rw [List.mem_append, List.mem_append, List.mem_singleton] at member
  rcases member with (first | later) | rfl
  · exact start u first
  · exact (plain u later).1
  · decide

theorem recordStart_body (line : Line) : recordStart <+: line.body := by
  obtain ⟨inner, body, plain⟩ := body_eq line
  rw [body, List.append_assoc]
  exact List.prefix_append _ _

/-! ## Texts -/

/-- What is trimmed after a unit that is visible. -/
theorem trim_cons {u : UInt16} (visible : isJsSpace u = false) (rest : Text) :
    trim (u :: rest) = u :: (rest.reverse.dropWhile isJsSpace).reverse := by
  have last : [u].dropWhile isJsSpace = [u] := List.dropWhile_cons_of_neg (by rw [visible]; exact Bool.false_ne_true)
  rw [trim, List.dropWhile_cons_of_neg (by rw [visible]; exact Bool.false_ne_true), List.reverse_cons,
    List.dropWhile_append, last]
  split
  · next none =>
      rw [List.isEmpty_iff.mp none]
      rfl
  · rw [List.reverse_append]
    rfl

theorem trim_append {visible spaces : Text} (shown : ∀ u ∈ visible, isJsSpace u = false)
    (blank : ∀ u ∈ spaces, isJsSpace u = true) : trim (visible ++ spaces) = visible := by
  cases visible with
  | nil =>
      have none : spaces.dropWhile isJsSpace = [] := List.dropWhile_eq_nil_iff.mpr blank
      rw [List.nil_append, trim, none]
      rfl
  | cons u rest =>
      have blank' : ∀ u ∈ spaces.reverse, isJsSpace u = true := by
        intro v member
        exact blank v (List.mem_reverse.mp member)
      have shown' : rest.reverse.dropWhile isJsSpace = rest.reverse := by
        apply List.dropWhile_eq_self_iff.mpr
        intro some'
        rw [shown _ (List.mem_cons_of_mem _ (List.mem_reverse.mp (List.getElem_mem some')))]
        exact Bool.false_ne_true
      rw [List.cons_append, trim_cons (shown u List.mem_cons_self), List.reverse_append,
        List.dropWhile_append_of_pos blank', shown', List.reverse_reverse]

theorem sliceFrom_skip {pattern before : Text} (braces : unit '{' ∉ before) (rest : Text) :
    sliceFrom (unit '{' :: pattern) (before ++ rest) = sliceFrom (unit '{' :: pattern) rest := by
  induction before with
  | nil => rfl
  | cons u before ih =>
      have other : u ≠ unit '{' := fun same => braces (by rw [same]; exact List.mem_cons_self)
      rw [List.cons_append, sliceFrom, if_neg]
      · exact ih fun member => braces (List.mem_cons_of_mem _ member)
      · rw [List.isPrefixOf_iff_prefix, List.cons_prefix_cons]
        intro starts
        exact other starts.1.symm

theorem sliceFrom_start {pattern line : Text} (starts : pattern <+: line) :
    sliceFrom pattern line = some line := by
  cases line with
  | nil => rw [List.prefix_nil.mp starts]; rfl
  | cons u line => rw [sliceFrom, if_pos (List.isPrefixOf_iff_prefix.mpr starts)]

theorem suffix_of_sliceFrom {pattern line rest : Text} (found : sliceFrom pattern line = some rest) :
    pattern <+: rest ∧ rest <:+ line := by
  induction line with
  | nil =>
      rw [sliceFrom] at found
      split at found
      · next none =>
          cases found
          rw [none]
          exact ⟨List.prefix_refl _, List.suffix_refl _⟩
      · cases found
  | cons u line ih =>
      rw [sliceFrom] at found
      split at found
      · next starts =>
          cases found
          exact ⟨List.isPrefixOf_iff_prefix.mp starts, List.suffix_refl _⟩
      · obtain ⟨starts, within⟩ := ih found
        exact ⟨starts, within.trans (List.suffix_cons u line)⟩

theorem startsLog_cons {u : UInt16} (other : isLevel u = false) (rest : Text) :
    startsLog (u :: rest) = false := by
  unfold startsLog
  split
  · next level space opening later same =>
      obtain ⟨rfl, _⟩ := List.cons.inj same
      rw [other, Bool.false_and, Bool.false_and, Bool.false_and, Bool.false_and]
  · rfl

theorem untilLog_append {start log : Text} (plain : ∀ u ∈ start, isLevel u = false)
    (logs : startsLog log = true) : untilLog (start ++ log) = some start := by
  induction start with
  | nil =>
      cases log with
      | nil => cases logs
      | cons u log => rw [List.nil_append, untilLog, if_pos logs]
  | cons u start ih =>
      rw [List.cons_append, untilLog, if_neg, ih fun v member => plain v (List.mem_cons_of_mem _ member)]
      · rfl
      · rw [startsLog_cons (plain u List.mem_cons_self)]
        exact Bool.false_ne_true

/-! ## Steps -/

theorem jsonParse_body (line : Line) : jsonParse line.body = some line.record := line.jsonParse_line

/-- A line without an opening brace neither is a record nor starts one. -/
theorem feed_other {line : Text} (braces : unit '{' ∉ line) : feed none line = (none, none) := by
  have skipped (pattern : Text) : sliceFrom (unit '{' :: pattern) line = none := by
    have whole : sliceFrom (unit '{' :: pattern) (line ++ []) = sliceFrom (unit '{' :: pattern) [] :=
      sliceFrom_skip braces []
    rw [List.append_nil] at whole
    rw [whole, sliceFrom, if_neg (List.cons_ne_nil _ _)]
  have records : sliceFrom recordStart line = none := skipped _
  have events : sliceFrom eventStart line = none := skipped _
  rw [feed, Option.bind_none, parseSensorRecord, records, events]
  rfl

theorem feed_whole (line : Line) {before after : Text} (braces : unit '{' ∉ before)
    (blank : ∀ u ∈ after, isJsSpace u = true) :
    feed none (before ++ (line.body ++ after)) = (some line.record, none) := by
  have found : parseSensorRecord (before ++ (line.body ++ after)) = some line.record := by
    have start : sliceFrom recordStart (before ++ (line.body ++ after)) = some (line.body ++ after) := by
      apply (sliceFrom_skip braces _).trans
      exact sliceFrom_start ((recordStart_body line).trans (List.prefix_append _ _))
    rw [parseSensorRecord, start, Option.bind_some, trim_append (visible_body line) blank, jsonParse_body]
  rw [feed, Option.bind_none, found]

section Cut

variable {line : Line} {place : Nat} {before log after : Text} (braces : unit '{' ∉ before)
  (late : eventStart.length ≤ place) (early : place < line.body.length)

include braces early in
/-- What is left of a record that the logger has cut is no record. -/
theorem parseSensorRecord_cut (unclosed : unit '}' ∉ log) :
    parseSensorRecord (before ++ (line.body.take place ++ log)) = none := by
  have skipped : sliceFrom recordStart (before ++ (line.body.take place ++ log)) =
      sliceFrom recordStart (line.body.take place ++ log) := sliceFrom_skip braces _
  rw [parseSensorRecord, skipped]
  cases found : sliceFrom recordStart (line.body.take place ++ log) with
  | none => rfl
  | some rest =>
      obtain ⟨⟨later, rfl⟩, within⟩ := suffix_of_sliceFrom found
      have open' : unit '}' ∉ recordStart ++ later := by
        intro member
        have member := within.subset member
        rw [List.mem_append] at member
        cases member with
        | inl first => exact (open_of_place early _ first).2.2 rfl
        | inr last => exact unclosed last
      rw [Option.bind_some]
      change Json.parse _ (trim (unit '{' :: _)) = none
      rw [trim_cons (by decide)]
      apply Json.parse_open rfl
      intro member
      apply open'
      change _ ∈ unit '{' :: _
      cases member with
      | tail _ member =>
          apply List.mem_cons_of_mem
          exact List.mem_reverse.mp ((List.dropWhile_sublist _).subset (List.mem_reverse.mp member))

include braces late early in
/-- The start of a record is held. -/
theorem feed_cut (logs : startsLog log = true) (unclosed : unit '}' ∉ log) :
    feed none (before ++ (line.body.take place ++ log)) = (none, some (line.body.take place)) := by
  have starts : eventStart <+: line.body.take place := by
    rw [List.prefix_take_iff]
    have short : eventStart <+: recordStart := by decide
    exact ⟨short.trans (recordStart_body line), late⟩
  have start : sliceFrom eventStart (before ++ (line.body.take place ++ log)) =
      some (line.body.take place ++ log) := by
    apply (sliceFrom_skip braces _).trans
    exact sliceFrom_start (starts.trans (List.prefix_append _ _))
  have held : pendingOf (line.body.take place ++ log) = line.body.take place := by
    have opened := open_of_place early
    have shown : trim (line.body.take place) = line.body.take place := by
      have blank : ∀ u ∈ ([] : Text), isJsSpace u = true := by
        intro u member
        cases member
      simpa using trim_append (fun u member => (opened u member).1) blank
    rw [pendingOf, untilLog_append (fun u member => (opened u member).2.1) logs]
    cases taken : line.body.take place with
    | nil =>
        rw [taken] at starts
        cases List.prefix_nil.mp starts
    | cons u rest =>
        rw [taken] at shown
        exact shown
  rw [feed, Option.bind_none, parseSensorRecord_cut braces early unclosed, start, Option.map_some, held]

theorem feed_rest (line : Line) (place : Nat) (blank : ∀ u ∈ after, isJsSpace u = true) :
    feed (some (line.body.take place)) (line.body.drop place ++ after) = (some line.record, none) := by
  have rest : trim (line.body.drop place ++ after) = line.body.drop place :=
    trim_append (fun u member => visible_body line u (List.mem_of_mem_drop member)) blank
  have record : continued line.body = some line.record := by
    rw [continued, jsonParse_body]
    cases line <;> rfl
  rw [feed, Option.bind_some, rest, List.take_append_drop, record]

end Cut

/-! ## Consoles -/

/-- What the host reads of the console: a line of the logger, a record on one line, or a record in
which a line of the logger stands. -/
inductive Arrival where
  | other (text : Text)
  | whole (line : Line) (before after : Text)
  | cut (line : Line) (place : Nat) (before log after : Text)

namespace Arrival

def lines : Arrival → List Text
  | other text => [text]
  | whole line before after => [before ++ (line.body ++ after)]
  | cut line place before log after =>
      [before ++ (line.body.take place ++ log), line.body.drop place ++ after]

def line : Arrival → Option Line
  | other _ => none
  | whole line .. => some line
  | cut line .. => some line

/-- The logger writes no opening brace before a record, and a log line that cuts one, anywhere after
`{"event":`, closes no brace. -/
def Possible : Arrival → Prop
  | other text => unit '{' ∉ text
  | whole _ before after => unit '{' ∉ before ∧ ∀ u ∈ after, isJsSpace u = true
  | cut line place before log after =>
      unit '{' ∉ before ∧ eventStart.length ≤ place ∧ place < line.body.length ∧ startsLog log = true ∧
        unit '}' ∉ log ∧ ∀ u ∈ after, isJsSpace u = true

end Arrival

/-- An arrival leaves nothing pending, and returns its record. -/
theorem feedAll_arrival {arrival : Arrival} (possible : arrival.Possible) (later : List Text) :
    feedAll none (arrival.lines ++ later) =
      (arrival.line.map Line.record).toList ++ feedAll none later := by
  cases arrival with
  | other text =>
      change feedAll none (text :: later) = _
      rw [feedAll, feed_other possible]
      rfl
  | whole line before after =>
      change feedAll none (_ :: later) = _
      rw [feedAll, feed_whole line possible.1 possible.2]
      rfl
  | cut line place before log after =>
      obtain ⟨braces, late, early, logs, unclosed, blank⟩ := possible
      change feedAll none (_ :: _ :: later) = _
      rw [feedAll, feed_cut braces late early logs unclosed]
      dsimp only
      rw [feedAll, feed_rest line place blank]
      rfl

/-- The assembler returns the records of a console, each once and in their order, wherever the lines
of the logger stand. -/
theorem feedAll_arrivals (arrivals : List Arrival) (possible : ∀ arrival ∈ arrivals, arrival.Possible) :
    feedAll none (arrivals.flatMap Arrival.lines) = (arrivals.filterMap Arrival.line).map Line.record := by
  induction arrivals with
  | nil => rfl
  | cons arrival arrivals ih =>
      rw [List.forall_mem_cons] at possible
      rw [List.flatMap_cons, feedAll_arrival possible.1, ih possible.2, List.filterMap_cons]
      cases arrival.line with
      | none => rfl
      | some line => rfl

theorem feedAll_arrivals_cut :
    feedAll none
        [text "I (312) wifi:state: run", text "\x7b\"event\":E (65139) wifi:timeout",
          text "\"sensor-node-session-ended\",\"stage\":\"serving\"\x7d",
          text "\x7b\"event\":\"sensor-node-advertised\"\x7d"] =
      [(Line.ended .serving).record, Line.advertised.record] :=
  feedAll_arrivals
    [.other (text "I (312) wifi:state: run"), .cut (.ended .serving) 9 [] (text "E (65139) wifi:timeout") [],
      .whole .advertised [] []]
    (by
      simp only [List.forall_mem_cons]
      refine ⟨?_, ?_, ⟨by decide, List.forall_mem_nil _⟩, ?_⟩
      · change unit '{' ∉ text "I (312) wifi:state: run"
        decide
      · exact ⟨by decide, by decide, by decide, by decide, by decide, List.forall_mem_nil _⟩
      intro arrival member
      cases member)

end AxolotyEmbedded.SensorNode
