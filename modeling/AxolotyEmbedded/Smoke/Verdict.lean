import AxolotyEmbedded.Smoke.Protocol

/-!
The command that reads a serial log and writes the verdict (`runCLI`). Of each line the
validator sees only what stands between the first opening and the last closing brace, so
that a fatal fragment before or after a record on the same line is not seen.
-/
namespace AxolotyEmbedded.Smoke

/-! ### The lines of a log -/

/-- `log.split(/\r?\n/)` -/
def splitLines : Text → List Text
  | [] => [[]]
  | first :: rest =>
      if first = unit '\n' then [] :: splitLines rest
      else if first = unit '\r' ∧ rest.head? = some (unit '\n') then splitLines rest
      else match splitLines rest with
        | [] => [[first]]
        | line :: lines => (first :: line) :: lines

/-- `t.lastIndexOf(u)` -/
def lastIndexOf (u : UInt16) : Text → Option Nat
  | [] => none
  | first :: rest =>
      match lastIndexOf u rest with
      | some index => some (index + 1)
      | none => if first = u then some 0 else none

/-- What `observe` is given of a line. -/
def braceSlice (rawLine : Text) : Text :=
  match rawLine.idxOf? (unit '\x7b'), lastIndexOf (unit '\x7d') rawLine with
  | some first, some last =>
      if first ≤ last then (rawLine.take (last + 1)).drop first else rawLine
  | _, _ => rawLine

/-! ### The verdict -/

/-- How the monitor ended, and its deadline as it is printed. -/
inductive MonitorEnd where
  | completed | deadline | failed
  deriving DecidableEq, Repr

structure Monitor where
  ended : MonitorEnd
  deadlineSeconds : Text

/-- The arguments and the environment of the command. -/
structure Invocation where
  device : Text
  monitor : Option Monitor
  cbor : Bool

structure Validation where
  result : Result
  deadlineExpired : Bool

/-- `classifyDeadlineExpiry` -/
def classifyDeadlineExpiry (validation : Result) (monitor : Option Monitor) : Validation :=
  match validation, monitor with
  | .rejected failure, some monitor =>
      if monitor.ended = .deadline ∧ text "missing " <+: failure.diagnostic then
        let diagnostic := text "monitor deadline of " ++ monitor.deadlineSeconds
          ++ text " s expired before the device finished: " ++ failure.diagnostic
        ⟨.rejected { failure with diagnostic := boundedDiagnostic (some (.str diagnostic)) }, true⟩
      else ⟨validation, false⟩
  | _, _ => ⟨validation, false⟩

structure Verdict where
  runId : Text
  device : Text
  linesCaptured : Nat
  validation : Validation

variable (convert : JsValue → Option (BitVec 32)) (v : Validator)

/-- The verdict that is written; none if an exception leaves `observe`. -/
def runCLI (invocation : Invocation) (log : Text) : Option Verdict :=
  let lines := splitLines log
  (observeAll convert v State.initial (lines.map braceSlice)).map fun s =>
    { runId :=
        if invocation.cbor then text "embedded-swift-smoke-v3" else text "embedded-swift-smoke-v2"
      device := invocation.device
      linesCaptured := lines.countP fun line => line.length > 0
      validation := classifyDeadlineExpiry (result v s) invocation.monitor }

/-- The raw lines up to the one on which the validator finishes. -/
def reachedLines (log : Text) : List Text :=
  (splitLines log).take
    (observed convert v State.initial ((splitLines log).map braceSlice)).length

/-- A log with a fatal fragment on a line that is reached gets no passing verdict. -/
def FatalShown (log : Text) : Prop :=
  (∃ rawLine ∈ reachedLines convert v log, isFatal rawLine = true) →
    ∀ invocation verdict, runCLI convert v invocation log = some verdict →
      verdict.validation.result.passed = false

variable {convert v}

/-- A failure stays one, whatever the monitor did. -/
theorem passed_classifyDeadlineExpiry (validation : Result) (monitor : Option Monitor) :
    (classifyDeadlineExpiry validation monitor).result.passed = validation.passed := by
  unfold classifyDeadlineExpiry
  split
  · split <;> rfl
  · rfl

theorem runCLI_passed_iff (invocation : Invocation) {log : Text} :
    (∃ verdict, runCLI convert v invocation log = some verdict ∧
      verdict.validation.result.passed = true) ↔
        passed convert v ((splitLines log).map braceSlice) = true := by
  rw [passed_iff]
  simp only [runCLI, Option.map_eq_some_iff]
  constructor
  · rintro ⟨verdict, ⟨s, fed, rfl⟩, accepted⟩
    rw [passed_classifyDeadlineExpiry] at accepted
    exact ⟨s, fed, accepted⟩
  · rintro ⟨s, fed, accepted⟩
    exact ⟨_, ⟨s, fed, rfl⟩, (passed_classifyDeadlineExpiry _ _).trans accepted⟩

/-- The slices of the reached lines are the lines that are fed. -/
theorem map_reachedLines (convert : JsValue → Option (BitVec 32)) (v : Validator) (log : Text) :
    (reachedLines convert v log).map braceSlice =
      observed convert v State.initial ((splitLines log).map braceSlice) := by
  rw [reachedLines, List.map_take]
  exact (List.prefix_iff_eq_take.mp (observed_leads _ _)).symm

/-- The verdict shows a fatal fragment exactly when the slices do, unless they are no
complete stream anyway. -/
theorem fatalShown_iff (convert : JsValue → Option (BitVec 32)) (v : Validator) (log : Text) :
    FatalShown convert v log ↔
      (Disjoint v.expectedTests {text "boot", text "summary", text "completion"} →
        Stream convert v ((reachedLines convert v log).map braceSlice) →
          ∀ rawLine ∈ reachedLines convert v log, isFatal rawLine = true →
            isFatal (braceSlice rawLine) = true) := by
  rw [map_reachedLines convert v log]
  constructor
  · intro shown reserved stream rawLine member fatal
    have accepted := accepted_iff_stream.mpr ⟨reserved, stream⟩
    obtain ⟨verdict, written, passes⟩ :=
      (runCLI_passed_iff ⟨[], none, false⟩).mpr accepted
    rw [shown ⟨rawLine, member, fatal⟩ _ verdict written] at passes
    cases passes
  · rintro sliced ⟨rawLine, member, fatal⟩ invocation verdict written
    rw [← Bool.not_eq_true]
    intro passes
    obtain ⟨reserved, stream⟩ :=
      accepted_iff_stream.mp ((runCLI_passed_iff invocation).mp ⟨verdict, written, passes⟩)
    have harmless := stream.1 (braceSlice rawLine)
      (map_reachedLines convert v log ▸ List.mem_map_of_mem member)
    rw [sliced reserved stream rawLine member fatal] at harmless
    cases harmless

/-! ### A hidden watchdog -/

namespace Firmware

def noMetrics : Metrics := ⟨0, 0, 0, 0, 0, 0, 0, 0, 0, 0, 0, 0, 0, 0, 0, 0, 0, 0, 0⟩

/-- A run of one check that passes. -/
def oneCheck : List Text := stream .withParser [.record (text "topic:exact") true] noMetrics

/-- The run's output, with the watchdog's message before the first record on its line. -/
def watchdogLog : Text :=
  text "E (10) task_wdt: Task watchdog got triggered. " ++
    [unit '\r', unit '\n'].intercalate oneCheck

end Firmware

/-- The first line of a log is always reached. -/
theorem mem_reachedLines {log rawLine : Text} {rest : List Text}
    (first : splitLines log = rawLine :: rest) : rawLine ∈ reachedLines convert v log := by
  obtain ⟨line, lines, fed⟩ : ∃ line lines,
      observed convert v State.initial ((splitLines log).map braceSlice) = line :: lines := by
    rw [first, List.map_cons, observed]
    split <;> exact ⟨_, _, rfl⟩
  rw [reachedLines, fed, first]
  exact List.mem_cons_self

/-- A passing verdict over a log whose first line says that the watchdog fired. -/
theorem not_fatalShown : ¬ ∀ convert v log, FatalShown convert v log := by
  intro shown
  have slices : (splitLines Firmware.watchdogLog).map braceSlice = Firmware.oneCheck := by
    decide +kernel
  have accepted : passed (fun _ => some 0)
      ⟨{text "topic:exact"}, ∅, Firmware.Build.withParser.runId⟩
      ((splitLines Firmware.watchdogLog).map braceSlice) = true := by
    rw [slices]
    exact Firmware.passed_of_expected (by decide) rfl (by decide) (by decide) (by decide)
  obtain ⟨verdict, written, passes⟩ := (runCLI_passed_iff ⟨[], none, false⟩).mpr accepted
  have fatalFirst : (splitLines Firmware.watchdogLog).head?.any isFatal = true := by
    decide +kernel
  obtain ⟨rawLine, head, fatal⟩ := (Option.any_eq_true _ _).mp fatalFirst
  obtain ⟨rest, first⟩ := List.head?_eq_some_iff.mp head
  rw [shown _ _ _ ⟨rawLine, mem_reachedLines first, fatal⟩ _ verdict written] at passes
  cases passes

end AxolotyEmbedded.Smoke
