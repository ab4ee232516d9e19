import Mathlib.Data.List.Nodup
import Mathlib.Data.List.TakeWhile
import Mathlib.Data.String.Basic
import AxolotyEmbedded.Library.Directories

/-!
The file operations of `final_init_proof.main` once `preflight` has returned. They are
listed in the order of the source, and at most one operation, subprocess or check of a
run fails. What is written and what a subprocess leaves in the workspace are inputs.
-/
namespace AxolotyEmbedded.FirstInit

/-- The content of a file: some bytes, or the digests `write_json` writes by name. -/
inductive FileContent (Digest : Type) where
  | bytes (content : List UInt8)
  | digests (entries : List (String × Digest))

abbrev Files (Digest : Type) := String → Option (FileContent Digest)

variable {Digest : Type}

def receiptName : String := "first-init-proof.json"

def manifestName : String := "artifact-sha256.json"

def cfgName : String := "initialization-cfg.json"

/-- `OUTPUT_NAMES`. -/
def outputNames : List String :=
  [receiptName, "diagnostic-candidate.json", "diagnostic-command.json",
    "diagnostic.stdout.txt", "diagnostic.stderr.txt", "firmware.disassembly.txt",
    "rom.disassembly.txt", "firmware.symbols.txt", "objdump-version.txt",
    "objdump.sha256", "nm.sha256", "disassembler-command.json",
    "disassembler.stdout.txt", "disassembler.stderr.txt", "build-config.json",
    "callbacks.json", "calibration-extracted-from-raw.csv",
    "calibration-extract-command.json", "calibration-extract.stdout.txt",
    "calibration-extract.stderr.txt", "calibration-validate-command.json",
    "calibration-validate.stdout.txt", "calibration-validate.stderr.txt",
    manifestName, cfgName, "first-epoch.log",
    "smoke-result.json", "smoke-command.json", "smoke.stdout.txt", "smoke.stderr.txt"]

/-! ## The operations in the workspace -/

/-- One operation: a read or a test that may raise, a file that is written, or a
subprocess with the workspace among its arguments. -/
inductive Operation where
  | check
  | write (name : String)
  | subprocess
  deriving DecidableEq

/-- `run_command` with a record of the command and its outputs. -/
def runCommand (label : String) : List Operation :=
  [.write (label ++ "-command.json"), .subprocess, .write (label ++ ".stdout.txt"),
    .write (label ++ ".stderr.txt"), .check]

/-- `run_disassembler`, with the native tools or in the pinned container. -/
def runDisassembler (toolDir : Bool) : List Operation :=
  [.check, .check] ++
    (if toolDir then
      [.check] ++
        ["objdump-version.txt", "firmware.disassembly.txt", "rom.disassembly.txt",
          "firmware.symbols.txt"].flatMap (fun name => [.subprocess, .write name, .check]) ++
        [.write "objdump.sha256", .write "disassembler-command.json"]
    else runCommand "disassembler") ++
    ["firmware.disassembly.txt", "rom.disassembly.txt", "firmware.symbols.txt",
      "objdump-version.txt", "objdump.sha256"].map (fun _ => .check) ++ [.check, .check]

/-- The body of the `with` statement up to the receipt, which it writes last. -/
def body (toolDir : Bool) : List Operation :=
  [.check, .check, .write "first-epoch.log"] ++ runCommand "calibration-extract" ++ [.check] ++
    runCommand "calibration-validate" ++ [.check] ++ runCommand "smoke" ++
    [.check, .check, .check, .write "input.elf", .check, .write "input-rom.elf", .check] ++
    runDisassembler toolDir ++
    [.check, .check, .check, .write cfgName, .check, .check, .check, .check, .write receiptName]

/-- What the environment decides about one operation: what is written, what a failed
write leaves of its file, and what a subprocess leaves in the workspace. -/
structure Answer (Digest : Type) where
  written : FileContent Digest
  leftover : Option (FileContent Digest)
  left : Files Digest

def Operation.perform (raises : Bool) (answer : Answer Digest) (workspace : Files Digest) :
    Operation → Files Digest
  | .check => workspace
  | .write name =>
      Function.update workspace name (if raises then answer.leftover else some answer.written)
  | .subprocess => answer.left

/-- The operations are performed from number `i` on, up to the one that raises. -/
def perform (raisesAt : Option Nat) (answers : Nat → Answer Digest) :
    Nat → List Operation → Files Digest → Files Digest × Bool
  | _, [], workspace => (workspace, true)
  | i, operation :: operations, workspace =>
      if raisesAt = some i then (operation.perform true (answers i) workspace, false)
      else
        perform raisesAt answers (i + 1) operations
          (operation.perform false (answers i) workspace)

/-! ## A run -/

/-- What may fail: something before the workspace exists, an operation of the body, the
digest of a file, the manifest, a move into the output directory, the removal of the
workspace, or the last `print`. -/
inductive Place where
  | setup
  | body (i : Nat)
  | digest (name : String)
  | manifest
  | replace (name : String)
  | cleanup
  | print
  deriving DecidableEq

/-- One run: the choice of the disassembler, the answers, what a failed write leaves of
the manifest, and the place that fails, if any does. -/
structure ProofRun (Digest : Type) where
  toolDir : Bool
  answers : Nat → Answer Digest
  manifestLeftover : Option (FileContent Digest)
  fault : Option Place

namespace ProofRun

/-- `preflight`: the managed files of earlier runs are removed. -/
def preflight (output : Files Digest) : Files Digest :=
  fun name => if name ∈ outputNames then none else output name

def raisesAt (run : ProofRun Digest) : Option Nat :=
  match run.fault with
  | some (.body i) => some i
  | _ => none

/-- The workspace the body leaves, and whether it ran to its end. -/
def prepared (run : ProofRun Digest) : Files Digest × Bool :=
  perform run.raisesAt run.answers 0 (body run.toolDir) fun _ => none

/-- The names of the manifest: the managed files of the workspace, sorted. -/
def names (workspace : Files Digest) : List String :=
  (outputNames.filter fun name => name ≠ manifestName ∧ (workspace name).isSome).mergeSort
    fun a b => decide (a ≤ b)

/-- The digests of the named files. -/
def entries (digest : FileContent Digest → Digest) (workspace : Files Digest) :
    List (String × Digest) :=
  (names workspace).filterMap fun name => (workspace name).map fun file => (name, digest file)

/-- The handler of `evidence_workspace`: the logs are kept, and nothing that looks like
success. -/
def keepLogs (d : Directories String (FileContent Digest)) :
    Directories String (FileContent Digest) :=
  d.moveAll (outputNames.filter fun name =>
    name ∉ [receiptName, manifestName, cfgName] ∧ (d.source name).isSome)

/-- `main` from the end of `preflight` on: the output directory and the exit status. -/
def main (digest : FileContent Digest → Digest) (run : ProofRun Digest)
    (output : Files Digest) : Files Digest × Nat :=
  let output := preflight output
  if run.fault = some .setup then (output, 1)
  else
    let (workspace, ended) := run.prepared
    let failed (d : Directories String (FileContent Digest)) := ((keepLogs d).target, 1)
    if ended = false then failed ⟨workspace, output⟩
    else if (names workspace).any (fun name => run.fault = some (.digest name)) then
      failed ⟨workspace, output⟩
    else if run.fault = some .manifest then
      failed ⟨Function.update workspace manifestName run.manifestLeftover, output⟩
    else
      let manifest : FileContent Digest := .digests (entries digest workspace)
      let (d, moved) := Directories.moveUntil (fun name => run.fault = some (.replace name))
        (names workspace ++ [manifestName])
        ⟨Function.update workspace manifestName (some manifest), output⟩
      if moved = false then failed d
      else (d.target, if run.fault = some .cleanup ∨ run.fault = some .print then 1 else 0)

/-! ## What is published -/

/-- The files a manifest names are there with the digests it lists. -/
def Listed (digest : FileContent Digest → Digest) (output : Files Digest) : Prop :=
  ∀ manifest ∈ output manifestName, ∃ entries, manifest = .digests entries ∧
    ∀ entry ∈ entries, ∃ file ∈ output entry.1, digest file = entry.2

/-- A run that exits with an error leaves neither the receipt nor the manifest. -/
def Atomic (digest : FileContent Digest → Digest) (output : Files Digest) (status : Nat) : Prop :=
  (status ≠ 0 → output receiptName = none ∧ output manifestName = none) ∧ Listed digest output

/-- What fails comes after the receipt has been moved: the move of the manifest or of a
file whose name sorts after the receipt's, the removal of the workspace, or the `print`. -/
def Late (run : ProofRun Digest) : Prop :=
  run.fault = some .cleanup ∨ run.fault = some .print ∨
    run.fault = some (.replace manifestName) ∨
      ∃ name ∈ outputNames, receiptName < name ∧ (run.prepared.1 name).isSome ∧
        run.fault = some (.replace name)

variable {digest : FileContent Digest → Digest} {run : ProofRun Digest} {name : String}
  {workspace output : Files Digest} {d : Directories String (FileContent Digest)}

theorem preflight_managed (managed : name ∈ outputNames) (output : Files Digest) :
    preflight output name = none := if_pos managed

theorem receipt_managed : receiptName ∈ outputNames := by decide

theorem manifest_managed : manifestName ∈ outputNames := by decide

/-! ### The workspace -/

/-- Operations that end with a write leave that file when none of them raises. -/
theorem perform_last {raisesAt : Option Nat} {answers : Nat → Answer Digest}
    {operations : List Operation} {i : Nat}
    (ended : (perform raisesAt answers i (operations ++ [.write name]) workspace).2 = true) :
    ((perform raisesAt answers i (operations ++ [.write name]) workspace).1 name).isSome := by
  induction operations generalizing i workspace with
  | nil =>
      simp only [List.nil_append, perform] at ended ⊢
      split at ended
      · cases ended
      · rename_i passed
        simp [passed, Operation.perform]
  | cons operation operations ih =>
      simp only [List.cons_append, perform] at ended ⊢
      split at ended
      · cases ended
      · rename_i passed
        rw [if_neg passed]
        exact ih ended

theorem body_last (toolDir : Bool) :
    body toolDir = (body toolDir).dropLast ++ [.write receiptName] := by
  cases toolDir <;> rfl

theorem receipt_prepared (ended : run.prepared.2 = true) :
    (run.prepared.1 receiptName).isSome := by
  rw [prepared, body_last] at ended ⊢
  exact perform_last ended

theorem mem_names :
    name ∈ names workspace ↔
      name ∈ outputNames ∧ name ≠ manifestName ∧ (workspace name).isSome := by
  simp [names]

theorem sorted_names (workspace : Files Digest) : (names workspace).Pairwise (· < ·) := by
  have ordered : (names workspace).Pairwise (· ≤ ·) := by
    apply List.Pairwise.imp of_decide_eq_true
    apply List.pairwise_mergeSort
    · intro a b c first second
      exact decide_eq_true (le_trans (of_decide_eq_true first) (of_decide_eq_true second))
    · intro a b
      simpa using le_total a b
  have distinct : (names workspace).Nodup := by
    apply (List.mergeSort_perm ..).nodup_iff.mpr
    exact List.Nodup.filter _ (by decide)
  exact ordered.imp₂ (fun _ _ le ne => lt_of_le_of_ne le ne) distinct

theorem mem_entries {entry : String × Digest} (listed : entry ∈ entries digest workspace) :
    entry.1 ∈ names workspace ∧ ∃ file ∈ workspace entry.1, digest file = entry.2 := by
  obtain ⟨name, named, given⟩ := List.mem_filterMap.mp listed
  obtain ⟨file, present, rfl⟩ := Option.map_eq_some_iff.mp given
  exact ⟨named, file, present, rfl⟩

/-! ### The moves -/

/-- In a sorted list the names before one of its names are the smaller ones. -/
theorem mem_takeWhile_ne {sorted rest : List String} (order : sorted.Pairwise (· < ·))
    {stop : String} (inside : stop ∈ sorted) :
    name ∈ (sorted ++ rest).takeWhile (fun name => !decide (stop = name)) ↔
      name ∈ sorted ∧ name < stop := by
  induction sorted with
  | nil => cases inside
  | cons first sorted ih =>
      obtain ⟨smaller, order⟩ := List.pairwise_cons.mp order
      by_cases here : stop = first
      · subst here
        simp only [List.cons_append, List.takeWhile_cons, decide_true, Bool.not_true,
          Bool.false_eq_true, if_false, List.not_mem_nil, false_iff]
        rintro ⟨member, below⟩
        rcases List.mem_cons.mp member with rfl | later
        · exact lt_irrefl _ below
        · exact lt_asymm below (smaller name later)
      · have later := List.mem_of_ne_of_mem here inside
        simp only [List.cons_append, List.takeWhile_cons, here, decide_false, Bool.not_false,
          if_true, List.mem_cons, ih order later]
        constructor
        · rintro (rfl | ⟨member, below⟩)
          · exact ⟨.inl rfl, smaller _ later⟩
          · exact ⟨.inr member, below⟩
        · rintro ⟨rfl | member, below⟩
          · exact .inl rfl
          · exact .inr ⟨member, below⟩

theorem keepLogs_unlisted (d : Directories String (FileContent Digest)) :
    (keepLogs d).target receiptName = d.target receiptName ∧
      (keepLogs d).target manifestName = d.target manifestName := by
  constructor <;> exact Directories.target_moveAll_of_notMem _ (by simp)

theorem Listed.of_absent (absent : output manifestName = none) : Listed digest output := by
  intro manifest present
  rw [absent] at present
  cases present

theorem listed_keepLogs (absent : d.target manifestName = none) :
    Listed digest (keepLogs d).target :=
  .of_absent ((keepLogs_unlisted d).2.trans absent)

/-- A failure is atomic when neither of the two has been moved yet. -/
theorem atomic_keepLogs (manifest : d.target manifestName = none) :
    Atomic digest (keepLogs d).target 1 ↔ ¬(d.target receiptName).isSome := by
  have listed : Listed digest (keepLogs d).target := listed_keepLogs manifest
  obtain ⟨receipt, same⟩ := keepLogs_unlisted d
  rw [Atomic, and_iff_left listed, receipt, same, manifest]
  simp

theorem Atomic.failed (receipt : output receiptName = none)
    (manifest : output manifestName = none) :
    Atomic digest (keepLogs ⟨workspace, output⟩).target 1 :=
  (atomic_keepLogs manifest).mpr (by simp [receipt])

/-- The workspace with its manifest, beside the output directory. -/
def staged (digest : FileContent Digest → Digest) (workspace output : Files Digest) :
    Directories String (FileContent Digest) :=
  ⟨Function.update workspace manifestName (some (.digests (entries digest workspace))), output⟩

theorem listed_nodup (workspace : Files Digest) : (names workspace ++ [manifestName]).Nodup := by
  apply List.Nodup.append ((sorted_names workspace).imp ne_of_lt) (List.nodup_singleton _)
  intro name named last
  exact (mem_names.mp named).2.1 (List.mem_singleton.mp last)

theorem staged_source (named : name ∈ names workspace) :
    (staged digest workspace output).source name = workspace name :=
  Function.update_of_ne (mem_names.mp named).2.1 ..

/-- After all moves the manifest lists what is there, and the receipt is there. -/
theorem moved_all (digest : FileContent Digest → Digest) (output : Files Digest)
    (receipt : (workspace receiptName).isSome) :
    let published := ((staged digest workspace output).moveAll
      (names workspace ++ [manifestName])).target
    (published receiptName).isSome ∧ Listed digest published := by
  have there (name : String) (named : name ∈ names workspace) :
      ((staged digest workspace output).moveAll (names workspace ++ [manifestName])).target name =
        workspace name := by
    rw [Directories.target_moveAll_of_mem _ (listed_nodup workspace)
      (List.mem_append_left _ named), staged_source named]
  refine ⟨?_, fun manifest published => ?_⟩
  · rw [there receiptName (mem_names.mpr ⟨receipt_managed, by decide, receipt⟩)]
    exact receipt
  · rw [Directories.target_moveAll_of_mem _ (listed_nodup workspace) (by simp)] at published
    cases (Function.update_self manifestName _ workspace).symm.trans published
    refine ⟨_, rfl, fun entry listed => ?_⟩
    obtain ⟨named, file, present, same⟩ := mem_entries listed
    exact ⟨file, (there _ named).trans present, same⟩

theorem moved_receipt {before : List String} (distinct : before.Nodup)
    (receipt : (workspace receiptName).isSome) (absent : output receiptName = none) :
    (((staged digest workspace output).moveAll before).target receiptName).isSome ↔
      receiptName ∈ before := by
  by_cases moved : receiptName ∈ before
  · rw [Directories.target_moveAll_of_mem _ distinct moved,
      staged_source (mem_names.mpr ⟨receipt_managed, by decide, receipt⟩)]
    exact iff_of_true receipt moved
  · rw [Directories.target_moveAll_of_notMem _ moved]
    exact iff_of_false (by simp [staged, absent]) moved

/-- The names moved before `stop` are those that sort before it, all of them if it is the
manifest's. -/
theorem mem_moved {stop : String} (inside : stop ∈ names workspace ++ [manifestName]) :
    name ∈ (names workspace ++ [manifestName]).takeWhile (fun name => !decide (stop = name)) ↔
      name ∈ names workspace ∧ (stop = manifestName ∨ name < stop) := by
  rcases List.mem_append.mp inside with named | last
  · rw [mem_takeWhile_ne (sorted_names workspace) named]
    simp [(mem_names.mp named).2.1]
  · rw [List.mem_singleton.mp last, List.takeWhile_append_of_pos]
    · simp
    · intro name named
      simpa using (mem_names.mp named).2.1.symm

/-- The moves end at `stop`: the manifest is not there, and the receipt is there exactly
when it was moved before. -/
theorem moved_until (digest : FileContent Digest → Digest) {stop : String} (receipt : (workspace receiptName).isSome)
    (absent : output receiptName = none) (without : output manifestName = none)
    (inside : stop ∈ names workspace ++ [manifestName]) :
    let published := ((staged digest workspace output).moveAll
      ((names workspace ++ [manifestName]).takeWhile fun name => !decide (stop = name))).target
    published manifestName = none ∧
      ((published receiptName).isSome ↔ stop = manifestName ∨ receiptName < stop) := by
  have distinct := (listed_nodup workspace).sublist
    (List.takeWhile_sublist fun name => !decide (stop = name))
  constructor
  · rw [Directories.target_moveAll_of_notMem]
    · exact without
    · rw [mem_moved inside]
      exact fun listed => (mem_names.mp listed.1).2.1 rfl
  · rw [moved_receipt distinct receipt absent, mem_moved inside]
    exact and_iff_right (mem_names.mpr ⟨receipt_managed, by decide, receipt⟩)

theorem perform_ended {answers : Nat → Answer Digest} (operations : List Operation) (i : Nat)
    (workspace : Files Digest) : (perform none answers i operations workspace).2 = true := by
  induction operations generalizing i workspace with
  | nil => rfl
  | cons operation operations ih => exact ih ..

theorem fault_of_not_ended (failed : run.prepared.2 = false) : ∃ i, run.fault = some (.body i) := by
  rw [prepared, raisesAt] at failed
  split at failed
  · exact ⟨_, ‹_›⟩
  · rw [perform_ended] at failed
    cases failed

theorem late_replace {stop : String} (fault : run.fault = some (.replace stop))
    (inside : stop ∈ names run.prepared.1 ++ [manifestName]) :
    run.Late ↔ stop = manifestName ∨ receiptName < stop := by
  constructor
  · rintro (cleanup | print | manifest | ⟨name, -, later, -, same⟩)
    · simp [fault] at cleanup
    · simp [fault] at print
    · simp only [fault, Option.some.injEq, Place.replace.injEq] at manifest
      exact .inl manifest
    · simp only [fault, Option.some.injEq, Place.replace.injEq] at same
      exact .inr (same ▸ later)
  · rintro (rfl | later)
    · exact .inr (.inr (.inl fault))
    · rcases List.mem_append.mp inside with named | last
      · obtain ⟨managed, -, present⟩ := mem_names.mp named
        exact .inr (.inr (.inr ⟨stop, managed, later, present, fault⟩))
      · exact .inr (.inr (.inl (List.mem_singleton.mp last ▸ fault)))

/-- What the moves leave, whether they end or one of them fails. -/
theorem listed_moved (receipt : (run.prepared.1 receiptName).isSome)
    (absent : output receiptName = none) (without : output manifestName = none) :
    let moved := Directories.moveUntil (fun name => decide (run.fault = some (.replace name)))
      (names run.prepared.1 ++ [manifestName]) (staged digest run.prepared.1 output)
    Listed digest (if moved.2 = false then (keepLogs moved.1).target else moved.1.target) := by
  simp only [Directories.moveUntil_eq]
  split
  · next stopped =>
      obtain ⟨stop, inside, fault⟩ := List.all_eq_false.mp stopped
      have fault : run.fault = some (.replace stop) := by simpa using fault
      simp only [fault, Option.some.injEq, Place.replace.injEq]
      exact listed_keepLogs (moved_until digest receipt absent without inside).1
  · next completed =>
      have all := List.all_eq_true.mp (Bool.not_eq_false _ ▸ completed)
      rw [List.takeWhile_eq_self_iff.mpr all]
      exact (moved_all digest output receipt).2

/-- A failed move, and what comes after the moves. -/
theorem atomic_moved (receipt : (run.prepared.1 receiptName).isSome)
    (absent : output receiptName = none) (without : output manifestName = none) :
    let moved := Directories.moveUntil (fun name => decide (run.fault = some (.replace name)))
      (names run.prepared.1 ++ [manifestName]) (staged digest run.prepared.1 output)
    let result := if moved.2 = false then ((keepLogs moved.1).target, 1) else
      (moved.1.target, if run.fault = some .cleanup ∨ run.fault = some .print then 1 else 0)
    Atomic digest result.1 result.2 ↔ ¬run.Late := by
  simp only [Directories.moveUntil_eq]
  by_cases stops : ∃ stop ∈ names run.prepared.1 ++ [manifestName],
      run.fault = some (.replace stop)
  · obtain ⟨stop, inside, fault⟩ := stops
    obtain ⟨unlisted, moved⟩ := moved_until digest receipt absent without inside
    have stopped : (names run.prepared.1 ++ [manifestName]).all (fun name =>
        !decide (stop = name)) = false :=
      List.all_eq_false.mpr ⟨stop, inside, by simp⟩
    simp only [fault, Option.some.injEq, Place.replace.injEq, stopped, if_true]
    rw [atomic_keepLogs unlisted, moved, late_replace fault inside]
  · have completed : ∀ name ∈ names run.prepared.1 ++ [manifestName],
        (!decide (run.fault = some (.replace name))) = true := by
      intro name listed
      simpa using fun fault => stops ⟨name, listed, fault⟩
    have late : run.Late ↔ run.fault = some .cleanup ∨ run.fault = some .print := by
      constructor
      · rintro (cleanup | print | manifest | ⟨name, managed, later, present, fault⟩)
        · exact .inl cleanup
        · exact .inr print
        · exact absurd ⟨manifestName, by simp, manifest⟩ stops
        · have ne : name ≠ manifestName := by
            rintro rfl
            exact absurd later (by decide)
          exact absurd ⟨name, List.mem_append_left _ (mem_names.mpr ⟨managed, ne, present⟩), fault⟩
            stops
      · exact fun fault => fault.imp_right .inl
    obtain ⟨published, listed⟩ := moved_all digest output receipt
    rw [List.takeWhile_eq_self_iff.mpr completed, List.all_eq_true.mpr completed, late]
    simp only [Bool.true_eq_false, if_false]
    by_cases fault : run.fault = some .cleanup ∨ run.fault = some .print
    · simp only [fault, if_true, not_true_eq_false, iff_false]
      exact fun atomic => by simp [(atomic.1 one_ne_zero).1] at published
    · simp only [fault, if_false, not_false_eq_true, iff_true]
      exact ⟨fun exits => absurd rfl exits, listed⟩

/-- A run whose workspace gets as far as the receipt. -/
theorem atomic_of_ended (digest : FileContent Digest → Digest) (output : Files Digest)
    (started : run.fault ≠ some .setup) (ended : run.prepared.2 = true) :
    Atomic digest (run.main digest output).1 (run.main digest output).2 ↔ ¬run.Late := by
  have absent := preflight_managed receipt_managed output
  have without := preflight_managed manifest_managed output
  simp only [main, started, ended, Bool.true_eq_false, if_false]
  split
  · rename_i digests
    obtain ⟨name, -, fault⟩ := List.any_eq_true.mp digests
    exact iff_of_true (.failed absent without) (by simp [Late, of_decide_eq_true fault])
  · split
    · rename_i manifest
      exact iff_of_true (.failed absent without) (by simp [Late, manifest])
    · exact atomic_moved (receipt_prepared ended) absent without

/-- Whatever fails, the files of a manifest are there. -/
theorem listed_main (digest : FileContent Digest → Digest) (run : ProofRun Digest)
    (output : Files Digest) : Listed digest (run.main digest output).1 := by
  have absent := preflight_managed receipt_managed output
  have without := preflight_managed manifest_managed output
  by_cases setup : run.fault = some .setup
  · rw [main, if_pos setup]
    exact .of_absent without
  · cases ended : run.prepared.2 with
    | false =>
        simp only [main, setup, ended, if_false, if_true]
        exact listed_keepLogs without
    | true =>
        simp only [main, setup, ended, Bool.true_eq_false, if_false]
        split
        · exact listed_keepLogs without
        · split
          · exact listed_keepLogs without
          · rw [apply_ite Prod.fst]
            exact listed_moved (receipt_prepared ended) absent without

/-- A run is atomic unless what fails comes after the receipt has been moved, and in every
run the files that a manifest names are there as it lists them. -/
theorem atomic_iff_not_late (digest : FileContent Digest → Digest) (run : ProofRun Digest)
    (output : Files Digest) :
    (Atomic digest (run.main digest output).1 (run.main digest output).2 ↔ ¬run.Late) ∧
      Listed digest (run.main digest output).1 := by
  have absent := preflight_managed receipt_managed output
  have without := preflight_managed manifest_managed output
  refine ⟨?_, listed_main digest run output⟩
  by_cases setup : run.fault = some .setup
  · rw [main, if_pos setup]
    exact iff_of_true ⟨fun _ => ⟨absent, without⟩, .of_absent without⟩ (by simp [Late, setup])
  · cases ended : run.prepared.2 with
    | false =>
        obtain ⟨i, body⟩ := fault_of_not_ended ended
        simp only [main, setup, ended, if_false, if_true]
        exact iff_of_true (.failed absent without) (by simp [Late, body])
    | true => exact atomic_of_ended digest output setup ended

/-- The move of a log fails that sorts after the receipt. -/
theorem receipt_kept_on_failure :
    ¬∀ (digest : FileContent Nat → Nat) (run : ProofRun Nat) (output : Files Nat),
      Atomic digest (run.main digest output).1 (run.main digest output).2 := by
  intro holds
  let answer : Answer Nat := ⟨.bytes [], none, fun _ => some (.bytes [])⟩
  let run : ProofRun Nat := ⟨false, fun _ => answer, none, some (.replace "smoke.stdout.txt")⟩
  have late : run.Late :=
    .inr (.inr (.inr ⟨"smoke.stdout.txt", by decide, by decide, by decide, rfl⟩))
  exact (atomic_of_ended (fun _ => 0) (fun _ => none) (by simp [run]) (by decide)).mp
    (holds _ run _) late

end ProofRun
end AxolotyEmbedded.FirstInit
