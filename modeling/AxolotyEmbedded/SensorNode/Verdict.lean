import AxolotyEmbedded.SensorNode.Runs
import AxolotyEmbedded.SensorNode.Validator

/-!
The host's verdict on a run of the sensor node. What the node counts is never held against it: a
run passes if and only if nothing is wrong with what the node could not decide by itself.
-/
namespace AxolotyEmbedded.SensorNode

open Smoke (JsValue isText isNumber)

/-! ## Received lines -/

def maximumSafe : Nat := 9007199254740991

/-- A line with the host's clock when it arrived. -/
structure Received where
  line : Line
  receivedAtMs : Int
  safe : receivedAtMs.natAbs ≤ maximumSafe

/-- A metrics line that was received. -/
structure Sample where
  counters : Counters
  platform : Metrics
  receivedAtMs : Int
  safe : receivedAtMs.natAbs ≤ maximumSafe

def Line.json (line : Line) : Record := line.members.map fun member => (member.1, member.2.value)

/-- `{ ...record, receivedAtMs }`. -/
def stamp (line : Line) (receivedAtMs : Int) : Record :=
  line.json ++ [(text "receivedAtMs", .num (.finite receivedAtMs))]

def Received.record (received : Received) : Record := stamp received.line received.receivedAtMs

def Sample.record (sample : Sample) : Record :=
  stamp (.metrics sample.counters sample.platform) sample.receivedAtMs

def Received.sample : Received → Option Sample
  | ⟨.metrics counters platform, receivedAtMs, safe⟩ => some ⟨counters, platform, receivedAtMs, safe⟩
  | _ => none

def samplesIn (received : List Received) : List Sample := received.filterMap Received.sample

def Line.isAdvertised : Line → Bool
  | advertised => true
  | _ => false

def Line.isRestart : Line → Bool
  | restart => true
  | _ => false

def Line.isUnconfigured : Line → Bool
  | unconfigured => true
  | _ => false

variable {received : List Received} {conversions : Conversions} {line : Line} {at' : Int}

theorem isEvent_advertised : (stamp line at').isEvent "sensor-node-advertised" = line.isAdvertised := by
  cases line <;> rfl

theorem isEvent_ended : (stamp line at').isEvent "sensor-node-session-ended" = line.isEnded := by
  cases line <;> rfl

theorem isEvent_restart : (stamp line at').isEvent "sensor-node-restart" = line.isRestart := by
  cases line <;> rfl

theorem isEvent_unconfigured :
    (stamp line at').isEvent "sensor-node-unconfigured" = line.isUnconfigured := by
  cases line <;> rfl

theorem samplesOf_received (received : List Received) :
    samplesOf (received.map Received.record) = (samplesIn received).map Sample.record := by
  induction received with
  | nil => rfl
  | cons first rest ih =>
      obtain ⟨line, receivedAtMs, safe⟩ := first
      rw [samplesOf, List.map_cons, List.filter_cons]
      cases line with
      | metrics counters platform => exact congrArg (_ :: ·) ih
      | _ => exact ih

theorem endedOf_received (received : List Received) :
    endedOf (received.map Received.record) =
      (received.filter fun received => received.line.isEnded).map Received.record := by
  rw [endedOf, List.filter_map]
  congr 1
  apply List.filter_congr
  intro first member
  exact isEvent_ended

/-! ## Numbers -/

theorem safeInteger_number {value : Int} (safe : value.natAbs ≤ maximumSafe) :
    safeInteger (number value) = some value := by
  rw [number, safeInteger, if_pos]
  · rfl
  · refine ⟨?_, ?_⟩
    · simp [Rat.isInt]
    · exact safe

theorem natAbs_toNat (value : BitVec 32) : (value.toNat : Int).natAbs ≤ maximumSafe := by
  have bound := value.isLt
  rw [Int.natAbs_natCast, maximumSafe]
  omega

theorem isCount_number (value : BitVec 32) : isCount (number value.toNat) = true := by
  rw [isCount, safeInteger_number (natAbs_toNat value), Option.any_some, decide_eq_true_eq]
  exact Int.natCast_nonneg _

@[simp] theorem isLess_number (x y : Int) :
    isLess conversions (number x) (number y) = some (decide (x < y)) := by
  rw [number, number, isLess, numberLess]
  exact congrArg some (decide_eq_decide.mpr Rat.intCast_lt_intCast)

@[simp] theorem isNumber_number (x y : Int) : isNumber (number x) y = decide (x = y) := by
  rw [number, isNumber]
  exact decide_eq_decide.mpr Rat.intCast_inj

@[simp] theorem isNumber_zero (x : Int) : isNumber (number x) 0 = decide (x = 0) :=
  isNumber_number x 0

theorem isGreater_number (x y : Int) : isGreater conversions (number x) (number y) = decide (y < x) := by
  rw [isGreater, isLess_number]
  cases decide (y < x) <;> rfl

theorem isAtMost_number (x y : Int) : isAtMost conversions (number x) (number y) = decide (x ≤ y) := by
  rw [isAtMost, isLess_number]
  by_cases less : y < x
  · simp [less, Int.not_le.mpr less]
  · simp [less, Int.not_lt.mp less]

theorem isAtLeast_number (x y : Int) : isAtLeast conversions (number x) (number y) = decide (y ≤ x) := by
  rw [isAtLeast, isLess_number]
  by_cases less : x < y
  · simp [less, Int.not_le.mpr less]
  · simp [less, Int.not_lt.mp less]

/-! ## Samples -/

theorem failIf_eq_nil {condition : Bool} {failure : Failure} :
    failIf condition failure = [] ↔ condition = false := by
  cases condition <;> simp [failIf]

/-- What the platform reports is possible. -/
def Metrics.Sane (platform : Metrics) : Prop :=
  platform.mainStackHighWater ≤ platform.mainStackSize ∧
    platform.minimumFreeInternalHeap ≤ platform.freeInternalHeap

theorem isCount_field (sample : Sample) :
    ∀ field ∈ sampleFields, isCount (sample.record.get field) = true := by
  simp only [sampleFields, timingFields, List.cons_append, List.nil_append, List.forall_mem_cons]
  refine ⟨isCount_number _, isCount_number _, isCount_number _, isCount_number _, isCount_number _,
    isCount_number _, isCount_number _, isCount_number _, isCount_number _, isCount_number _,
    isCount_number _, isCount_number _, isCount_number _, ?_⟩
  intro field member
  cases member

/-- The failures of a publish that a sample may show. -/
def Excused (mode : Mode) (ended : Nat) (counters : Counters) : Prop :=
  match mode with
  | .normal => counters.publishFailures = 0
  | .recovery => counters.publishFailures.toNat ≤ ended

theorem natCast_toNat_eq_zero {value : BitVec 32} : (value.toNat : Int) = 0 ↔ value = 0 := by
  rw [Int.natCast_eq_zero]
  exact ⟨fun zero => BitVec.eq_of_toNat_eq zero, fun zero => by rw [zero]; rfl⟩

theorem sampleFailures_eq_nil (mode : Mode) (ended index : Nat) (sample : Sample) :
    sampleFailures conversions mode ended index sample.record = [] ↔
      sample.platform.Sane ∧ Excused mode ended sample.counters ∧ sample.counters.rejected = 0 := by
  have stack : isGreater conversions (sample.record.get "stackRemaining") (sample.record.get "stackSize") =
      decide ((sample.platform.mainStackSize.toNat : Int) < sample.platform.mainStackHighWater.toNat) :=
    isGreater_number _ _
  have heap : isGreater conversions (sample.record.get "minimumFreeHeap") (sample.record.get "freeHeap") =
      decide ((sample.platform.freeInternalHeap.toNat : Int) <
        sample.platform.minimumFreeInternalHeap.toNat) := isGreater_number _ _
  have rejected : isNumber (sample.record.get "rejected") 0 =
      decide ((sample.counters.rejected.toNat : Int) = 0) := isNumber_zero _
  have fields : (sampleFields.flatMap fun field =>
      failIf (!isCount (sample.record.get field)) (.invalidField (index + 1) field)) = [] := by
    rw [List.flatMap_eq_nil_iff]
    intro field member
    rw [isCount_field sample field member]
    rfl
  have zero : isNumber (sample.record.get "publishFailures") 0 =
      decide ((sample.counters.publishFailures.toNat : Int) = 0) := isNumber_zero _
  have few : isGreater conversions (sample.record.get "publishFailures") (number ended) =
      decide ((ended : Int) < sample.counters.publishFailures.toNat) := isGreater_number _ _
  unfold sampleFailures
  rw [fields, stack, heap, rejected, zero, few]
  cases mode <;>
    simp only [List.nil_append, List.append_eq_nil_iff, failIf_eq_nil, decide_eq_false_iff_not, Int.not_lt,
      Bool.not_eq_false', decide_eq_true_eq, natCast_toNat_eq_zero, Metrics.Sane, Excused, BitVec.le_def,
      Int.ofNat_le, and_assoc]

theorem flatten_mapIdx_eq_nil {α β γ : Type} {g : α → β} {f : Nat → β → List γ} {P : α → Prop}
    (silent : ∀ index item, f index (g item) = [] ↔ P item) (items : List α) :
    ((items.map g).mapIdx f).flatten = [] ↔ ∀ item ∈ items, P item := by
  rw [List.flatten_eq_nil_iff]
  constructor
  · intro all item member
    obtain ⟨index, bound, rfl⟩ := List.getElem_of_mem member
    apply (silent index _).mp
    apply all
    rw [List.mem_mapIdx]
    exact ⟨index, by rwa [List.length_map], by rw [List.getElem_map]⟩
  · intro all list member
    obtain ⟨index, bound, rfl⟩ := List.mem_mapIdx.mp member
    rw [List.getElem_map]
    exact (silent index _).mpr (all _ (List.getElem_mem _))

/-- Samples with readings that grow are not stalled. -/
theorem stalledFailures_eq_nil {samples : List Sample}
    (grow : samples.Pairwise fun first second => first.counters.readings < second.counters.readings) :
    stalledFailures conversions (samples.map Sample.record) = [] := by
  induction samples with
  | nil => rfl
  | cons first rest ih =>
      cases rest with
      | nil => rfl
      | cons second rest =>
          have less := (List.pairwise_cons.mp grow).1 second List.mem_cons_self
          have advanced : isAtMost conversions (second.record.get "readings") (first.record.get "readings") =
              decide ((second.counters.readings.toNat : Int) ≤ first.counters.readings.toNat) :=
            isAtMost_number _ _
          have apart : isAtMost conversions (second.record.get "readings") (first.record.get "readings") =
              false := by
            rw [advanced, decide_eq_false_iff_not, Int.not_le, Int.ofNat_lt]
            exact less
          rw [List.map_cons, List.map_cons, stalledFailures, apart]
          exact ih (List.pairwise_cons.mp grow).2

/-- What the last sample must show. -/
def Served (counters : Counters) : Prop := counters.rejected = 0 ∧ counters.resolves ≠ 0

theorem lastFailures_eq_nil (mode : Mode) (samples : List Sample) :
    lastFailures conversions mode (samples.map Sample.record) = [] ↔
      ∀ last ∈ samples.getLast?, (mode = .normal → last.counters.publishFailures = 0) ∧
        Served last.counters := by
  unfold lastFailures
  rw [List.getLast?_map]
  cases samples.getLast? with
  | none => simp
  | some last =>
      have publish : isNumber (last.record.get "publishFailures") 0 =
          decide ((last.counters.publishFailures.toNat : Int) = 0) := isNumber_zero _
      have rejected : isNumber (last.record.get "rejected") 0 =
          decide ((last.counters.rejected.toNat : Int) = 0) := isNumber_zero _
      have resolves : isLess conversions (last.record.get "resolves") (number 1) =
          some (decide ((last.counters.resolves.toNat : Int) < 1)) := isLess_number _ _
      simp only [Option.map_some, List.append_eq_nil_iff, failIf_eq_nil, publish, rejected, resolves,
        natCast_toNat_eq_zero, Option.mem_def, Option.some.injEq, forall_eq', Served]
      have one : ((some (decide ((last.counters.resolves.toNat : Int) < 1)) == some true) = false) ↔
          last.counters.resolves ≠ 0 := by
        rw [Ne, ← natCast_toNat_eq_zero]
        simp
      rw [one]
      cases mode <;> simp [and_assoc]

/-! ## Lawful consoles -/

theorem pairwise_of_split {α : Type} {R : α → α → Prop} {items : List α}
    (split : ∀ before item rest, items = before ++ item :: rest → ∀ earlier ∈ before, R earlier item) :
    items.Pairwise R := by
  induction items using List.reverseRecOn with
  | nil => exact List.Pairwise.nil
  | append_singleton items last ih =>
      rw [List.pairwise_append]
      refine ⟨ih ?_, List.pairwise_singleton _ _, ?_⟩
      · intro before item rest same
        apply split before item (rest ++ [last])
        rw [same, List.append_assoc, List.cons_append]
      · intro earlier member item only
        rw [List.mem_singleton.mp only]
        exact split items last [] rfl earlier member

theorem Lawful.advertised {lines : List Line} (lawful : Lawful lines) (opened : isOpen lines = true) :
    Line.advertised ∈ lines := by
  induction lines using List.reverseRecOn with
  | nil => cases opened
  | append_singleton lines last ih =>
      obtain ⟨calls, small, follows⟩ := lawful lines last [] rfl
      cases last with
      | advertised => simp
      | metrics counters platform =>
          apply List.mem_append_left
          exact ih (lawful.of_isPrefix (List.prefix_append _ _)) follows.fits.1
      | _ => simp [isOpen] at opened

/-- Nothing comes after the line with which the application returns. -/
theorem Lawful.last {lines before rest : List Line} (lawful : Lawful lines)
    (split : lines = before ++ line :: rest) (last : line.isLast = true) : rest = [] := by
  cases rest with
  | nil => rfl
  | cons next rest =>
      obtain ⟨calls, small, follows⟩ := lawful (before ++ [line]) next rest (by simp [split])
      have running := follows.running
      rw [stopped, List.any_append, List.any_cons, last] at running
      simp at running

theorem Lawful.unconfigured {lines : List Line} (lawful : Lawful lines) (member : .unconfigured ∈ lines) :
    lines = [.unconfigured] := by
  obtain ⟨before, rest, split⟩ := List.append_of_mem member
  obtain ⟨calls, small, follows⟩ := lawful before _ rest split
  have first : before = [] := follows.fits
  rw [split, first, lawful.last split rfl]
  rfl

/-- The node does not restart before sessions have ended. -/
theorem Lawful.restart {lines : List Line} (lawful : Lawful lines) (member : .restart ∈ lines) :
    ∃ line ∈ lines, line.isEnded = true := by
  obtain ⟨before, rest, split⟩ := List.append_of_mem member
  obtain ⟨calls, small, follows⟩ := lawful before _ rest split
  have ten : (before.reverse.takeWhile Line.isFailed).length = maximumFailedSessions := follows.fits.1
  cases found : before.reverse.takeWhile Line.isFailed with
  | nil =>
      rw [found] at ten
      cases ten
  | cons failed others =>
      have within : failed ∈ before.reverse.takeWhile Line.isFailed := by
        rw [found]
        exact List.mem_cons_self
      have fails := List.all_eq_true.mp List.all_takeWhile failed within
      refine ⟨failed, ?_, ?_⟩
      · rw [split]
        apply List.mem_append_left
        exact List.mem_reverse.mp ((List.takeWhile_sublist _).subset within)
      · cases failed with
        | ended stage => rfl
        | _ => cases fails

/-- One sample comes after another one. -/
def Sample.Precedes (earlier later : Sample) : Prop :=
  earlier.counters.readings < later.counters.readings ∧ Later earlier.counters later.counters

theorem sample_eq_some {arrived : Received} {sample : Sample} (found : arrived.sample = some sample) :
    arrived.line = .metrics sample.counters sample.platform ∧
      arrived.receivedAtMs = sample.receivedAtMs := by
  obtain ⟨line, receivedAtMs, safe⟩ := arrived
  cases line with
  | metrics counters platform =>
      cases found
      exact ⟨rfl, rfl⟩
  | _ => cases found

section Console

variable (lawful : Lawful (received.map Received.line))
include lawful

theorem follows_of_received {before rest : List Received} {arrived : Received}
    (split : received = before ++ arrived :: rest) :
    ∃ calls < 2 ^ 32, Follows (before.map Received.line) calls arrived.line := by
  apply lawful (before.map Received.line) arrived.line (rest.map Received.line)
  rw [split, List.map_append, List.map_cons]

theorem samples_pairwise : (samplesIn received).Pairwise Sample.Precedes := by
  have ordered : received.Pairwise fun earlier later =>
      ∀ sample, earlier.sample = some sample → ∀ sample', later.sample = some sample' →
        sample.Precedes sample' := by
    apply pairwise_of_split
    intro before arrived rest split earlier member sample found sample' found'
    obtain ⟨calls, small, follows⟩ := follows_of_received lawful split
    have fits := follows.fits
    rw [(sample_eq_some found').1] at fits
    apply fits.2.2 small sample.counters sample.platform
    rw [← (sample_eq_some found).1]
    exact List.mem_map_of_mem member
  exact ordered.filterMap Received.sample fun _ _ precedes => precedes

/-- Each sample by what was received before it. -/
theorem sample_split {sample : Sample} (member : sample ∈ samplesIn received) :
    ∃ before arrived rest calls, received = before ++ arrived :: rest ∧
      arrived.receivedAtMs = sample.receivedAtMs ∧
        Follows (before.map Received.line) calls (.metrics sample.counters sample.platform) := by
  obtain ⟨arrived, within, found⟩ := List.mem_filterMap.mp member
  obtain ⟨before, rest, split⟩ := List.append_of_mem within
  obtain ⟨calls, small, follows⟩ := follows_of_received lawful split
  rw [(sample_eq_some found).1] at follows
  exact ⟨before, arrived, rest, calls, split, (sample_eq_some found).2, follows⟩

theorem advertised_of_sample {sample : Sample} (member : sample ∈ samplesIn received) :
    ∃ arrived ∈ received, arrived.line = .advertised := by
  obtain ⟨before, arrived, rest, calls, split, received', follows⟩ := sample_split lawful member
  have within : before.map Received.line <+: received.map Received.line := by
    rw [split, List.map_append]
    exact List.prefix_append _ _
  obtain ⟨first, member, advertised⟩ :=
    List.mem_map.mp ((lawful.of_isPrefix within).advertised follows.fits.1)
  refine ⟨first, ?_, advertised⟩
  rw [split]
  exact List.mem_append_left _ member

theorem configured_of_sample {sample : Sample} (member : sample ∈ samplesIn received) :
    ∀ arrived ∈ received, arrived.line ≠ .unconfigured := by
  intro arrived within unconfigured
  have only := lawful.unconfigured (List.mem_map.mpr ⟨arrived, within, unconfigured⟩)
  obtain ⟨first, found, advertised⟩ := advertised_of_sample lawful member
  have other : Line.advertised ∈ received.map Received.line := List.mem_map.mpr ⟨first, found, advertised⟩
  rw [only, List.mem_singleton] at other
  cases other

/-- A sample counts at most one failed publish for each session that ended. -/
theorem publishFailures_le {sample : Sample} (member : sample ∈ samplesIn received) :
    sample.counters.publishFailures.toNat ≤
      (received.filter fun arrived => arrived.line.isEnded).length := by
  obtain ⟨before, arrived, rest, calls, split, received', follows⟩ := sample_split lawful member
  calc sample.counters.publishFailures.toNat
      ≤ endedCount (before.map Received.line) := follows.fits.2.1.publishFailures
    _ = (before.filter fun arrived => arrived.line.isEnded).length := by
        rw [endedCount, List.countP_map, List.countP_eq_length_filter]
        rfl
    _ ≤ _ := by
        rw [split, List.filter_append, List.length_append]
        exact Nat.le_add_right _ _

end Console

/-! ## Runs -/

/-- What both modes ask of a run. -/
structure Steady (received : List Received) : Prop where
  samples : minimumSamples ≤ (samplesIn received).length
  sane : ∀ sample ∈ samplesIn received, sample.platform.Sane
  served : ∀ last ∈ (samplesIn received).getLast?, Served last.counters

/-- What a mode asks of the sessions. -/
def Mode.Undisturbed (mode : Mode) (received : List Received) : Prop :=
  match mode with
  | .normal => ∀ arrived ∈ received, arrived.line.isEnded = false
  | .recovery => ∀ arrived ∈ received, arrived.line.isRestart = false

theorem any_isEvent {event : String} {holds : Line → Bool}
    (same : ∀ line at', (stamp line at').isEvent event = holds line) (received : List Received) :
    (received.map Received.record).any (·.isEvent event) =
      received.any fun arrived => holds arrived.line := by
  rw [List.any_map]
  congr 1
  funext arrived
  exact same arrived.line arrived.receivedAtMs

theorem endedFailures_eq_nil (mode : Mode) {arrived : Received} (ended : arrived.line.isEnded = true) :
    endedFailures mode arrived.record = [] ↔ mode ≠ .normal := by
  obtain ⟨line, receivedAtMs, safe⟩ := arrived
  cases line with
  | ended stage =>
      have known : isStage ((stamp (.ended stage) receivedAtMs).get "stage") = true := by
        cases stage <;> rfl
      change endedFailures mode (stamp (.ended stage) receivedAtMs) = [] ↔ _
      rw [endedFailures, if_pos known, failIf_eq_nil, decide_eq_false_iff_not]
  | _ => cases ended

theorem le_last {samples : List Sample} (ordered : samples.Pairwise Sample.Precedes) {last : Sample}
    (final : samples.getLast? = some last) :
    ∀ sample ∈ samples, sample.counters.rejected ≤ last.counters.rejected := by
  obtain ⟨others, rfl⟩ := List.getLast?_eq_some_iff.mp final
  intro sample member
  rw [List.mem_append, List.mem_singleton] at member
  cases member with
  | inl before =>
      exact ((List.pairwise_append.mp ordered).2.2 sample before last (List.mem_singleton.mpr rfl)).2.rejected
  | inr same =>
      rw [same]
      exact BitVec.le_refl _

theorem Steady.exists_sample (steady : Steady received) : ∃ sample, sample ∈ samplesIn received := by
  apply List.exists_mem_of_length_pos
  exact Nat.lt_of_lt_of_le (by decide) steady.samples

section Console

variable (lawful : Lawful (received.map Received.line))
include lawful

theorem Steady.rejected (steady : Steady received) :
    ∀ sample ∈ samplesIn received, sample.counters.rejected = 0 := by
  intro sample member
  cases final : (samplesIn received).getLast? with
  | none =>
      rw [List.getLast?_eq_none_iff.mp final] at member
      cases member
  | some last =>
      have most := le_last (samples_pairwise lawful) final sample member
      rw [(steady.served last final).1] at most
      exact BitVec.le_zero_iff.mp most

theorem Mode.Undisturbed.publishFailures {mode : Mode} (undisturbed : mode.Undisturbed received) :
    ∀ sample ∈ samplesIn received,
      Excused mode (received.filter fun arrived => arrived.line.isEnded).length sample.counters := by
  intro sample member
  have few := publishFailures_le lawful member
  cases mode with
  | normal =>
      have none : (received.filter fun arrived => arrived.line.isEnded) = [] := by
        rw [List.filter_eq_nil_iff]
        intro arrived within
        rw [undisturbed arrived within]
        exact Bool.false_ne_true
      rw [none, List.length_nil, Nat.le_zero] at few
      exact BitVec.eq_of_toNat_eq few
  | recovery => exact few

theorem Mode.Undisturbed.restart {mode : Mode} (undisturbed : mode.Undisturbed received) :
    ∀ arrived ∈ received, arrived.line.isRestart = false := by
  cases mode with
  | recovery => exact undisturbed
  | normal =>
      intro arrived within
      cases line : arrived.line with
      | restart =>
          obtain ⟨ended, found, isEnded⟩ := lawful.restart (List.mem_map.mpr ⟨arrived, within, line⟩)
          obtain ⟨first, member, rfl⟩ := List.mem_map.mp found
          rw [undisturbed first member] at isEnded
          cases isEnded
      | _ => rfl

/-- A run fails for what the node and its carrier met, and never for how it counts. -/
theorem runFailures_eq_nil (mode : Mode) :
    runFailures conversions mode (received.map Received.record) = [] ↔
      Steady received ∧ mode.Undisturbed received := by
  have ordered := samples_pairwise lawful
  have grow : (samplesIn received).Pairwise fun first second =>
      first.counters.readings < second.counters.readings := ordered.imp And.left
  have judged : ((endedOf (received.map Received.record)).flatMap (endedFailures mode) = []) ↔
      (mode = .normal → ∀ arrived ∈ received, arrived.line.isEnded = false) := by
    rw [endedOf_received, List.flatMap_eq_nil_iff, List.forall_mem_map]
    constructor
    · intro silent normal arrived member
      cases ended : arrived.line.isEnded with
      | false => rfl
      | true =>
          have quiet := silent arrived (List.mem_filter.mpr ⟨member, ended⟩)
          exact absurd normal ((endedFailures_eq_nil mode ended).mp quiet)
    · intro none arrived member
      obtain ⟨within, ended⟩ := List.mem_filter.mp member
      apply (endedFailures_eq_nil mode ended).mpr
      intro normal
      rw [none normal arrived within] at ended
      cases ended
  unfold runFailures
  rw [List.append_eq_nil_iff, List.append_eq_nil_iff, List.append_eq_nil_iff, List.append_eq_nil_iff,
    List.append_eq_nil_iff, List.append_eq_nil_iff, judged, samplesOf_received, endedOf_received,
    stalledFailures_eq_nil grow, lastFailures_eq_nil,
    flatten_mapIdx_eq_nil (sampleFailures_eq_nil mode _), failIf_eq_nil, any_isEvent @isEvent_advertised]
  simp only [List.flatMap_cons, List.flatMap_nil, List.append_nil, List.append_eq_nil_iff, failIf_eq_nil,
    any_isEvent @isEvent_restart, any_isEvent @isEvent_unconfigured, List.length_map,
    decide_eq_false_iff_not, Nat.not_lt, List.any_eq_false, Bool.not_eq_true, Bool.not_eq_false',
    List.any_eq_true, and_true]
  constructor
  · intro ⟨⟨⟨⟨⟨sane, _⟩, restarts, _⟩, ended⟩, enough⟩, last⟩
    refine ⟨⟨enough, fun sample member => (sane sample member).1, fun sample final => (last sample final).2⟩, ?_⟩
    cases mode with
    | normal => exact ended rfl
    | recovery => exact restarts
  · intro ⟨steady, undisturbed⟩
    have unrejected := steady.rejected lawful
    have published := undisturbed.publishFailures lawful
    refine ⟨⟨⟨⟨⟨?_, ?_⟩, undisturbed.restart lawful, ?_⟩, ?_⟩, steady.samples⟩, ?_⟩
    · intro sample member
      exact ⟨steady.sane sample member, published sample member, unrejected sample member⟩
    · obtain ⟨sample, member⟩ := steady.exists_sample
      obtain ⟨arrived, within, same⟩ := advertised_of_sample lawful member
      exact ⟨arrived, within, by rw [same]; rfl⟩
    · obtain ⟨sample, member⟩ := steady.exists_sample
      intro arrived within
      have other := configured_of_sample lawful member arrived within
      cases line : arrived.line with
      | unconfigured => exact absurd line other
      | _ => rfl
    · intro normal
      subst normal
      exact undisturbed
    · intro last final
      refine ⟨?_, steady.served last final⟩
      intro normal
      subst normal
      exact published last (List.mem_of_getLast? final)

end Console

/-! ## Floors -/

theorem number_inj {x y : Int} : number x = number y ↔ x = y := by
  constructor
  · intro same
    simpa [number] using same
  · intro same
    rw [same]

theorem safeInteger_eq_some {value : JsValue} {integer : Int} :
    safeInteger (some value) = some integer ↔ some value = number integer ∧ integer.natAbs ≤ maximumSafe := by
  constructor
  · intro found
    cases value with
    | num real =>
        cases real with
        | finite real =>
            rw [safeInteger] at found
            split at found
            · next safe =>
                obtain rfl := Option.some.inj found
                have same : ((real.num : Int) : ℚ) = real := Rat.ext rfl (of_decide_eq_true safe.1).symm
                exact ⟨by rw [number, same], safe.2⟩
            · cases found
        | _ => cases found
    | _ => cases found
  · intro ⟨same, safe⟩
    rw [same]
    exact safeInteger_number safe

theorem le_foldl_min {bound first : Int} {rest : List Int} :
    bound ≤ rest.foldl min first ↔ bound ≤ first ∧ ∀ value ∈ rest, bound ≤ value := by
  induction rest generalizing first with
  | nil => simp
  | cons second rest ih =>
      rw [List.foldl_cons, ih, le_min_iff, List.forall_mem_cons, and_assoc]

theorem lesser_finite (x y : Int) :
    lesser numberLess (.finite x) (.finite y) = .finite (min x y : Int) := by
  rw [lesser, numberLess]
  by_cases less : y < x
  · rw [decide_eq_true (Rat.intCast_lt_intCast.mpr less), min_eq_right less.le]
  · rw [decide_eq_false (mt Rat.intCast_lt_intCast.mp less), min_eq_left (Int.not_lt.mp less)]

theorem foldl_lesser (first : Int) (rest : List Int) :
    (rest.map fun value : Int => Binary64.finite (value : ℚ)).foldl (lesser numberLess) (.finite first) =
      .finite (rest.foldl min first : Int) := by
  induction rest generalizing first with
  | nil => rfl
  | cons second rest ih =>
      rw [List.map_cons, List.foldl_cons, lesser_finite, ih]
      rfl

/-- The least of some numbers is no less than a bound when each of them is. -/
theorem minimumOf_numbers {α : Type} (value : α → Int) {items : List α} (some' : items ≠ []) :
    ∃ least : Int, minimumOf conversions (items.map fun item => number (value item)) = .finite least ∧
      (∃ item ∈ items, least ≤ value item) ∧
        ∀ bound, bound ≤ least ↔ ∀ item ∈ items, bound ≤ value item := by
  cases items with
  | nil => exact absurd rfl some'
  | cons first rest =>
      refine ⟨(rest.map value).foldl min (value first), ?_, ?_, ?_⟩
      · rw [minimumOf, List.map_map, List.map_cons, List.foldl_cons]
        have same : (rest.map (toNumber conversions ∘ fun item => number (value item))) =
            (rest.map value).map fun value : Int => Binary64.finite (value : ℚ) := by
          rw [List.map_map]
          rfl
        rw [same]
        exact foldl_lesser _ _
      · exact ⟨first, List.mem_cons_self, (le_foldl_min.mp (Int.le_refl _)).1⟩
      · intro bound
        rw [le_foldl_min, List.forall_mem_map, List.forall_mem_cons]

/-- What a floor may be set for. -/
inductive Measured where
  | samples | readings | resolves | minimumFreeHeapBytes | stackRemainingBytes | stackSizeBytes

namespace Measured

def metric : Measured → Text
  | samples => text "samples"
  | readings => text "readings"
  | resolves => text "resolves"
  | minimumFreeHeapBytes => text "minimumFreeHeapBytes"
  | stackRemainingBytes => text "stackRemainingBytes"
  | stackSizeBytes => text "stackSizeBytes"

/-- What is measured of a run is no less than some number. -/
def AtLeast (measured : Measured) (run : List Sample) (floor : Int) : Prop :=
  match measured with
  | samples => floor ≤ run.length
  | readings => ∀ last ∈ run.getLast?, floor ≤ last.counters.readings.toNat
  | resolves => ∀ last ∈ run.getLast?, floor ≤ last.counters.resolves.toNat
  | minimumFreeHeapBytes => ∀ sample ∈ run, floor ≤ sample.platform.minimumFreeInternalHeap.toNat
  | stackRemainingBytes => ∀ sample ∈ run, floor ≤ sample.platform.mainStackHighWater.toNat
  | stackSizeBytes => ∀ last ∈ run.getLast?, floor ≤ last.platform.mainStackSize.toNat

theorem not_timing (measured : Measured) : timingFields.any (text · == measured.metric) = false := by
  cases measured <;> rfl

end Measured

/-- The budget of a run holds. -/
def FloorHolds (samples : List Sample) (budget : Text × JsValue) : Prop :=
  ∃ (measured : Measured) (floor : Nat), budget.1 = measured.metric ∧ some budget.2 = number floor ∧
    floor ≤ maximumSafe ∧ measured.AtLeast samples floor

section Metrics

variable {samples : List Sample} {recovery : Option (List Figures)} {metrics : RunMetrics}
  (made : metricsOf conversions (samples.map Sample.record) recovery = some metrics)
include made

theorem metrics_eq : ∃ last, samples.getLast? = some last ∧
    metrics =
      { samples := samples.length
        readings := number last.counters.readings.toNat
        resolves := number last.counters.resolves.toNat
        minimumFreeHeapBytes := minimumOf conversions
          (samples.map fun sample => number sample.platform.minimumFreeInternalHeap.toNat)
        stackRemainingBytes := minimumOf conversions
          (samples.map fun sample => number sample.platform.mainStackHighWater.toNat)
        stackSizeBytes := number last.platform.mainStackSize.toNat
        readingLastUs := number last.counters.readingLastUs.toNat
        readingMaxUs := maximumOf conversions
          (samples.map fun sample => number sample.counters.readingMaxUs.toNat)
        frameLastUs := number last.counters.frameLastUs.toNat
        frameMaxUs := maximumOf conversions
          (samples.map fun sample => number sample.counters.frameMaxUs.toNat)
        recovery } := by
  rw [metricsOf, List.getLast?_map] at made
  cases final : samples.getLast? with
  | none =>
      rw [final] at made
      cases made
  | some last =>
      rw [final, Option.map_some, Option.map_some, List.length_map, List.map_map, List.map_map,
        List.map_map, List.map_map] at made
      exact ⟨last, rfl, (Option.some.inj made).symm⟩

theorem exists_measure (few : samples.length < 2 ^ 32) (measured : Measured) :
    ∃ value : Int, metrics.get measured.metric = number value ∧ value.natAbs ≤ maximumSafe ∧
      ∀ floor, floor ≤ value ↔ measured.AtLeast samples floor := by
  obtain ⟨last, final, rfl⟩ := metrics_eq made
  have some' : samples ≠ [] := by
    intro none
    rw [none] at final
    cases final
  have least (value : Sample → BitVec 32) : ∃ least : Int,
      some (Json.num (minimumOf conversions (samples.map fun sample => number (value sample).toNat))) =
          number least ∧ least.natAbs ≤ maximumSafe ∧
        ∀ floor, floor ≤ least ↔ ∀ sample ∈ samples, floor ≤ (value sample).toNat := by
    obtain ⟨least, same, ⟨sample, member, most⟩, bounds⟩ :=
      @minimumOf_numbers conversions _ (fun sample => ((value sample).toNat : Int)) _ some'
    refine ⟨least, by rw [same]; rfl, ?_, bounds⟩
    have nonneg : 0 ≤ least := (bounds 0).mpr fun sample member => Int.natCast_nonneg _
    have bound := natAbs_toNat (value sample)
    omega
  have ofLast (value : Sample → BitVec 32) (floor : Int) :
      floor ≤ (value last).toNat ↔ ∀ last ∈ samples.getLast?, floor ≤ (value last).toNat := by
    rw [final]
    simp
  cases measured with
  | samples =>
      refine ⟨samples.length, rfl, ?_, fun floor => Iff.rfl⟩
      rw [Int.natAbs_natCast, maximumSafe]
      omega
  | readings => exact ⟨_, rfl, natAbs_toNat _, ofLast fun last => last.counters.readings⟩
  | resolves => exact ⟨_, rfl, natAbs_toNat _, ofLast fun last => last.counters.resolves⟩
  | minimumFreeHeapBytes => exact least fun sample => sample.platform.minimumFreeInternalHeap
  | stackRemainingBytes => exact least fun sample => sample.platform.mainStackHighWater
  | stackSizeBytes => exact ⟨_, rfl, natAbs_toNat _, ofLast fun last => last.platform.mainStackSize⟩

omit made in
/-- What has a measurement that is an integer. -/
theorem exists_measured {metric : Text} {value : JsValue} (found : metrics.get metric = some value)
    (integer : (safeInteger (some value)).isSome) (plain : timingFields.any (text · == metric) = false) :
    ∃ measured : Measured, metric = measured.metric := by
  rw [RunMetrics.get] at found
  by_cases samples : metric = text "samples"
  · exact ⟨.samples, samples⟩
  rw [if_neg samples] at found
  by_cases readings : metric = text "readings"
  · exact ⟨.readings, readings⟩
  rw [if_neg readings] at found
  by_cases resolves : metric = text "resolves"
  · exact ⟨.resolves, resolves⟩
  rw [if_neg resolves] at found
  by_cases minimumFreeHeapBytes : metric = text "minimumFreeHeapBytes"
  · exact ⟨.minimumFreeHeapBytes, minimumFreeHeapBytes⟩
  rw [if_neg minimumFreeHeapBytes] at found
  by_cases stackRemainingBytes : metric = text "stackRemainingBytes"
  · exact ⟨.stackRemainingBytes, stackRemainingBytes⟩
  rw [if_neg stackRemainingBytes] at found
  by_cases stackSizeBytes : metric = text "stackSizeBytes"
  · exact ⟨.stackSizeBytes, stackSizeBytes⟩
  rw [if_neg stackSizeBytes] at found
  by_cases readingLastUs : metric = text "readingLastUs"
  · rw [readingLastUs] at plain
    cases plain
  rw [if_neg readingLastUs] at found
  by_cases readingMaxUs : metric = text "readingMaxUs"
  · rw [readingMaxUs] at plain
    cases plain
  rw [if_neg readingMaxUs] at found
  by_cases frameLastUs : metric = text "frameLastUs"
  · rw [frameLastUs] at plain
    cases plain
  rw [if_neg frameLastUs] at found
  by_cases frameMaxUs : metric = text "frameMaxUs"
  · rw [frameMaxUs] at plain
    cases plain
  rw [if_neg frameMaxUs] at found
  by_cases recovery : metric = text "recovery"
  · rw [if_pos recovery] at found
    obtain ⟨figures, some', rfl⟩ := Option.map_eq_some_iff.mp found
    cases integer
  rw [if_neg recovery] at found
  by_cases inherited : (inheritedNames.any (text · == metric)) = true
  · rw [if_pos inherited] at found
    cases found
    cases integer
  · rw [if_neg inherited] at found
    cases found

theorem measuredFailures_eq_nil (few : samples.length < 2 ^ 32) (measured : Measured) (floor : JsValue) :
    budgetFailures conversions metrics (measured.metric, floor) = [] ↔
      ∃ bytes : Nat, some floor = number bytes ∧ bytes ≤ maximumSafe ∧ measured.AtLeast samples bytes := by
  obtain ⟨value, found, safe, bounds⟩ := exists_measure made few measured
  have integer : safeInteger (number value) = some value := safeInteger_number safe
  have plain : ¬timingFields.any (text · == measured.metric) = true := by
    rw [measured.not_timing]
    exact Bool.false_ne_true
  rw [budgetFailures, if_neg plain, found]
  change (if !isCount (some floor) then _ else if (safeInteger (number value)).isNone then _ else
    failIf (isLess conversions (number value) (some floor) == some true) _) = [] ↔ _
  rw [integer]
  cases given : safeInteger (some floor) with
  | none =>
      have count : isCount (some floor) = false := by rw [isCount, given]; rfl
      rw [count]
      constructor
      · intro silent
        cases silent
      · intro ⟨bytes, same, small, least⟩
        have natAbs : (bytes : Int).natAbs ≤ maximumSafe := small
        rw [same, safeInteger_number natAbs] at given
        cases given
  | some bytes =>
      obtain ⟨same, small⟩ := safeInteger_eq_some.mp given
      have count : isCount (some floor) = decide (0 ≤ bytes) := by rw [isCount, given]; rfl
      rw [count, same, isLess_number]
      by_cases nonneg : 0 ≤ bytes
      · obtain ⟨bytes, rfl⟩ := Int.eq_ofNat_of_zero_le nonneg
        have holds : (some (decide (value < bytes)) == some true) = false ↔ (bytes : Int) ≤ value := by
          simp
        rw [decide_eq_true nonneg]
        change failIf _ _ = [] ↔ _
        rw [failIf_eq_nil, holds, bounds]
        constructor
        · intro least
          exact ⟨bytes, rfl, small, least⟩
        · intro ⟨other, same', small', least⟩
          rw [number_inj.mp same']
          exact least
      · rw [decide_eq_false nonneg]
        constructor
        · intro silent
          cases silent
        · intro ⟨other, same', small', least⟩
          rw [number_inj.mp same'] at nonneg
          exact absurd (Int.natCast_nonneg other) nonneg

theorem budgetFailures_eq_nil (few : samples.length < 2 ^ 32) (budget : Text × JsValue) :
    budgetFailures conversions metrics budget = [] ↔ FloorHolds samples budget := by
  obtain ⟨metric, floor⟩ := budget
  constructor
  · intro silent
    have measured : ∃ measured : Measured, metric = measured.metric := by
      rw [budgetFailures] at silent
      cases plain : timingFields.any (text · == metric) with
      | true =>
          rw [if_pos plain] at silent
          cases silent
      | false =>
          rw [if_neg (by rw [plain]; exact Bool.false_ne_true)] at silent
          cases found : metrics.get metric with
          | none =>
              rw [found] at silent
              cases silent
          | some value =>
              rw [found] at silent
              cases integer : safeInteger (some value) with
              | none =>
                  simp only [integer, Option.isNone_none, if_true] at silent
                  split at silent <;> cases silent
              | some least => exact exists_measured found (by rw [integer]; rfl) plain
    obtain ⟨measured, rfl⟩ := measured
    obtain ⟨bytes, holds⟩ := (measuredFailures_eq_nil made few measured floor).mp silent
    exact ⟨measured, bytes, rfl, holds⟩
  · intro ⟨measured, bytes, same, holds⟩
    subst same
    exact (measuredFailures_eq_nil made few measured floor).mpr ⟨bytes, holds⟩

end Metrics

/-- Each floor that a profile declares holds. -/
def FloorsHold (samples : List Sample) (budgets : Option (List (Text × JsValue))) : Prop :=
  ∀ floors ∈ budgets, ∀ budget ∈ floors, FloorHolds samples budget

theorem floorFailures_eq_nil (steady : Steady received) (few : received.length < 2 ^ 32)
    (recovery : Option (List Figures)) (budgets : Option (List (Text × JsValue))) :
    floorFailures conversions
        (metricsOf conversions ((samplesIn received).map Sample.record) recovery) budgets = [] ↔
      FloorsHold (samplesIn received) budgets := by
  have few' : (samplesIn received).length < 2 ^ 32 :=
    Nat.lt_of_le_of_lt (List.length_filterMap_le _ _) few
  cases made : metricsOf conversions ((samplesIn received).map Sample.record) recovery with
  | none =>
      obtain ⟨sample, member⟩ := steady.exists_sample
      rw [metricsOf, Option.map_eq_none_iff, List.getLast?_eq_none_iff, List.map_eq_nil_iff] at made
      rw [made] at member
      cases member
  | some metrics =>
      cases budgets with
      | none => simp [floorFailures, FloorsHold]
      | some budgets =>
          rw [floorFailures, List.flatMap_eq_nil_iff]
          simp only [budgetFailures_eq_nil made few', FloorsHold, Option.mem_def, Option.some.injEq,
            forall_eq']

/-- What fails a run is something that its samples or its sessions show, or an outage. -/
theorem evaluateSensorRun_passed (lawful : Lawful (received.map Received.line))
    (few : received.length < 2 ^ 32) (mode : Mode) (budgets : Option (List (Text × JsValue)))
    (outages : Option (List JsValue)) :
    (evaluateSensorRun conversions (received.map Received.record) budgets mode outages).passed = true ↔
      (Steady received ∧ mode.Undisturbed received ∧ FloorsHold (samplesIn received) budgets) ∧
        (mode.recoveryOf conversions (received.map Received.record) outages).1 = [] := by
  rw [Verdict.passed, List.isEmpty_iff, evaluateSensorRun, List.append_eq_nil_iff, List.append_eq_nil_iff,
    runFailures_eq_nil lawful, samplesOf_received]
  constructor
  · intro ⟨⟨⟨steady, undisturbed⟩, recovered⟩, floors⟩
    exact ⟨⟨steady, undisturbed, (floorFailures_eq_nil steady few _ _).mp floors⟩, recovered⟩
  · intro ⟨⟨steady, undisturbed, floors⟩, recovered⟩
    exact ⟨⟨⟨steady, undisturbed⟩, recovered⟩, (floorFailures_eq_nil steady few _ _).mpr floors⟩

/-! ## Verdicts -/

/-- The calls of a run of the sensor node, with their answers. -/
def callsOf (wire : Wire) (sessions rounds : Nat) (environment : Environment Call.Answer) :
    List (Exchange Call.Answer) :=
  ((run wire sessions rounds).run (fun _ => ()) environment fun _ => 0).exchanges

theorem length_linesOf (exchanges : List (Exchange Call.Answer)) :
    (linesOf exchanges).length ≤ exchanges.length := by
  induction exchanges with
  | nil => exact Nat.le_refl _
  | cons exchange exchanges ih =>
      rw [linesOf, List.flatMap_cons, List.length_append, List.length_cons]
      cases exchange.1.lines_cases with
      | inl none =>
          rw [none, List.length_nil, Nat.zero_add]
          exact Nat.le_succ_of_le ih
      | inr one =>
          obtain ⟨line, same⟩ := one
          have single : exchange.1.lines.length = 1 := by rw [same]; rfl
          rw [single, Nat.add_comm]
          exact Nat.succ_le_succ ih

/-- What was received of a run of fewer than 2^32 calls. -/
theorem lawful_of_calls {wire : Wire} {sessions rounds : Nat} {environment : Environment Call.Answer}
    (few : (callsOf wire sessions rounds environment).length < 2 ^ 32)
    (within : received.map Received.line <+: linesOf (callsOf wire sessions rounds environment)) :
    Lawful (received.map Received.line) ∧ received.length < 2 ^ 32 := by
  refine ⟨(lawful_of_accepts (run_accepted wire sessions rounds environment) few).of_isPrefix within, ?_⟩
  calc received.length
      = (received.map Received.line).length := (List.length_map _).symm
    _ ≤ (linesOf (callsOf wire sessions rounds environment)).length := within.length_le
    _ ≤ (callsOf wire sessions rounds environment).length := length_linesOf _
    _ < 2 ^ 32 := few

/-- What a host received of a run passes in normal mode if and only if no session ended, there are
samples enough, none of them is impossible, no frame was rejected, a Discover was answered, and
each floor holds. -/
theorem normal_verdict (wire : Wire) (sessions rounds : Nat) (environment : Environment Call.Answer)
    (few : (callsOf wire sessions rounds environment).length < 2 ^ 32) (received : List Received)
    (within : received.map Received.line <+: linesOf (callsOf wire sessions rounds environment))
    (conversions : Conversions) (budgets : Option (List (Text × JsValue)))
    (outages : Option (List JsValue)) :
    (evaluateSensorRun conversions (received.map Received.record) budgets .normal outages).passed = true ↔
      Steady received ∧ (∀ arrived ∈ received, arrived.line.isEnded = false) ∧
        FloorsHold (samplesIn received) budgets := by
  obtain ⟨lawful, short⟩ := lawful_of_calls few within
  rw [evaluateSensorRun_passed lawful short]
  exact and_iff_left rfl

/-- Codecs that refuse nothing. -/
def plainWire : Wire where
  jsonCore := true
  maxTopicLength := 128
  maxPayloadSize := 512
  topic _ _ := some []
  object _ _ := some []
  uuidArray _ _ := some []
  discoverTypes _ := some (some objectType, none)

/-- A network that is up, a carrier that delivers a Discover in each round, and a clock that goes on
two seconds with each call. -/
def steadyAnswer (index : Nat) : (made : Call) → made.Answer
  | .nowMicroseconds => some (BitVec.ofNat 64 (2000000 * index))
  | .readMetrics => some ⟨300000, 260000, 7000, 8192⟩
  | .isNetworkConfigured => some true
  | .prepareNetwork _ => some 3
  | .copyDeviceDisplayName _ => some []
  | .supportsLastWill => some false
  | .pollOneEvent .. => some (.event [] [])
  | .send .. => true
  | .receive .. => false
  | .drain => [.deliver ⟨.discover, some 0, []⟩]
  | .delay _ | .restart | .writeLog _ | .cleanupNetwork | .configureLastWill .. | .connect _
  | .subscribe .. | .publish .. | .disconnect | .resetTransport => some ()

/-- A sample with so many sessions, readings and requests. -/
def steadySample (sessions readings resolves : BitVec 32) : Line :=
  .metrics ⟨sessions, readings, resolves, 0, 0, 6000000, 6000000, 10000000, 10000000⟩
    ⟨300000, 260000, 7000, 8192⟩

def steadyRun : List Received :=
  [⟨.advertised, 1000, by decide⟩, ⟨steadySample 0 5 4, 2000, by decide⟩,
    ⟨steadySample 0 10 9, 3000, by decide⟩, ⟨steadySample 0 15 14, 4000, by decide⟩]

theorem normal_verdict_steadyRun :
    (evaluateSensorRun ⟨fun _ _ => none, fun _ => .nan⟩ (steadyRun.map Received.record)
      (some [(text "minimumFreeHeapBytes", .num (.finite 249856))]) .normal none).passed = true := by
  apply (normal_verdict plainWire 1 15 steadyAnswer (by decide +kernel) steadyRun (by decide +kernel)
    _ _ _).mpr
  refine ⟨⟨by decide, by unfold Metrics.Sane; decide, by unfold Served; decide⟩, by decide, ?_⟩
  intro floors given budget member
  cases given
  rw [List.mem_singleton] at member
  refine ⟨.minimumFreeHeapBytes, 249856, by rw [member]; rfl, by rw [member]; rfl, by decide, ?_⟩
  change ∀ sample ∈ samplesIn steadyRun, _
  decide

end AxolotyEmbedded.SensorNode
