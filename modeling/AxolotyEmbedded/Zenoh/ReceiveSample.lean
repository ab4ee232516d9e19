import AxolotyEmbedded.Zenoh.QueueSequential

/-!
`receive_sample` after its claim succeeded: the two accessors of zenoh-pico, the
bounded-sample guard, and the call that hands the sample to the queue or counts it. A
payload that could not be copied looks like an empty one to the guard.
-/
namespace AxolotyEmbedded.Zenoh

/-- What an accessor that succeeded shows of some bytes: their length, and an address
that is null or holds them. -/
structure StringView (bytes : List UInt8) where
  data : Option Memory
  faithful : ∀ memory, data = some memory → memory.bytes bytes.length = bytes

/-- `INT32_MAX`. -/
def int32Max : Nat := 2147483647

/-- `axoloty_zenoh_sample_is_valid`. -/
def sampleIsValid (bounds : CarrierBounds) (key : Option Memory) (keyLength : Int)
    (payload : Option Memory) (payloadLength : Int) : Bool :=
  if key.isNone ∨ keyLength ≤ 0 ∨ (bounds.maxTopicBytes + 1 : Int) ≤ keyLength then false
  else if payloadLength < 0 ∨ (bounds.maxPayloadBytes + 1 : Int) ≤ payloadLength then false
  else if payload.isNone ∧ 0 < payloadLength then false
  else true

/-- What the callback calls once it holds its claim. -/
inductive SampleCall where
  | noteOversized
  | queueAdmit (arguments : AdmitArguments)
  | dropPayload
  | leave

/-- The calls that decide what happens to the sample. -/
def SampleCall.decides : SampleCall → Bool
  | .noteOversized | .queueAdmit _ => true
  | .dropPayload | .leave => false

/-- What a call does to the queue of the subscription. -/
def SampleCall.apply (config : QueueConfig) (queue : ZenohPicoQueue) : SampleCall → ZenohPicoQueue
  | .noteOversized => queue.noteOversized
  | .queueAdmit arguments => (queue.queueAdmit config arguments).2
  | .dropPayload | .leave => queue

section Callback
variable (bounds : CarrierBounds) {sample : Message}
  (keyView : Option (StringView sample.key)) (payloadView : Option (StringView sample.payload))

/-- The pointers and lengths after the two accessors. One that failed leaves null and zero. -/
def viewedArguments : AdmitArguments where
  key := keyView.bind fun view => view.data
  keyLength := if keyView.isSome then sample.key.length else 0
  payload := payloadView.bind fun view => view.data
  payloadLength := if payloadView.isSome then sample.payload.length else 0

/-- The guard, and the call it chooses. -/
def admission : SampleCall :=
  let arguments := viewedArguments keyView payloadView
  if arguments.keyLength = 0 ∨ int32Max < arguments.keyLength ∨ int32Max < arguments.payloadLength ∨
      sampleIsValid bounds arguments.key arguments.keyLength arguments.payload
        arguments.payloadLength = false then
    .noteOversized
  else .queueAdmit arguments

/-- The calls of `receive_sample` from its claim on. -/
def receiveSample : List SampleCall :=
  admission bounds keyView payloadView ::
    ((if payloadView.isSome then [.dropPayload] else []) ++ [.leave])

/-- The sample went to the queue as it is and passes its checks, or was counted as
oversized, and the claim was left once, at the end. -/
structure Unaltered (sample : Message) (calls : List SampleCall) : Prop where
  decided : calls.filter SampleCall.decides = [.noteOversized] ∨
    ∃ arguments, calls.filter SampleCall.decides = [.queueAdmit arguments] ∧
      arguments.fits bounds = true ∧ arguments.message = sample
  left : ∃ before, calls = before ++ [.leave] ∧ .leave ∉ before

/-- The key was read and is within the bounds. -/
def KeyAccepted : Prop :=
  ∃ view, keyView = some view ∧ view.data.isSome = true ∧ sample.key ≠ [] ∧
    sample.key.length ≤ bounds.maxTopicBytes ∧ sample.key.length ≤ int32Max

end Callback

/-! ## What the guard passes -/

variable {bounds : CarrierBounds} {sample : Message}
  {keyView : Option (StringView sample.key)} {payloadView : Option (StringView sample.payload)}

theorem sampleIsValid_iff {key payload : Option Memory} {keyLength payloadLength : Int} :
    sampleIsValid bounds key keyLength payload payloadLength = true ↔
      (key.isSome = true ∧ 0 < keyLength ∧ keyLength ≤ bounds.maxTopicBytes) ∧
        0 ≤ payloadLength ∧ payloadLength ≤ bounds.maxPayloadBytes ∧
        (payloadLength ≤ 0 ∨ payload.isSome = true) := by
  rw [sampleIsValid]
  cases key with
  | none => simp
  | some key => cases payload <;> grind

/-- What passes the guard passes the checks of the queue. -/
theorem fits_of_sampleIsValid {arguments : AdmitArguments}
    (valid : sampleIsValid bounds arguments.key arguments.keyLength arguments.payload
      arguments.payloadLength = true) : arguments.fits bounds = true := by
  obtain ⟨⟨key, positive, keyFits⟩, -, payloadFits, held⟩ := sampleIsValid_iff.mp valid
  simp only [AdmitArguments.fits, key, Bool.true_and, Bool.and_eq_true, bne_iff_ne, ne_eq,
    decide_eq_true_eq, Bool.or_eq_true, beq_iff_eq]
  refine ⟨⟨⟨by omega, by omega⟩, by omega⟩, held.imp_left fun empty => by omega⟩

/-- The guard admits an accepted key with a payload within the bounds. -/
theorem admission_cases (bounds : CarrierBounds) (keyView : Option (StringView sample.key))
    (payloadView : Option (StringView sample.payload)) :
    (admission bounds keyView payloadView = .noteOversized ∧
      ¬ (KeyAccepted bounds keyView ∧ payloadView = none)) ∨
      (admission bounds keyView payloadView = .queueAdmit (viewedArguments keyView payloadView) ∧
        (viewedArguments keyView payloadView).fits bounds = true ∧ KeyAccepted bounds keyView) := by
  rw [admission]
  split
  · rename_i refused
    refine .inl ⟨rfl, ?_⟩
    rintro ⟨⟨view, rfl, held, nonempty, fits, small⟩, rfl⟩
    have positive := List.length_pos_iff.mpr nonempty
    have valid : sampleIsValid bounds view.data sample.key.length none 0 = true :=
      sampleIsValid_iff.mpr ⟨⟨held, by omega, by omega⟩, by omega, by omega, .inl (by omega)⟩
    obtain empty | large | large | invalid := refused
    · exact Nat.ne_of_gt positive empty
    · exact Nat.not_lt_of_le small large
    · exact Nat.not_lt_zero _ large
    · exact Bool.false_ne_true (invalid.symm.trans valid)
  · rename_i passed
    simp only [not_or, Bool.not_eq_false] at passed
    obtain ⟨nonempty, small, -, valid⟩ := passed
    refine .inr ⟨rfl, fits_of_sampleIsValid valid, ?_⟩
    obtain ⟨⟨held, positive, fits⟩, -⟩ := sampleIsValid_iff.mp valid
    cases keyView with
    | none => cases held
    | some view =>
        exact ⟨view, rfl, held, List.length_pos_iff.mp (Nat.pos_of_ne_zero nonempty),
          Int.ofNat_le.mp fits, Nat.le_of_not_lt small⟩

theorem bytes_eq_of_view {bytes : List UInt8} (view : StringView bytes)
    (held : bytes = [] ∨ view.data.isSome = true) :
    (view.data.getD fun _ => 0).bytes bytes.length = bytes := by
  cases data : view.data with
  | some memory => exact view.faithful memory data
  | none =>
      rw [data] at held
      obtain rfl := held.resolve_right Bool.false_ne_true
      rfl

/-- The admitted bytes are the sample's when the payload was copied, or there is none. -/
theorem message_viewedArguments (key : KeyAccepted bounds keyView)
    (fits : (viewedArguments keyView payloadView).fits bounds = true)
    (copied : payloadView.isSome = true ∨ sample.payload = []) :
    (viewedArguments keyView payloadView).message = sample := by
  obtain ⟨view, rfl, held, -⟩ := key
  have keyBytes := bytes_eq_of_view view (.inr held)
  have payloadBytes : (viewedArguments (some view) payloadView).payloadBytes.bytes
      (viewedArguments (some view) payloadView).payloadLength = sample.payload := by
    cases payloadView with
    | none => exact (copied.resolve_left Bool.false_ne_true).symm
    | some payload =>
        refine bytes_eq_of_view payload ?_
        simp only [AdmitArguments.fits, Bool.and_eq_true, Bool.or_eq_true, beq_iff_eq] at fits
        exact fits.2.imp_left List.length_eq_zero_iff.mp
  rw [AdmitArguments.message, payloadBytes]
  exact congrArg (Message.mk · sample.payload) keyBytes

theorem left_receiveSample : ∃ before, receiveSample bounds keyView payloadView = before ++ [.leave] ∧
    .leave ∉ before := by
  refine ⟨_, (List.cons_append ..).symm, ?_⟩
  have decides : admission bounds keyView payloadView ≠ .leave := by
    rcases admission_cases bounds keyView payloadView with ⟨eq, -⟩ | ⟨eq, -⟩ <;> rw [eq] <;> simp
  cases payloadView with
  | none => simpa using decides.symm
  | some payload => simpa using decides.symm

theorem filter_receiveSample : (receiveSample bounds keyView payloadView).filter SampleCall.decides =
    [admission bounds keyView payloadView] := by
  have decides : (admission bounds keyView payloadView).decides = true := by
    rcases admission_cases bounds keyView payloadView with ⟨eq, -⟩ | ⟨eq, -⟩ <;> rw [eq] <;> rfl
  rw [receiveSample, List.filter_cons_of_pos decides]
  cases payloadView <;> rfl

/-- A sample is altered exactly when its key is accepted, its payload is not empty, and
the copy of the payload fails. -/
theorem unaltered_iff (bounds : CarrierBounds) (sample : Message)
    (keyView : Option (StringView sample.key)) (payloadView : Option (StringView sample.payload)) :
    Unaltered bounds sample (receiveSample bounds keyView payloadView) ↔
      payloadView.isSome = true ∨ sample.payload = [] ∨ ¬ KeyAccepted bounds keyView := by
  constructor
  · rintro ⟨decided, -⟩
    by_contra failed
    simp only [not_or, not_not, Bool.not_eq_true, Option.isSome_eq_false_iff] at failed
    obtain ⟨none, nonempty, accepted⟩ := failed
    obtain rfl := Option.isNone_iff_eq_none.mp none
    rw [filter_receiveSample] at decided
    rcases admission_cases bounds keyView Option.none with ⟨-, refused⟩ | ⟨eq, -, -⟩
    · exact refused ⟨accepted, rfl⟩
    · rw [eq] at decided
      obtain other | ⟨arguments, same, -, message⟩ := decided
      · simp at other
      · obtain rfl : viewedArguments keyView Option.none = arguments := by simpa using same
        exact nonempty (congrArg Message.payload message).symm
  · intro condition
    refine ⟨?_, left_receiveSample⟩
    rw [filter_receiveSample]
    rcases admission_cases bounds keyView payloadView with ⟨eq, -⟩ | ⟨eq, fits, accepted⟩ <;> rw [eq]
    · exact .inl rfl
    · refine .inr ⟨_, rfl, fits, message_viewedArguments accepted fits ?_⟩
      exact condition.imp_right fun other => other.resolve_right (not_not.mpr accepted)

/-! ## A payload that could not be copied -/

/-- The queue after the calls. -/
def receivedInto (config : QueueConfig) (calls : List SampleCall) (queue : ZenohPicoQueue) :
    ZenohPicoQueue :=
  calls.foldl (SampleCall.apply config) queue

def lostSample : Message := ⟨[0x61], [1]⟩

def lostKey : StringView lostSample.key := ⟨some fun _ => 0x61, fun _ held => by cases held; rfl⟩

/-- The sample is queued with an empty payload. -/
theorem altered_lost : ¬ Unaltered smokeBounds lostSample
      (receiveSample smokeBounds (some lostKey) none) ∧
    (receivedInto smokeConfig (receiveSample smokeBounds (some lostKey) none) .zeroed).contents
      smokeConfig = [⟨[0x61], []⟩] := by
  constructor
  · rintro ⟨decided, -⟩
    rw [filter_receiveSample, show admission smokeBounds (some lostKey) none =
      .queueAdmit (viewedArguments (some lostKey) none) from rfl] at decided
    obtain other | ⟨arguments, same, -, message⟩ := decided
    · simp at other
    · obtain rfl : viewedArguments (some lostKey) none = arguments := by simpa using same
      cases congrArg Message.payload message
  · decide

end AxolotyEmbedded.Zenoh
