import AxolotyEmbedded.Library.Transition
import AxolotyEmbedded.Zenoh.Registry
import Mathlib.Tactic.Common

/-!
Freshness of subscription handles over whole runs of the registry. A handle has
27 bits for the generation of its record, and the record counts in 32: while no
reservation reaches `2 ^ 27` a handle names its reservation and no other, and
the reservation that reaches it returns a handle that does not resolve.
-/
namespace AxolotyEmbedded.Zenoh

/-! ## The fields of a handle -/

theorem toNat_handleGeneration (raw : BitVec 32) : (handleGeneration raw).toNat = raw.toNat / 32 := by
  simp [handleGeneration, Nat.shiftRight_eq_div_pow]

theorem toNat_handleSession (raw : BitVec 32) :
    (handleSession raw).toNat = raw.toNat / 8 % 4 := by
  have hmask : raw.toNat >>> 3 &&& (2 ^ 2 - 1) = (raw.toNat >>> 3) % 2 ^ 2 :=
    Nat.and_two_pow_sub_one_eq_mod ..
  rw [Nat.shiftRight_eq_div_pow] at hmask
  simpa [handleSession, Nat.shiftRight_eq_div_pow] using hmask

theorem toNat_handleSubscriber (raw : BitVec 32) :
    (handleSubscriber raw).toNat = raw.toNat % 8 := by
  have hmask : raw.toNat &&& (2 ^ 3 - 1) = raw.toNat % 2 ^ 3 :=
    Nat.and_two_pow_sub_one_eq_mod ..
  simpa [handleSubscriber] using hmask

/-- The three fields of a handle do not overlap; the generation keeps its low 27 bits. -/
theorem toNat_encodeHandle {session index generation : BitVec 32} (hs : session.toNat < 4)
    (hi : index.toNat < 8) : (encodeHandle session index generation).toNat =
      generation.toNat % 2 ^ 27 * 32 + session.toNat * 8 + index.toNat := by
  have hsession : (session <<< 3).toNat = session.toNat <<< 3 := by
    rw [BitVec.toNat_shiftLeft, Nat.mod_eq_of_lt]
    rw [Nat.shiftLeft_eq]; omega
  have hgeneration : (generation <<< 5).toNat = (generation.toNat % 2 ^ 27) <<< 5 := by
    rw [BitVec.toNat_shiftLeft, Nat.shiftLeft_eq, Nat.shiftLeft_eq]
    omega
  have hlow : session.toNat <<< 3 ||| index.toNat = session.toNat <<< 3 + index.toNat :=
    (Nat.shiftLeft_add_eq_or_of_lt (by omega) _).symm
  have hlow' : session.toNat <<< 3 + index.toNat < 2 ^ 5 := by rw [Nat.shiftLeft_eq]; omega
  have hall : (generation.toNat % 2 ^ 27) <<< 5 ||| (session.toNat <<< 3 + index.toNat) =
      (generation.toNat % 2 ^ 27) <<< 5 + (session.toNat <<< 3 + index.toNat) :=
    (Nat.shiftLeft_add_eq_or_of_lt hlow' _).symm
  rw [encodeHandle, BitVec.or_assoc, BitVec.toNat_or, BitVec.toNat_or, hsession, hgeneration, hlow,
    hall, Nat.shiftLeft_eq, Nat.shiftLeft_eq]
  omega

/-- What the three fields of a handle are. -/
theorem toNat_handle (raw : BitVec 32) :
    raw.toNat = (handleGeneration raw).toNat * 32 + (handleSession raw).toNat * 8 +
      (handleSubscriber raw).toNat := by
  rw [toNat_handleGeneration, toNat_handleSession, toNat_handleSubscriber]
  omega

theorem handleGeneration_encodeHandle {session index generation : BitVec 32}
    (hs : session.toNat < 4) (hi : index.toNat < 8) :
    (handleGeneration (encodeHandle session index generation)).toNat =
      generation.toNat % 2 ^ 27 := by
  rw [toNat_handleGeneration, toNat_encodeHandle hs hi]
  omega

theorem handleSession_encodeHandle {session index generation : BitVec 32}
    (hs : session.toNat < 4) (hi : index.toNat < 8) :
    handleSession (encodeHandle session index generation) = session := by
  apply BitVec.eq_of_toNat_eq
  rw [toNat_handleSession, toNat_encodeHandle hs hi]
  omega

theorem handleSubscriber_encodeHandle {session index generation : BitVec 32}
    (hs : session.toNat < 4) (hi : index.toNat < 8) :
    handleSubscriber (encodeHandle session index generation) = index := by
  apply BitVec.eq_of_toNat_eq
  rw [toNat_handleSubscriber, toNat_encodeHandle hs hi]
  omega

/-! ## Resolving -/

/-- What it takes for a handle to resolve to a record. -/
structure Registry.Resolves (registry : Registry) (session : SessionPointer) (raw : BitVec 32)
    (slot : Slot) : Prop where
  session : session = .slot slot.1
  opened : (registry.sessions slot.1).state = .opened
  generation_ne : handleGeneration raw ≠ 0
  sessionIndex : handleSession raw = BitVec.ofNat 32 slot.1
  subscriberIndex : handleSubscriber raw = BitVec.ofNat 32 slot.2
  queue : (registry.record slot).queue.isSome
  active : (registry.record slot).active ≠ 0
  generation : (registry.record slot).generation = handleGeneration raw

theorem Registry.subscriptionResolve_eq_ok {registry : Registry} {session : SessionPointer}
    {raw : BitVec 32} {slot : Slot} :
    registry.subscriptionResolve session raw true = .ok slot ↔
      registry.Resolves session raw slot := by
  obtain ⟨σ, index⟩ := slot
  have hindex : (handleSubscriber raw).toNat = index.val ↔
      handleSubscriber raw = BitVec.ofNat 32 index := by
    rw [← BitVec.toNat_inj, BitVec.toNat_ofNat]
    omega
  constructor
  · intro resolved
    unfold Registry.subscriptionResolve at resolved
    split at resolved
    · cases resolved
    rename_i given
    cases session with
    | null => cases resolved
    | foreign => cases resolved
    | slot session =>
        simp only [zenohPicoSessionIndex] at resolved
        split at resolved
        · cases resolved
        split at resolved
        · cases resolved
        split at resolved
        · split at resolved
          · cases resolved
          rename_i opened valid within live
          simp only [not_or] at valid live
          cases resolved
          exact ⟨rfl, not_not.mp opened, valid.1, (not_not.mp valid.2).symm, hindex.mp rfl,
            Option.isSome_iff_ne_none.mpr fun none => live.1 (by rw [none]; rfl), live.2.1, not_not.mp live.2.2⟩
        · cases resolved
  · rintro ⟨rfl, opened, hgeneration, hsession, hsubscriber, queue, active, generation⟩
    have hraw : raw ≠ 0 := by
      rintro rfl
      exact hgeneration rfl
    have within := hindex.mpr hsubscriber
    have hlt : (handleSubscriber raw).toNat < 8 := by omega
    unfold Registry.subscriptionResolve
    have hslot : (⟨(handleSubscriber raw).toNat, hlt⟩ : Fin 8) = index := Fin.ext within
    rw [if_neg (by simpa using hraw)]
    simp only [zenohPicoSessionIndex]
    have hqueue : ¬ (registry.record (σ, index)).queue.isNone = true := by
      rw [Option.isNone_iff_eq_none]
      exact Option.isSome_iff_ne_none.mp queue
    rw [if_neg (not_not.mpr opened), if_neg (not_or.mpr ⟨hgeneration, not_not.mpr hsession.symm⟩),
      dif_pos hlt, hslot, if_neg (not_or.mpr ⟨hqueue, not_or.mpr ⟨active, not_not.mpr generation⟩⟩)]

/-- A handle resolves to the record it encodes, or to none. -/
theorem Registry.resolves_encodeHandle {registry : Registry} {session : SessionPointer}
    (slot : Slot) {other : Slot} {generation : BitVec 32}
    (resolves : registry.Resolves session (encodeHandle (BitVec.ofNat 32 slot.1)
      (BitVec.ofNat 32 slot.2) generation) other) :
    other = slot ∧ (registry.record slot).generation.toNat = generation.toNat % 2 ^ 27 := by
  obtain ⟨σ, index⟩ := slot
  obtain ⟨σ', index'⟩ := other
  have hσ : (BitVec.ofNat 32 σ.val).toNat = σ.val := by
    rw [BitVec.toNat_ofNat]
    omega
  have hσ' : (BitVec.ofNat 32 σ'.val).toNat = σ'.val := by
    rw [BitVec.toNat_ofNat]
    omega
  have hi : (BitVec.ofNat 32 index.val).toNat = index.val := by
    rw [BitVec.toNat_ofNat]
    omega
  have hi' : (BitVec.ofNat 32 index'.val).toNat = index'.val := by
    rw [BitVec.toNat_ofNat]
    omega
  have hs : (BitVec.ofNat 32 σ.val).toNat < 4 := by omega
  have hj : (BitVec.ofNat 32 index.val).toNat < 8 := by omega
  have hsession := resolves.sessionIndex
  have hsubscriber := resolves.subscriberIndex
  rw [handleSession_encodeHandle hs hj] at hsession
  rw [handleSubscriber_encodeHandle hs hj] at hsubscriber
  have sameσ : σ' = σ := Fin.ext (by rw [← hσ', ← hσ, hsession])
  have sameIndex : index' = index := Fin.ext (by rw [← hi', ← hi, hsubscriber])
  subst sameσ sameIndex
  refine ⟨rfl, ?_⟩
  rw [resolves.generation, handleGeneration_encodeHandle hs hj]

/-- Two handles that resolve to one record are one handle. -/
theorem Registry.Resolves.handle_eq {registry : Registry} {p q : SessionPointer}
    {first second : BitVec 32} {slot : Slot} (hfirst : registry.Resolves p first slot)
    (hsecond : registry.Resolves q second slot) : first = second := by
  apply BitVec.eq_of_toNat_eq
  rw [toNat_handle first, toNat_handle second, ← hfirst.generation, ← hsecond.generation,
    hfirst.sessionIndex, hsecond.sessionIndex, hfirst.subscriberIndex, hsecond.subscriberIndex]

/-! ## Runs of the registry -/

/-- History: a handle that a successful reserve returned, the record it was
returned for with the generation stored there, and whether that record was
neither deactivated nor released since. -/
structure Issue where
  handle : BitVec 32
  slot : Slot
  generation : BitVec 32
  live : Bool

structure IssuedRegistry where
  registry : Registry
  issued : List Issue

inductive RegistryOp where
  | sessionReserve
  | sessionRelease (session : Option (Fin 4))
  | reserve (session : Option (Fin 4)) (outputs allocated : Bool)
  | deactivate (record : Option Slot)
  | release (record : Option Slot)
  | resolve (session : SessionPointer) (subscription : BitVec 32) (output : Bool)

namespace IssuedRegistry

def initial : IssuedRegistry := ⟨.initial, []⟩

/-- The issues after the records that `gone` names were deactivated or released. -/
def retire (issued : List Issue) (gone : Slot → Bool) : List Issue :=
  issued.map fun issue => { issue with live := issue.live && !gone issue.slot }

/-- One call. Resolving changes nothing. -/
def step (s : IssuedRegistry) : RegistryOp → IssuedRegistry
  | .sessionReserve => { s with registry := s.registry.sessionReserve.1 }
  | .sessionRelease none => s
  | .sessionRelease (some session) =>
      ⟨s.registry.sessionRelease session, retire s.issued (·.1 == session)⟩
  | .reserve session outputs allocated =>
      match s.registry.subscriptionReserve session outputs allocated with
      | (registry, .ok (handle, slot)) =>
          ⟨registry, s.issued ++ [⟨handle, slot, (registry.record slot).generation, true⟩]⟩
      | (registry, .error _) => { s with registry }
  | .deactivate none | .release none => s
  | .deactivate (some slot) => ⟨s.registry.subscriptionDeactivate slot, retire s.issued (· == slot)⟩
  | .release (some slot) => ⟨s.registry.subscriptionRelease slot, retire s.issued (· == slot)⟩
  | .resolve .. => s

def after (ops : List RegistryOp) : IssuedRegistry := ops.foldl step initial

theorem after_snoc (ops : List RegistryOp) (op : RegistryOp) :
    after (ops ++ [op]) = (after ops).step op := by
  rw [after, List.foldl_append]
  rfl

/-- Every issued handle resolves to its own record through its own session
while that record is live, and never after; no two handles resolve to one
record; and a reserve that fails changes nothing. -/
structure Fresh (s : IssuedRegistry) : Prop where
  live : ∀ issue ∈ s.issued, issue.live = true →
    s.registry.subscriptionResolve (.slot issue.slot.1) issue.handle true = .ok issue.slot
  removed : ∀ issue ∈ s.issued, issue.live = false → ∀ session record,
    s.registry.subscriptionResolve session issue.handle true ≠ .ok record
  foreign : ∀ issue ∈ s.issued, ∀ session, session ≠ .slot issue.slot.1 → ∀ record,
    s.registry.subscriptionResolve session issue.handle true ≠ .ok record
  alone : ∀ p q first second record,
    s.registry.subscriptionResolve p first true = .ok record →
      s.registry.subscriptionResolve q second true = .ok record → first = second
  failed : ∀ session outputs allocated result,
    (s.registry.subscriptionReserve session outputs allocated).2 = .error result →
      (s.registry.subscriptionReserve session outputs allocated).1 = s.registry

/-- A reserve that is about to succeed finds a generation below `2 ^ 27 - 1`. -/
def GenerationFits (s : IssuedRegistry) : RegistryOp → Prop
  | .reserve (some session) true true =>
      (s.registry.sessions session).state = .opened →
        ∀ index, s.registry.freeSlot session = some index →
          (s.registry.record (session, index)).generation.toNat < 2 ^ 27 - 1
  | _ => True

/-! ## The invariant of runs whose generations fit -/

/-- An issued handle carries the generation its record had, which no later one repeats. -/
structure IssueOk (registry : Registry) (issue : Issue) : Prop where
  encoded : issue.handle = encodeHandle (BitVec.ofNat 32 issue.slot.1)
    (BitVec.ofNat 32 issue.slot.2) issue.generation
  positive : 0 < issue.generation.toNat
  fits : issue.generation.toNat < 2 ^ 27
  notLater : issue.generation.toNat ≤ (registry.record issue.slot).generation.toNat
  current : issue.live = true → issue.generation = (registry.record issue.slot).generation ∧
    (registry.record issue.slot).queue.isSome ∧ (registry.record issue.slot).active ≠ 0
  stale : issue.live = false → issue.generation = (registry.record issue.slot).generation →
    (registry.record issue.slot).queue = none ∨ (registry.record issue.slot).active = 0

structure Inv (s : IssuedRegistry) : Prop where
  indexed : ∀ session, (s.registry.sessions session).state = .opened →
    (s.registry.sessions session).sessionIndex = BitVec.ofNat 32 session
  closed : ∀ slot : Slot, (s.registry.record slot).queue.isSome →
    (s.registry.sessions slot.1).state = .opened
  bounded : ∀ slot, (s.registry.record slot).generation.toNat < 2 ^ 27
  issued : ∀ issue ∈ s.issued, IssueOk s.registry issue

variable {s : IssuedRegistry} {registry registry' : Registry} {issue : Issue}

theorem IssueOk.kept (ok : IssueOk registry issue)
    (same : registry'.record issue.slot = registry.record issue.slot) : IssueOk registry' issue := by
  obtain ⟨encoded, positive, fits, notLater, current, stale⟩ := ok
  rw [← same] at notLater current stale
  exact ⟨encoded, positive, fits, notLater, current, stale⟩

/-- A record that lost its queue or its activity retires its handle. -/
theorem IssueOk.retired (ok : IssueOk registry issue)
    (same : (registry'.record issue.slot).generation = (registry.record issue.slot).generation)
    (gone : (registry'.record issue.slot).queue = none ∨
      (registry'.record issue.slot).active = 0) :
    IssueOk registry' { issue with live := false } where
  encoded := ok.encoded
  positive := ok.positive
  fits := ok.fits
  notLater := by
    rw [same]
    exact ok.notLater
  current := fun live => by cases live
  stale := fun _ _ => gone

theorem Inv.initial : initial.Inv where
  indexed := fun _ opened => by cases opened
  closed := fun _ queue => by cases queue
  bounded := fun _ => show (0 : BitVec 32).toNat < 2 ^ 27 by decide
  issued := fun _ mem => by cases mem

/-- A call that takes queues or activity from the records `gone` names. -/
theorem Inv.retire (inv : s.Inv) (gone : Slot → Bool)
    (indexed : ∀ session, (registry'.sessions session).state = .opened →
      (registry'.sessions session).sessionIndex = BitVec.ofNat 32 session)
    (closed : ∀ slot : Slot, (registry'.record slot).queue.isSome →
      (registry'.sessions slot.1).state = .opened)
    (generation : ∀ slot,
      (registry'.record slot).generation = (s.registry.record slot).generation)
    (kept : ∀ slot, gone slot = false → registry'.record slot = s.registry.record slot)
    (taken : ∀ slot, gone slot = true →
      (registry'.record slot).queue = none ∨ (registry'.record slot).active = 0) :
    Inv ⟨registry', IssuedRegistry.retire s.issued gone⟩ where
  indexed := indexed
  closed := closed
  bounded := fun slot => by
    rw [generation]
    exact inv.bounded slot
  issued := by
    intro issue mem
    obtain ⟨old, known, rfl⟩ := List.mem_map.mp mem
    have ok := inv.issued old known
    cases names : gone old.slot with
    | false =>
        simp only [Bool.not_false, Bool.and_true]
        exact ok.kept (kept _ names)
    | true =>
        simp only [Bool.not_true, Bool.and_false]
        exact ok.retired (generation _) (taken _ names)

theorem Inv.sessionReserve (inv : s.Inv) : (s.step .sessionReserve).Inv where
  indexed := fun _ opened => s.registry.sessionIndex_sessionReserve inv.indexed opened
  closed := fun slot queue => by
    rw [IssuedRegistry.step, Registry.record_sessionReserve] at queue
    exact s.registry.state_sessionReserve (inv.closed slot queue)
  bounded := fun slot => by
    rw [IssuedRegistry.step, Registry.record_sessionReserve]
    exact inv.bounded slot
  issued := fun issue mem => (inv.issued issue mem).kept (Registry.record_sessionReserve ..)

theorem Inv.sessionRelease (inv : s.Inv) (session : Fin 4) :
    (s.step (.sessionRelease (some session))).Inv := by
  obtain ⟨released, freed⟩ :=
    Registry.releasedIn_foldl session (List.finRange 8) s.registry
  have hstate : ∀ other, ((s.registry.sessionRelease session).sessions other).state = .opened →
      other ≠ session ∧ (s.registry.sessions other).state = .opened := by
    intro other opened
    by_cases same : other = session
    · subst same
      simp [Registry.sessionRelease, Registry.setState, Registry.setSession] at opened
    · refine ⟨same, ?_⟩
      rw [← released.state other]
      simpa only [Registry.sessionRelease, Registry.setState, Registry.setSession,
        Function.update_of_ne same] using opened
  have hrecord : ∀ slot, (s.registry.sessionRelease session).record slot =
      ((List.finRange 8).foldl (fun registry index => registry.releaseHeld (session, index))
        s.registry).record slot := fun slot => Registry.record_setState ..
  have hfreed : ∀ slot : Slot, slot.1 = session →
      ((s.registry.sessionRelease session).record slot).queue = none := by
    rintro ⟨_, index⟩ rfl
    rw [hrecord]
    exact freed index (List.mem_finRange index)
  have hother : ∀ slot : Slot, slot.1 ≠ session →
      (s.registry.sessionRelease session).record slot = s.registry.record slot := by
    intro slot ne
    rw [hrecord, released.others slot ne]
  refine inv.retire _ (fun other opened => ?_) (fun slot queue => ?_) (fun slot => ?_)
    (fun slot ne => hother slot (by simpa using ne)) (fun slot same => .inl (hfreed slot
      (by simpa using same)))
  · obtain ⟨ne, before⟩ := hstate other opened
    rw [← inv.indexed other before, ← released.sessionIndex other]
    simp only [Registry.sessionRelease, Registry.setState, Registry.setSession,
      Function.update_of_ne ne]
  · have ne : slot.1 ≠ session := by
      intro same
      rw [hfreed slot same] at queue
      cases queue
    rw [hother slot ne] at queue
    have opened := inv.closed slot queue
    rw [← released.state slot.1] at opened
    simpa only [Registry.sessionRelease, Registry.setState, Registry.setSession,
      Function.update_of_ne ne] using opened
  · rw [hrecord, released.generation]

theorem Inv.deactivate (inv : s.Inv) (slot : Slot) : (s.step (.deactivate (some slot))).Inv := by
  have hother : ∀ {other}, other ≠ slot →
      (s.registry.subscriptionDeactivate slot).record other = s.registry.record other :=
    fun ne => Registry.record_setRecord_of_ne _ _ ne
  have hself : (s.registry.subscriptionDeactivate slot).record slot =
      { s.registry.record slot with active := 0 } := Registry.record_setRecord_self ..
  refine inv.retire _ (fun session opened => ?_) (fun other queue => ?_) (fun other => ?_)
    (fun other ne => hother (by simpa using ne)) (fun other same => .inr ?_)
  · simp only [Registry.subscriptionDeactivate, Registry.state_setRecord,
      Registry.sessionIndex_setRecord] at opened ⊢
    exact inv.indexed session opened
  · simp only [Registry.subscriptionDeactivate, Registry.state_setRecord]
    refine inv.closed other ?_
    by_cases same : other = slot
    · rw [same, hself] at queue
      rw [same]
      exact queue
    · rwa [hother same] at queue
  · by_cases same : other = slot
    · rw [same, hself]
    · rw [hother same]
  · rw [eq_of_beq same, hself]

theorem Inv.release (inv : s.Inv) (slot : Slot) : (s.step (.release (some slot))).Inv := by
  have hother : ∀ {other}, other ≠ slot →
      (s.registry.subscriptionRelease slot).record other = s.registry.record other :=
    fun ne => Registry.record_subscriptionRelease_of_ne _ ne
  have hself := s.registry.record_subscriptionRelease_self slot
  refine inv.retire _ (fun session opened => ?_) (fun other queue => ?_) (fun other => ?_)
    (fun other ne => hother (by simpa using ne)) (fun other same => .inl ?_)
  · rw [Registry.state_subscriptionRelease] at opened
    rw [Registry.sessionIndex_subscriptionRelease]
    exact inv.indexed session opened
  · rw [Registry.state_subscriptionRelease]
    by_cases same : other = slot
    · rw [same, hself] at queue
      cases queue
    · rw [hother same] at queue
      exact inv.closed other queue
  · by_cases same : other = slot
    · rw [same, hself]
    · rw [hother same]
  · rw [eq_of_beq same, hself]

theorem toNat_nextGeneration {generation : BitVec 32} (fits : generation.toNat < 2 ^ 27 - 1) :
    (nextGeneration generation).toNat = generation.toNat + 1 := by
  have hsum : (generation + 1).toNat = generation.toNat + 1 := by
    rw [BitVec.toNat_add, Nat.mod_eq_of_lt]
    · rfl
    · exact Nat.lt_of_le_of_lt (Nat.add_le_add_right (Nat.le_of_lt fits) 1) (by decide)
  have hne : generation + 1 ≠ 0 := by
    intro zero
    rw [zero] at hsum
    exact absurd hsum (Nat.succ_ne_zero _).symm
  rw [nextGeneration, if_neg hne, hsum]

theorem Inv.reserve (inv : s.Inv) (session : Option (Fin 4)) (outputs allocated : Bool)
    (fits : s.GenerationFits (.reserve session outputs allocated)) :
    (s.step (.reserve session outputs allocated)).Inv := by
  rcases s.registry.subscriptionReserve_cases session outputs allocated with
    ⟨result, failed⟩ | ⟨known, index, rfl, rfl, rfl, opened, found⟩
  · simp only [step, failed]
    exact inv
  simp only [step, s.registry.subscriptionReserve_of_free opened found]
  have hfree := s.registry.queue_of_freeSlot found
  have hnext := toNat_nextGeneration (fits opened index found)
  have hbound := fits opened index found
  have hself := s.registry.record_reserveSlot_self (known, index)
  have hother : ∀ {other}, other ≠ (known, index) →
      (s.registry.reserveSlot (known, index)).record other = s.registry.record other :=
    fun ne => s.registry.record_reserveSlot_of_ne ne
  refine ⟨fun other opened => ?_, fun slot queue => ?_, fun slot => ?_, fun issue mem => ?_⟩
  · rw [Registry.state_reserveSlot] at opened
    rw [← inv.indexed other opened]
    exact Registry.sessionIndex_setRecord ..
  · rw [Registry.state_reserveSlot]
    by_cases same : slot = (known, index)
    · rw [same]
      exact opened
    · rw [hother same] at queue
      exact inv.closed slot queue
  · by_cases same : slot = (known, index)
    · rw [same, hself, hnext]
      omega
    · rw [hother same]
      exact inv.bounded slot
  · rcases List.mem_append.mp mem with old | new
    · have ok := inv.issued issue old
      by_cases same : issue.slot = (known, index)
      · -- The slot was free, so its older handles are dead and stay behind the new generation.
        have dead : issue.live = false := by
          cases live : issue.live with
          | false => rfl
          | true =>
              have queue := (ok.current live).2.1
              rw [same, hfree] at queue
              cases queue
        have behind := ok.notLater
        rw [same] at behind
        refine ⟨ok.encoded, ok.positive, ok.fits, ?_, fun live => ?_, fun _ equal => ?_⟩
        · rw [same, hself, hnext]
          exact Nat.le_succ_of_le behind
        · rw [dead] at live
          cases live
        · rw [same, hself] at equal
          dsimp only at equal
          rw [equal, hnext] at behind
          exact absurd behind (Nat.not_succ_le_self _)
      · exact ok.kept (hother same)
    · rw [List.mem_singleton.mp new]
      refine ⟨?_, ?_, ?_, Nat.le_refl _, fun _ => ⟨rfl, ?_, ?_⟩, fun live => by cases live⟩
      · rw [hself, inv.indexed known opened]
      · rw [hself, hnext]
        exact Nat.succ_pos _
      · rw [hself, hnext]
        omega
      · rw [hself]
        rfl
      · rw [hself]
        exact (by decide : (1 : BitVec 32) ≠ 0)

theorem Inv.step (inv : s.Inv) (op : RegistryOp) (fits : s.GenerationFits op) : (s.step op).Inv := by
  cases op with
  | sessionReserve => exact inv.sessionReserve
  | sessionRelease session =>
      cases session with
      | none => exact inv
      | some session => exact inv.sessionRelease session
  | reserve session outputs allocated => exact inv.reserve session outputs allocated fits
  | deactivate record =>
      cases record with
      | none => exact inv
      | some slot => exact inv.deactivate slot
  | release record =>
      cases record with
      | none => exact inv
      | some slot => exact inv.release slot
  | resolve session subscription output => exact inv

/-! ## Freshness -/

theorem Inv.fresh (inv : s.Inv) : s.Fresh where
  live := by
    intro issue mem live
    have ok := inv.issued issue mem
    obtain ⟨generation, queue, active⟩ := ok.current live
    have opened := inv.closed issue.slot queue
    have hs : (BitVec.ofNat 32 issue.slot.1.val).toNat < 4 := by
      rw [BitVec.toNat_ofNat]
      omega
    have hi : (BitVec.ofNat 32 issue.slot.2.val).toNat < 8 := by
      rw [BitVec.toNat_ofNat]
      omega
    have hgeneration : handleGeneration issue.handle = issue.generation := by
      apply BitVec.eq_of_toNat_eq
      rw [ok.encoded, handleGeneration_encodeHandle hs hi, Nat.mod_eq_of_lt ok.fits]
    rw [Registry.subscriptionResolve_eq_ok]
    refine ⟨rfl, opened, ?_, ?_, ?_, queue, active, ?_⟩
    · rw [hgeneration]
      intro zero
      have := ok.positive
      rw [zero] at this
      exact absurd this (by decide)
    · rw [ok.encoded, handleSession_encodeHandle hs hi]
    · rw [ok.encoded, handleSubscriber_encodeHandle hs hi]
    · rw [hgeneration, generation]
  removed := by
    intro issue mem dead session record resolved
    have ok := inv.issued issue mem
    have resolves := Registry.subscriptionResolve_eq_ok.mp resolved
    rw [ok.encoded] at resolves
    obtain ⟨rfl, generation⟩ := Registry.resolves_encodeHandle issue.slot resolves
    rw [Nat.mod_eq_of_lt ok.fits] at generation
    rcases ok.stale dead (BitVec.eq_of_toNat_eq generation.symm) with none | zero
    · have queue := resolves.queue
      rw [none] at queue
      cases queue
    · exact resolves.active zero
  foreign := by
    intro issue mem session ne record resolved
    have resolves := Registry.subscriptionResolve_eq_ok.mp resolved
    rw [(inv.issued issue mem).encoded] at resolves
    obtain ⟨rfl, -⟩ := Registry.resolves_encodeHandle issue.slot resolves
    exact ne resolves.session
  alone := by
    intro p q first second record hfirst hsecond
    exact (Registry.subscriptionResolve_eq_ok.mp hfirst).handle_eq
      (Registry.subscriptionResolve_eq_ok.mp hsecond)
  failed := by
    intro session outputs allocated result failed
    rcases s.registry.subscriptionReserve_cases session outputs allocated with
      ⟨_, same⟩ | ⟨_, _, rfl, rfl, rfl, opened, found⟩
    · rw [same]
    · rw [s.registry.subscriptionReserve_of_free opened found] at failed
      cases failed

/-- A reservation that reaches generation `2 ^ 27` returns a handle that names nothing. -/
theorem Inv.not_fresh (inv : s.Inv) {op : RegistryOp} (overflow : ¬ s.GenerationFits op) :
    ¬ (s.step op).Fresh := by
  intro fresh
  unfold GenerationFits at overflow
  split at overflow
  · rename_i known
    simp only [not_forall, Nat.not_lt] at overflow
    obtain ⟨opened, index, found, large⟩ := overflow
    have reserved := s.registry.subscriptionReserve_of_free opened found
    have hbound := inv.bounded (known, index)
    have hexact : (s.registry.record (known, index)).generation = BitVec.ofNat 32 (2 ^ 27 - 1) := by
      apply BitVec.eq_of_toNat_eq
      rw [BitVec.toNat_ofNat]
      omega
    have hnext : (nextGeneration (s.registry.record (known, index)).generation).toNat = 2 ^ 27 := by
      rw [hexact]
      rfl
    obtain ⟨issue, returned, live, slot, handle⟩ :
        ∃ issue ∈ (s.step (.reserve (some known) true true)).issued, issue.live = true ∧
          issue.slot = (known, index) ∧
          issue.handle = encodeHandle (s.registry.sessions known).sessionIndex
            (BitVec.ofNat 32 index) (nextGeneration (s.registry.record (known, index)).generation) := by
      simp only [IssuedRegistry.step, reserved]
      exact ⟨_, List.mem_append_right _ (List.mem_singleton_self _), rfl, rfl, rfl⟩
    have resolved := fresh.live issue returned live
    rw [inv.indexed known opened] at handle
    rw [Registry.subscriptionResolve_eq_ok, slot, handle] at resolved
    obtain ⟨-, generation⟩ := Registry.resolves_encodeHandle (known, index) resolved
    simp only [IssuedRegistry.step, reserved] at generation
    rw [s.registry.record_reserveSlot_self, hnext, Nat.mod_self] at generation
    cases generation
  · exact overflow trivial

/-- The handles of a run stay fresh exactly when no reserve that succeeds finds a
generation of `2 ^ 27 - 1` or more. -/
theorem fresh_iff_generationFits (ops : List RegistryOp) :
    (∀ before, before <+: ops → (after before).Fresh) ↔
      ∀ before op, before ++ [op] <+: ops → (after before).GenerationFits op :=
  Transition.forall_prefix_iff IssuedRegistry.step IssuedRegistry.initial Inv.initial
    (fun inv fits => Inv.step inv _ fits) Inv.fresh
    (fun inv overflow => inv.not_fresh overflow) ops

/-! ## A slot worn out -/

/-- One session, whose first slot is reserved and released `n` times. -/
def wornOps : Nat → List RegistryOp
  | 0 => [.sessionReserve]
  | n + 1 => wornOps n ++ [.reserve (some 0) true true] ++ [.release (some (0, 0))]

theorem after_wornOps {n : Nat} (le : n ≤ 2 ^ 27 - 1) :
    (after (wornOps n)).Inv ∧ ((after (wornOps n)).registry.sessions 0).state = .opened ∧
      (∀ index, ((after (wornOps n)).registry.record (0, index)).queue = none) ∧
      ((after (wornOps n)).registry.record (0, 0)).generation.toNat = n := by
  induction n with
  | zero => exact ⟨Inv.initial.sessionReserve, rfl, fun _ => rfl, rfl⟩
  | succ n ih =>
      obtain ⟨inv, opened, free, generation⟩ := ih (Nat.le_of_succ_le le)
      have found := (after (wornOps n)).registry.freeSlot_of_all_free free
      have fits : (after (wornOps n)).GenerationFits (.reserve (some 0) true true) := by
        intro _ index found'
        obtain rfl := Option.some.inj (found.symm.trans found')
        rw [generation]
        exact le
      have reserved := (after (wornOps n)).registry.subscriptionReserve_of_free opened found
      have inv' := (inv.step _ fits).step (.release (some (0, 0))) trivial
      rw [wornOps, after_snoc, after_snoc]
      refine ⟨inv', ?_, fun index => ?_, ?_⟩
      · simp only [step, reserved, Registry.state_subscriptionRelease, Registry.state_reserveSlot]
        exact opened
      · simp only [step, reserved]
        by_cases same : index = 0
        · rw [same, Registry.record_subscriptionRelease_self]
        · have ne : ((0, index) : Slot) ≠ (0, 0) := fun equal => same (Prod.mk.inj equal).2
          rw [Registry.record_subscriptionRelease_of_ne _ ne, Registry.record_reserveSlot_of_ne _ ne]
          exact free index
      · simp only [step, reserved]
        rw [Registry.record_subscriptionRelease_self, Registry.record_reserveSlot_self]
        rw [toNat_nextGeneration (by rw [generation]; exact le), generation]

/-- After `2 ^ 27 - 1` reservations of one slot, the next one returns the null handle. -/
theorem handle_not_fresh : ¬ ∀ ops : List RegistryOp, (after ops).Fresh := by
  intro fresh
  obtain ⟨inv, opened, free, generation⟩ := after_wornOps (Nat.le_refl (2 ^ 27 - 1))
  have reached := fresh (wornOps (2 ^ 27 - 1) ++ [.reserve (some 0) true true])
  rw [after_snoc] at reached
  refine inv.not_fresh (fun fits => ?_) reached
  have below := fits opened 0 ((after (wornOps (2 ^ 27 - 1))).registry.freeSlot_of_all_free free)
  rw [generation] at below
  exact absurd below (Nat.lt_irrefl _)

end IssuedRegistry

end AxolotyEmbedded.Zenoh
