import AxolotyEmbedded.Zenoh.CallbackInvariant
import AxolotyEmbedded.Library.Transition

/-!
No callback uses a freed queue, in every schedule without hazards. Each step of
the lifecycle thread keeps what the registry, the heap and the history agree on;
the steps of the callbacks keep their own assertions and the count of claims.
-/
namespace AxolotyEmbedded.Zenoh
open Wrapping Transition

variable {s t : CallbackSystem}

namespace CallbackSystem

/-- Nothing that links queues to records has changed: neither the heap, nor what
was freed or declared, nor the queue and the generation of a record. -/
structure SameLinks (s t : CallbackSystem) : Prop where
  heap : t.registry.heap = s.registry.heap
  freed : t.registry.freed = s.registry.freed
  declared : t.declared = s.declared
  latest : t.latest = s.latest
  queue : ∀ slot, (t.record slot).queue = (s.record slot).queue
  generation : ∀ slot, (t.record slot).generation = (s.record slot).generation

/-! ## Steps of the lifecycle thread -/

/-- A step that changes no link, and activates only a record whose queue lives. -/
theorem Owned.settle (owned : s.Owned) (same : SameLinks s t)
    (indexed : ∀ session, (t.registry.sessions session).state = .opened →
      (t.registry.sessions session).sessionIndex = BitVec.ofNat 32 session)
    (reserving : t.lifecycle.reserving = s.lifecycle.reserving)
    (generation : ∀ slot queue generation,
      t.lifecycle = .storeGeneration slot queue generation → s.lifecycle = t.lifecycle)
    (stored : ∀ slot queue, t.lifecycle.stored = some (slot, queue) →
      s.lifecycle.stored = some (slot, queue))
    (clear : ∀ slot, t.lifecycle = .clear slot ↔ s.lifecycle = .clear slot)
    (active : ∀ slot, (t.record slot).active ≠ 0 → (s.record slot).active ≠ 0 ∨
      ∃ queue, s.latest slot = some queue ∧ s.registry.freed queue = false)
    (quiet : ∀ slot, t.lifecycle.quieting slot = true → (t.record slot).active = 0) :
    t.Owned := by
  have context : ∀ {queue slot generation}, t.IsContext queue slot generation ↔
      s.IsContext queue slot generation := isContext_congr same.heap
  constructor
  case indexed => exact indexed
  case contexts =>
    simp only [same.heap, context]
    exact owned.contexts
  case idle =>
    rw [reserving, same.heap, same.declared]
    exact owned.idle
  case reserving =>
    simp only [reserving, same.heap, same.declared, same.queue]
    exact owned.reserving
  case generation =>
    intro slot queue generation' phase
    rw [context]
    exact owned.generation slot queue generation' ((generation _ _ _ phase).trans phase)
  case stored =>
    intro slot queue phase
    rw [same.latest]
    exact owned.stored slot queue (stored slot queue phase)
  case freed =>
    rw [same.freed, same.declared]
    exact owned.freed
  case latest =>
    simp only [same.latest, same.generation, context]
    exact owned.latest
  case owner =>
    simp only [same.declared, same.freed, same.latest, context]
    exact owned.owner
  case held =>
    simp only [same.queue, same.latest, same.declared]
    exact owned.held
  case unfreed =>
    simp only [same.queue, same.freed, clear]
    exact owned.unfreed
  case linked =>
    simp only [same.declared, same.latest, same.freed, same.queue]
    exact owned.linked
  case active =>
    intro slot nonzero
    rw [same.latest, same.freed]
    exact (active slot nonzero).elim (owned.active slot) id
  case quiet => exact quiet
  case cleared =>
    simp only [clear, same.queue, same.freed]
    exact owned.cleared

theorem Owned.inactive (owned : s.Owned) (idle : s.lifecycle.reserving = none) {slot : Slot}
    (free : (s.record slot).queue = none) : (s.record slot).active = 0 := by
  by_contra nonzero
  obtain ⟨queue, latest, unfreed⟩ := owned.active slot nonzero
  have below : queue < s.declared := by
    rw [← owned.idle idle]
    exact (owned.latest slot queue latest).lt
  rw [owned.linked slot queue below latest unfreed] at free
  cases free

/-- `calloc` finds a new queue for a free record of an open session. -/
theorem Owned.reserve (owned : s.Owned) (idle : s.lifecycle = .idle) {slot : Slot}
    {context : QueueContext} (free : (s.record slot).queue = none)
    (named : context = ⟨BitVec.ofNat 32 slot.1, BitVec.ofNat 32 slot.2, context.generation⟩)
    (registry : t.registry = { s.registry with heap := s.registry.heap ++ [context] })
    (lifecycle : t.lifecycle =
      .storeGeneration slot s.registry.heap.length context.generation)
    (declared : t.declared = s.declared) (latest : t.latest = s.latest) : t.Owned := by
  have hlength : s.registry.heap.length = s.declared := owned.idle (by rw [idle]; rfl)
  have hquiet := owned.inactive (by rw [idle]; rfl) free
  have hrecord : ∀ slot, t.record slot = s.record slot := fun slot => by
    rw [record, registry]
    rfl
  have hold : ∀ {queue slot generation}, queue < s.declared →
      (t.IsContext queue slot generation ↔ s.IsContext queue slot generation) := by
    intro queue slot generation below
    rw [IsContext, IsContext, registry, List.getElem?_append_left (by omega)]
  have hnew : t.IsContext s.registry.heap.length slot context.generation := by
    rw [IsContext, registry, List.getElem?_concat_length, ← named]
  constructor
  case indexed =>
    rw [registry]
    exact owned.indexed
  case contexts =>
    intro queue below
    rw [registry, List.length_append, List.length_singleton] at below
    by_cases last : queue = s.registry.heap.length
    · exact ⟨slot, context.generation, last ▸ hnew⟩
    · simp only [hold (show queue < s.declared by omega)]
      exact owned.contexts queue (by omega)
  case idle =>
    intro reserving
    rw [lifecycle] at reserving
    cases reserving
  case reserving =>
    intro slot' queue reserving
    rw [lifecycle] at reserving
    cases reserving
    refine ⟨by rw [declared, hlength], ?_, by rwa [hrecord]⟩
    rw [registry, List.length_append, declared, hlength]
    rfl
  case generation =>
    intro slot' queue generation phase
    rw [lifecycle] at phase
    cases phase
    exact hnew
  case stored =>
    intro slot' queue stored
    rw [lifecycle] at stored
    cases stored
  case freed =>
    rw [registry, declared]
    exact owned.freed
  case latest =>
    intro slot' queue found
    rw [latest] at found
    have context := owned.latest slot' queue found
    rw [hrecord, hold (hlength ▸ context.lt)]
    exact context
  case owner =>
    intro queue below slot' generation context unfreed
    rw [declared] at below
    rw [registry] at unfreed
    rw [latest]
    exact owned.owner queue below slot' generation ((hold below).mp context) unfreed
  case held =>
    simp only [hrecord, latest, declared]
    exact owned.held
  case unfreed =>
    intro slot' queue held
    rw [hrecord] at held
    rw [registry]
    refine (owned.unfreed slot' queue held).imp_right fun phase => ?_
    rw [idle] at phase
    cases phase
  case linked =>
    simp only [hrecord, latest, declared, registry]
    exact owned.linked
  case active =>
    simp only [hrecord, latest, registry]
    exact owned.active
  case quiet =>
    intro slot' quieting
    rw [lifecycle] at quieting
    rw [hrecord, ← eq_of_beq quieting]
    exact hquiet
  case cleared =>
    intro slot' phase
    rw [lifecycle] at phase
    cases phase

/-- The new generation makes the reserved queue the latest of its record. -/
theorem Owned.storeGeneration (owned : s.Owned) {slot : Slot} {queue : Nat}
    {generation : BitVec 32} (phase : s.lifecycle = .storeGeneration slot queue generation)
    (heap : t.registry.heap = s.registry.heap) (freed : t.registry.freed = s.registry.freed)
    (indexed : ∀ session, (t.registry.sessions session).state = .opened →
      (t.registry.sessions session).sessionIndex = BitVec.ofNat 32 session)
    (self : t.record slot = { s.record slot with generation })
    (others : ∀ other, other ≠ slot → t.record other = s.record other)
    (lifecycle : t.lifecycle = .storeIndexes slot queue) (declared : t.declared = s.declared)
    (latest : t.latest = Function.update s.latest slot (some queue)) : t.Owned := by
  obtain ⟨rfl, hlength, hfree⟩ := owned.reserving slot queue (by rw [phase]; rfl)
  have hreserved := owned.generation slot _ generation phase
  have hquiet := owned.quiet slot (by rw [phase]; exact beq_self_eq_true slot)
  have context : ∀ {queue slot generation}, t.IsContext queue slot generation ↔
      s.IsContext queue slot generation := isContext_congr heap
  have hself : t.latest slot = some s.declared := by rw [latest, Function.update_self]
  have hother : ∀ {other}, other ≠ slot → t.latest other = s.latest other := fun ne => by
    rw [latest, Function.update_of_ne ne]
  have hqueue : ∀ other, (t.record other).queue = (s.record other).queue := by
    intro other
    by_cases same : other = slot
    · rw [same, self]
    · rw [others other same]
  -- The record holds no queue, so what it last held is freed.
  have hgone : ∀ queue < s.declared, s.latest slot = some queue →
      s.registry.freed queue = true := by
    intro queue below known
    by_contra unfreed
    rw [owned.linked slot queue below known (by simpa using unfreed)] at hfree
    cases hfree
  constructor
  case indexed => exact indexed
  case contexts =>
    simp only [heap, context]
    exact owned.contexts
  case idle =>
    intro reserving
    rw [lifecycle] at reserving
    cases reserving
  case reserving =>
    intro slot' queue reserving
    rw [lifecycle] at reserving
    cases reserving
    exact ⟨declared.symm, by rw [heap, declared, hlength], by rw [hqueue, hfree]⟩
  case generation =>
    intro slot' queue generation' phase
    rw [lifecycle] at phase
    cases phase
  case stored =>
    intro slot' queue stored
    rw [lifecycle] at stored
    cases stored
    exact hself
  case freed =>
    rw [freed, declared]
    exact owned.freed
  case latest =>
    intro slot' queue found
    rw [context]
    by_cases same : slot' = slot
    · subst same
      rw [hself] at found
      cases found
      rw [self]
      exact hreserved
    · rw [hother same] at found
      rw [others slot' same]
      exact owned.latest slot' queue found
  case owner =>
    intro queue below slot' generation' known unfreed
    rw [declared] at below
    rw [freed] at unfreed
    have before := owned.owner queue below slot' generation' (context.mp known) unfreed
    by_cases same : slot' = slot
    · subst same
      rw [hgone queue below before] at unfreed
      cases unfreed
    · rw [hother same]
      exact before
  case held =>
    intro slot' queue held
    rw [hqueue] at held
    rw [declared]
    by_cases same : slot' = slot
    · rw [same, hfree] at held
      cases held
    · rw [hother same]
      exact owned.held slot' queue held
  case unfreed =>
    intro slot' queue held
    rw [hqueue] at held
    rw [freed]
    refine (owned.unfreed slot' queue held).imp_right fun cleared => ?_
    rw [phase] at cleared
    cases cleared
  case linked =>
    intro slot' queue below known unfreed
    rw [declared] at below
    rw [freed] at unfreed
    rw [hqueue]
    by_cases same : slot' = slot
    · subst same
      rw [hself] at known
      cases known
      exact absurd below (Nat.lt_irrefl _)
    · rw [hother same] at known
      exact owned.linked slot' queue below known unfreed
  case active =>
    intro slot' nonzero
    rw [freed]
    by_cases same : slot' = slot
    · rw [same, self] at nonzero
      exact absurd hquiet nonzero
    · rw [others slot' same] at nonzero
      rw [hother same]
      exact owned.active slot' nonzero
  case quiet =>
    intro slot' quieting
    rw [lifecycle] at quieting
    rw [← eq_of_beq quieting, self]
    exact hquiet
  case cleared =>
    intro slot' phase
    rw [lifecycle] at phase
    cases phase

theorem Owned.storeQueue (owned : s.Owned) {slot : Slot} {queue : Nat}
    (phase : s.lifecycle = .storeQueue slot queue)
    (heap : t.registry.heap = s.registry.heap) (freed : t.registry.freed = s.registry.freed)
    (indexed : ∀ session, (t.registry.sessions session).state = .opened →
      (t.registry.sessions session).sessionIndex = BitVec.ofNat 32 session)
    (self : t.record slot = { s.record slot with queue := some queue })
    (others : ∀ other, other ≠ slot → t.record other = s.record other)
    (lifecycle : t.lifecycle = .idle) (declared : t.declared = queue + 1)
    (latest : t.latest = s.latest) : t.Owned := by
  obtain ⟨rfl, hlength, hfree⟩ := owned.reserving slot queue (by rw [phase]; rfl)
  have hlatest := owned.stored slot _ (by rw [phase]; rfl)
  have context : ∀ {queue slot generation}, t.IsContext queue slot generation ↔
      s.IsContext queue slot generation := isContext_congr heap
  have hgeneration : ∀ other, (t.record other).generation = (s.record other).generation := by
    intro other
    by_cases same : other = slot
    · rw [same, self]
    · rw [others other same]
  have hactive : ∀ other, (t.record other).active = (s.record other).active := by
    intro other
    by_cases same : other = slot
    · rw [same, self]
    · rw [others other same]
  have hunfreed : s.registry.freed s.declared = false := by
    by_contra gone
    exact absurd (owned.freed _ (by simpa using gone)) (Nat.lt_irrefl _)
  constructor
  case indexed => exact indexed
  case contexts =>
    simp only [heap, context]
    exact owned.contexts
  case idle => exact fun _ => by rw [heap, hlength, declared]
  case reserving =>
    intro slot' queue reserving
    rw [lifecycle] at reserving
    cases reserving
  case generation =>
    intro slot' queue generation phase
    rw [lifecycle] at phase
    cases phase
  case stored =>
    intro slot' queue stored
    rw [lifecycle] at stored
    cases stored
  case freed =>
    intro queue gone
    rw [freed] at gone
    rw [declared]
    exact Nat.lt_succ_of_lt (owned.freed queue gone)
  case latest =>
    simp only [latest, hgeneration, context]
    exact owned.latest
  case owner =>
    intro queue below slot' generation known unfreed
    rw [declared] at below
    rw [freed] at unfreed
    rw [latest]
    by_cases last : queue = s.declared
    · subst last
      rw [((context.mp known).unique (owned.latest slot _ hlatest)).1]
      exact hlatest
    · exact owned.owner queue (by omega) slot' generation (context.mp known) unfreed
  case held =>
    intro slot' queue held
    rw [latest, declared]
    by_cases same : slot' = slot
    · rw [same, self] at held
      cases held
      exact ⟨same ▸ hlatest, Nat.lt_succ_self _⟩
    · rw [others slot' same] at held
      exact (owned.held slot' queue held).imp_right Nat.lt_succ_of_lt
  case unfreed =>
    intro slot' queue held
    rw [freed]
    by_cases same : slot' = slot
    · rw [same, self] at held
      cases held
      exact .inl hunfreed
    · rw [others slot' same] at held
      refine (owned.unfreed slot' queue held).imp_right fun cleared => ?_
      rw [phase] at cleared
      cases cleared
  case linked =>
    intro slot' queue below known unfreed
    rw [declared] at below
    rw [latest] at known
    rw [freed] at unfreed
    by_cases last : queue = s.declared
    · subst last
      have same : slot' = slot :=
        ((owned.latest slot' _ known).unique (owned.latest slot _ hlatest)).1
      rw [same, self]
    · have held := owned.linked slot' queue (by omega) known unfreed
      have ne : slot' ≠ slot := by
        rintro rfl
        rw [hfree] at held
        cases held
      rw [others slot' ne]
      exact held
  case active =>
    simp only [hactive, latest, freed]
    exact owned.active
  case quiet =>
    intro slot' quieting
    rw [lifecycle] at quieting
    cases quieting
  case cleared =>
    intro slot' phase
    rw [lifecycle] at phase
    cases phase

theorem Owned.free (owned : s.Owned) {slot : Slot} (phase : s.lifecycle = .free slot)
    (heap : t.registry.heap = s.registry.heap)
    (sessions : t.registry.sessions = s.registry.sessions)
    (freed : ∀ queue, t.registry.freed queue = true ↔
      s.registry.freed queue = true ∨ (s.record slot).queue = some queue)
    (lifecycle : t.lifecycle = .clear slot) (declared : t.declared = s.declared)
    (latest : t.latest = s.latest) : t.Owned := by
  have context : ∀ {queue slot generation}, t.IsContext queue slot generation ↔
      s.IsContext queue slot generation := isContext_congr heap
  have hquiet := owned.quiet slot (by rw [phase]; exact beq_self_eq_true slot)
  have hrecord : ∀ slot, t.record slot = s.record slot := fun slot => by
    simp only [record, Registry.record, sessions]
  have hlive : ∀ {queue}, t.registry.freed queue = false →
      s.registry.freed queue = false ∧ (s.record slot).queue ≠ some queue := by
    intro queue unfreed
    have := not_or.mp (fun gone => by
      rw [(freed queue).mpr gone] at unfreed
      cases unfreed)
    exact ⟨by simpa using this.1, this.2⟩
  constructor
  case indexed =>
    rw [sessions]
    exact owned.indexed
  case contexts =>
    simp only [heap, context]
    exact owned.contexts
  case idle => exact fun _ => by rw [heap, declared, owned.idle (by rw [phase]; rfl)]
  case reserving =>
    intro slot' queue reserving
    rw [lifecycle] at reserving
    cases reserving
  case generation =>
    intro slot' queue generation phase
    rw [lifecycle] at phase
    cases phase
  case stored =>
    intro slot' queue stored
    rw [lifecycle] at stored
    cases stored
  case freed =>
    intro queue gone
    rw [declared]
    exact ((freed queue).mp gone).elim (owned.freed queue) fun held => (owned.held slot queue held).2
  case latest =>
    simp only [latest, hrecord, context]
    exact owned.latest
  case owner =>
    intro queue below slot' generation known unfreed
    rw [declared] at below
    rw [latest]
    exact owned.owner queue below slot' generation (context.mp known) (hlive unfreed).1
  case held =>
    simp only [hrecord, latest, declared]
    exact owned.held
  case unfreed =>
    intro slot' queue held
    rw [hrecord] at held
    by_cases same : slot' = slot
    · exact .inr (by rw [lifecycle, same])
    · refine .inl ?_
      by_contra gone
      rcases (freed queue).mp (by simpa using gone) with before | now
      · rcases owned.unfreed slot' queue held with unfreed | cleared
        · rw [before] at unfreed
          cases unfreed
        · rw [phase] at cleared
          cases cleared
      · have context := owned.latest slot' queue (owned.held slot' queue held).1
        have context' := owned.latest slot queue (owned.held slot queue now).1
        exact same (context.unique context').1
  case linked =>
    intro slot' queue below known unfreed
    rw [declared] at below
    rw [latest] at known
    rw [hrecord]
    exact owned.linked slot' queue below known (hlive unfreed).1
  case active =>
    intro slot' nonzero
    rw [hrecord] at nonzero
    obtain ⟨queue, known, unfreed⟩ := owned.active slot' nonzero
    refine ⟨queue, by rw [latest]; exact known, ?_⟩
    by_contra gone
    rcases (freed queue).mp (by simpa using gone) with before | held
    · rw [before] at unfreed
      cases unfreed
    · have context := owned.latest slot queue (owned.held slot queue held).1
      have same := ((owned.latest slot' queue known).unique context).1
      rw [same] at nonzero
      exact nonzero hquiet
  case quiet =>
    intro slot' quieting
    rw [lifecycle] at quieting
    rw [hrecord, ← eq_of_beq quieting]
    exact hquiet
  case cleared =>
    intro slot' cleared queue held
    rw [lifecycle] at cleared
    cases cleared
    rw [hrecord] at held
    exact (freed queue).mpr (.inr held)

theorem Owned.clear (owned : s.Owned) {slot : Slot} (phase : s.lifecycle = .clear slot)
    (heap : t.registry.heap = s.registry.heap) (freed : t.registry.freed = s.registry.freed)
    (indexed : ∀ session, (t.registry.sessions session).state = .opened →
      (t.registry.sessions session).sessionIndex = BitVec.ofNat 32 session)
    (self : t.record slot = { s.record slot with queue := none })
    (others : ∀ other, other ≠ slot → t.record other = s.record other)
    (lifecycle : t.lifecycle = .idle) (declared : t.declared = s.declared)
    (latest : t.latest = s.latest) : t.Owned := by
  have context : ∀ {queue slot generation}, t.IsContext queue slot generation ↔
      s.IsContext queue slot generation := isContext_congr heap
  have hgeneration : ∀ other, (t.record other).generation = (s.record other).generation := by
    intro other
    by_cases same : other = slot
    · rw [same, self]
    · rw [others other same]
  have hactive : ∀ other, (t.record other).active = (s.record other).active := by
    intro other
    by_cases same : other = slot
    · rw [same, self]
    · rw [others other same]
  have hheld : ∀ other queue, (t.record other).queue = some queue →
      other ≠ slot ∧ (s.record other).queue = some queue := by
    intro other queue held
    by_cases same : other = slot
    · rw [same, self] at held
      cases held
    · exact ⟨same, by rwa [others other same] at held⟩
  constructor
  case indexed => exact indexed
  case contexts =>
    simp only [heap, context]
    exact owned.contexts
  case idle => exact fun _ => by rw [heap, declared, owned.idle (by rw [phase]; rfl)]
  case reserving =>
    intro slot' queue reserving
    rw [lifecycle] at reserving
    cases reserving
  case generation =>
    intro slot' queue generation phase
    rw [lifecycle] at phase
    cases phase
  case stored =>
    intro slot' queue stored
    rw [lifecycle] at stored
    cases stored
  case freed =>
    rw [freed, declared]
    exact owned.freed
  case latest =>
    simp only [latest, hgeneration, context]
    exact owned.latest
  case owner =>
    simp only [declared, freed, latest, context]
    exact owned.owner
  case held =>
    intro slot' queue held
    rw [latest, declared]
    exact owned.held slot' queue (hheld slot' queue held).2
  case unfreed =>
    intro slot' queue held
    obtain ⟨ne, held⟩ := hheld slot' queue held
    rw [freed]
    refine (owned.unfreed slot' queue held).imp_right fun cleared => ?_
    rw [phase] at cleared
    cases cleared
    exact absurd rfl ne
  case linked =>
    intro slot' queue below known unfreed
    rw [declared] at below
    rw [latest] at known
    rw [freed] at unfreed
    have held := owned.linked slot' queue below known unfreed
    by_cases same : slot' = slot
    · subst same
      rw [owned.cleared slot' phase queue held] at unfreed
      cases unfreed
    · rw [others slot' same]
      exact held
  case active =>
    simp only [hactive, latest, freed]
    exact owned.active
  case quiet =>
    intro slot' quieting
    rw [lifecycle] at quieting
    cases quieting
  case cleared =>
    intro slot' phase
    rw [lifecycle] at phase
    cases phase

end CallbackSystem

end AxolotyEmbedded.Zenoh
