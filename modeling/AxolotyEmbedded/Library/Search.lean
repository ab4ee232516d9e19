import Mathlib.Data.List.Basic
import Mathlib.Logic.Relation

/-!
A depth-first search with a stack of items. An item whose name is on its own trail is
refused, and of the items with one key the first is expanded. What a stack of items does is
what its items do one after another, each with all that it leads to, so a graph without a
refused item has no cycle.
-/
namespace AxolotyEmbedded

structure Search (ι κ ν : Type) where
  key : ι → κ
  name : κ → ν
  trail : ι → List ν
  expand : ι → List ι

namespace Search

inductive Event (ι : Type) where
  | refused (item : ι)
  | expanded (item : ι)

def Event.item {ι : Type} : Event ι → ι
  | refused item => item
  | expanded item => item

variable {ι κ ν : Type} (search : Search ι κ ν)

def Refuses (item : ι) : Prop := search.name (search.key item) ∈ search.trail item

/-- The passes of the loop that take a stack, its top first, to the empty one. -/
inductive Runs : List ι → List κ → List (Event ι) → List κ → Prop where
  | done {visited : List κ} : Runs [] visited [] visited
  | refuse {item : ι} {rest : List ι} {visited last : List κ} {events : List (Event ι)}
      (refuses : search.Refuses item) (later : Runs rest visited events last) :
      Runs (item :: rest) visited (.refused item :: events) last
  | skip {item : ι} {rest : List ι} {visited last : List κ} {events : List (Event ι)}
      (accepts : ¬search.Refuses item) (seen : search.key item ∈ visited)
      (later : Runs rest visited events last) : Runs (item :: rest) visited events last
  | expand {item : ι} {rest : List ι} {visited last : List κ} {events : List (Event ι)}
      (accepts : ¬search.Refuses item) (new : search.key item ∉ visited)
      (later : Runs (search.expand item ++ rest) (search.key item :: visited) events last) :
      Runs (item :: rest) visited (.expanded item :: events) last

/-- The search by recursion: all that an item leads to comes before the next item. -/
inductive Explores : List ι → List κ → List (Event ι) → List κ → Prop where
  | done {visited : List κ} : Explores [] visited [] visited
  | refuse {item : ι} {rest : List ι} {visited last : List κ} {events : List (Event ι)}
      (refuses : search.Refuses item) (later : Explores rest visited events last) :
      Explores (item :: rest) visited (.refused item :: events) last
  | skip {item : ι} {rest : List ι} {visited last : List κ} {events : List (Event ι)}
      (accepts : ¬search.Refuses item) (seen : search.key item ∈ visited)
      (later : Explores rest visited events last) : Explores (item :: rest) visited events last
  | expand {item : ι} {rest : List ι} {visited middle last : List κ}
      {inside events : List (Event ι)} (accepts : ¬search.Refuses item)
      (new : search.key item ∉ visited)
      (below : Explores (search.expand item) (search.key item :: visited) inside middle)
      (later : Explores rest middle events last) :
      Explores (item :: rest) visited (.expanded item :: (inside ++ events)) last

variable {search} {first second items : List ι} {visited middle last : List κ}
  {events inside later : List (Event ι)} {item : ι}

theorem Explores.append (begun : search.Explores first visited events middle)
    (ended : search.Explores second middle later last) :
    search.Explores (first ++ second) visited (events ++ later) last := by
  induction begun with
  | done => exact ended
  | refuse refuses _ ih => exact .refuse refuses (ih ended)
  | skip accepts seen _ ih => exact .skip accepts seen (ih ended)
  | expand accepts new below _ _ ih =>
      rw [List.cons_append, List.cons_append, List.append_assoc]
      exact .expand accepts new below (ih ended)

theorem Explores.split (explores : search.Explores (first ++ second) visited events last) :
    ∃ middle inside later, search.Explores first visited inside middle ∧
      search.Explores second middle later last ∧ events = inside ++ later := by
  induction first generalizing visited events with
  | nil => exact ⟨visited, [], events, .done, explores, rfl⟩
  | cons item rest ih =>
      cases explores with
      | refuse refuses explores =>
          obtain ⟨middle, inside, later, begun, ended, rfl⟩ := ih explores
          exact ⟨middle, _, later, .refuse refuses begun, ended, rfl⟩
      | skip accepts seen explores =>
          obtain ⟨middle, inside, later, begun, ended, rfl⟩ := ih explores
          exact ⟨middle, _, later, .skip accepts seen begun, ended, rfl⟩
      | expand accepts new below explores =>
          obtain ⟨middle, inside, later, begun, ended, rfl⟩ := ih explores
          exact ⟨middle, _, later, .expand accepts new below begun, ended, by simp⟩

/-- The loop with a stack is the recursive search. -/
theorem Runs.explores (runs : search.Runs items visited events last) :
    search.Explores items visited events last := by
  induction runs with
  | done => exact .done
  | refuse refuses _ ih => exact .refuse refuses ih
  | skip accepts seen _ ih => exact .skip accepts seen ih
  | expand accepts new _ ih =>
      obtain ⟨middle, inside, later, below, ended, rfl⟩ := ih.split
      exact .expand accepts new below ended

theorem Explores.runs_append (explores : search.Explores first visited events middle)
    (runs : search.Runs second middle later last) :
    search.Runs (first ++ second) visited (events ++ later) last := by
  induction explores generalizing second later last with
  | done => exact runs
  | refuse refuses _ ih => exact .refuse refuses (ih runs)
  | skip accepts seen _ ih => exact .skip accepts seen (ih runs)
  | expand accepts new _ _ below ih =>
      rw [List.cons_append, List.cons_append, List.append_assoc]
      exact .expand accepts new (below (ih runs))

theorem Explores.runs (explores : search.Explores items visited events last) :
    search.Runs items visited events last := by
  simpa only [List.append_nil] using explores.runs_append .done

/-! ## What is visited -/

/-- No item is refused. -/
def Clean (events : List (Event ι)) : Prop := ∀ item, .refused item ∉ events

theorem Clean.tail {event : Event ι} (clean : Clean (event :: events)) : Clean events :=
  fun item held => clean item (List.mem_cons_of_mem _ held)

theorem Clean.left (clean : Clean (inside ++ later)) : Clean inside :=
  fun item held => clean item (List.mem_append_left _ held)

theorem Clean.right (clean : Clean (inside ++ later)) : Clean later :=
  fun item held => clean item (List.mem_append_right _ held)

theorem Clean.not_refused (clean : Clean (.refused item :: events)) : False :=
  clean item List.mem_cons_self

theorem Explores.subset (explores : search.Explores items visited events last) :
    visited ⊆ last := by
  induction explores with
  | done => exact List.Subset.refl _
  | refuse _ _ ih => exact ih
  | skip _ _ _ ih => exact ih
  | expand _ _ _ _ below ih =>
      exact fun k held => ih (below (List.mem_cons_of_mem _ held))

/-- What an item leads to. -/
def Leads (search : Search ι κ ν) : ι → ι → Prop :=
  Relation.ReflTransGen fun item next => next ∈ search.expand item

/-- The expansion of a good item comes to all keys that an edge leads to, and its items
carry the name of the expanded one on their trails. -/
structure Follows (search : Search ι κ ν) (good : ι → Prop) (edge : κ → κ → Prop) : Prop where
  kept : ∀ item, good item → ∀ next ∈ search.expand item, good next
  found : ∀ item, good item → ∀ k, edge (search.key item) k →
    ∃ next ∈ search.expand item, search.key next = k
  named : ∀ item, ∀ next ∈ search.expand item, search.name (search.key item) ∈ search.trail next
  trailed : ∀ item, ∀ next ∈ search.expand item, search.trail item ⊆ search.trail next

variable {good : ι → Prop} {edge : κ → κ → Prop} {k : κ}

theorem Follows.leads (follows : search.Follows good edge) {next : ι} (leads : search.Leads item next)
    (start : good item) : good next := by
  induction leads with
  | refl => exact start
  | tail _ member ih => exact follows.kept _ ih _ member

/-- No infinite path of edges starts at a key. -/
def Ends (edge : κ → κ → Prop) (k : κ) : Prop := Acc (fun next k => edge k next) k

/-- The visited keys are those of the items above the stack, the spine, or no cycle is
below them. -/
theorem Follows.ends_of_explores (follows : search.Follows good edge)
    (explores : search.Explores items visited events last) (clean : Clean events)
    (start : ∀ item ∈ items, good item) (spine : List κ)
    (above : ∀ item ∈ items, ∀ k ∈ spine, search.name k ∈ search.trail item)
    (closed : ∀ k ∈ visited, k ∈ spine ∨ Ends edge k) :
    (∀ k ∈ last, k ∈ spine ∨ Ends edge k) ∧ ∀ item ∈ items, Ends edge (search.key item) := by
  induction explores generalizing spine with
  | done => exact ⟨closed, fun item held => absurd held List.not_mem_nil⟩
  | refuse => exact clean.not_refused.elim
  | @skip item rest _ _ _ accepts seen _ ih =>
      obtain ⟨held, ends⟩ := ih clean (fun item member => start item (List.mem_cons_of_mem _ member))
        spine (fun item member => above item (List.mem_cons_of_mem _ member)) closed
      refine ⟨held, fun other member => ?_⟩
      cases member with
      | head =>
          -- a key of the spine would have been refused
          obtain spined | ends := closed _ seen
          · exact absurd (above item List.mem_cons_self _ spined) accepts
          · exact ends
      | tail _ member => exact ends other member
  | @expand item rest _ between _ _ _ _ _ _ _ below ih =>
      have here : good item := start item List.mem_cons_self
      obtain ⟨middle, ends⟩ := below clean.tail.left
        (follows.kept item here) (search.key item :: spine)
        (by
          intro next member k held
          obtain rfl | held := List.mem_cons.mp held
          · exact follows.named item next member
          · exact follows.trailed item next member (above item List.mem_cons_self k held))
        (by
          intro k held
          obtain rfl | held := List.mem_cons.mp held
          · exact .inl List.mem_cons_self
          · exact (closed k held).imp_left (List.mem_cons_of_mem _))
      have ended : Ends edge (search.key item) := by
        apply Acc.intro
        intro k step
        obtain ⟨next, member, rfl⟩ := follows.found item here k step
        exact ends next member
      have closed : ∀ k ∈ between, k ∈ spine ∨ Ends edge k := by
        intro k held
        obtain spined | ends := middle k held
        · obtain rfl | spined := List.mem_cons.mp spined
          · exact .inr ended
          · exact .inl spined
        · exact .inr ends
      obtain ⟨held, ends⟩ := ih clean.tail.right
        (fun item member => start item (List.mem_cons_of_mem _ member)) spine
        (fun item member => above item (List.mem_cons_of_mem _ member)) closed
      refine ⟨held, fun other member => ?_⟩
      cases member with
      | head => exact ended
      | tail _ member => exact ends other member

/-- A search without a refused item finds no cycle since there is none. -/
theorem Follows.ends (follows : search.Follows good edge)
    (explores : search.Explores items [] events last) (clean : Clean events)
    (start : ∀ item ∈ items, good item) : ∀ item ∈ items, Ends edge (search.key item) :=
  (follows.ends_of_explores explores clean start []
    (fun _ _ _ held => absurd held List.not_mem_nil) (fun _ held => absurd held List.not_mem_nil)).2

/-- Where no infinite path starts, no cycle starts. -/
theorem Ends.acyclic (ends : Ends edge k) : ¬Relation.TransGen edge k k := by
  induction ends with
  | intro k _ ih =>
      intro cycle
      obtain ⟨next, step, back⟩ := Relation.TransGen.head'_iff.mp cycle
      exact ih next step (Relation.TransGen.tail' back step)

/-! ## Termination -/

end Search

end AxolotyEmbedded
