import AxolotyEmbedded.Library.Transition
import Mathlib.Data.List.Basic

/-!
A bounded first-in first-out channel with atomic operations. `put` and `taken`
are everything ever put and taken; what the channel holds is the difference.
-/
namespace AxolotyEmbedded
open Transition

/-- What went in and what came out, the latter in the order of the former. -/
structure Fifo (α : Type) (capacity : Nat) where
  put : List α
  taken : List α
  inOrder : taken <+: put
  bounded : put.length ≤ taken.length + capacity

namespace Fifo
variable {α : Type} {capacity : Nat}

def empty : Fifo α capacity := ⟨[], [], List.nil_prefix, Nat.zero_le _⟩

/-- What was put and not yet taken, oldest first. -/
def contents (fifo : Fifo α capacity) : List α := fifo.put.drop fifo.taken.length

inductive Action (α : Type) where
  | put (a : α)
  | take

/-- One operation: `put` needs room and `take` needs an element. -/
def next (fifo : Fifo α capacity) : Action α → Option (Fifo α capacity)
  | .put a =>
      if room : fifo.put.length < fifo.taken.length + capacity then
        some ⟨fifo.put ++ [a], fifo.taken, fifo.inOrder.trans (List.prefix_append ..), by
          rw [List.length_append]
          exact room⟩
      else none
  | .take =>
      if more : fifo.taken.length < fifo.put.length then
        some ⟨fifo.put, fifo.put.take (fifo.taken.length + 1), List.take_prefix .., by
          have := fifo.bounded
          simp only [List.length_take]
          omega⟩
      else none

/-- Appending within the bound is one `put`. -/
theorem run_put {fifo fifo' : Fifo α capacity} {a : α} (put : fifo'.put = fifo.put ++ [a])
    (taken : fifo'.taken = fifo.taken) : Run next unguarded fifo [.put a] fifo' := by
  obtain ⟨put', taken', inOrder, bounded⟩ := fifo'
  subst put taken
  refine .single trivial (dif_pos ?_)
  rw [List.length_append] at bounded
  exact bounded

/-- Handing out one more element, in order, is one `take`. -/
theorem run_take {fifo fifo' : Fifo α capacity} {a : α} (put : fifo'.put = fifo.put)
    (taken : fifo'.taken = fifo.taken ++ [a]) : Run next unguarded fifo [.take] fifo' := by
  obtain ⟨put', taken', inOrder, bounded⟩ := fifo'
  subst put taken
  have more : fifo.taken.length < fifo.put.length := by
    have := inOrder.length_le
    rwa [List.length_append] at this
  have same : fifo.put.take (fifo.taken.length + 1) = fifo.taken ++ [a] := by
    simpa using (List.prefix_iff_eq_take.mp inOrder).symm
  refine .single trivial ((dif_pos more).trans ?_)
  simp only [same]

end Fifo

end AxolotyEmbedded
