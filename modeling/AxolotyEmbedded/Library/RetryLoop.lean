import Mathlib.Algebra.BigOperators.Group.Finset.Basic
import Mathlib.Algebra.BigOperators.Group.Multiset.Basic
import Mathlib.Data.Fintype.Basic

/-!
Words updated by compare-exchange retry loops. A loop loads its word, computes the next
value from what it saw, and exchanges the two; a failed exchange, spurious or not, has
loaded the word again. Each loop takes effect once, at the operation that ends it.
-/
namespace AxolotyEmbedded
universe u v w
variable {Register : Type u} {Word : Type v} {Update : Type w}

/-- The word an update is for, and what it stores over a value. At `none` the loop ends
without storing. -/
structure RetryUpdates (Register : Type u) (Word : Type v) (Update : Type w) where
  register : Update → Register
  next : Update → Word → Option Word

inductive RetryLoop (Word : Type v) (Update : Type w) where
  | idle
  | load (update : Update)
  | exchange (update : Update) (current next : Word)

namespace RetryLoop

/-- The updates the loop has not made yet. -/
def pending : RetryLoop Word Update → Multiset Update
  | .idle => 0
  | .load update | .exchange update _ _ => {update}

end RetryLoop

namespace RetryUpdates
variable (updates : RetryUpdates Register Word Update)

/-- What one update makes of a value. -/
def apply (word : Word) (update : Update) : Word := (updates.next update word).getD word

/-- The value of a word after some updates, in their order. -/
def after [DecidableEq Register] (register : Register) (word : Word) (made : List Update) : Word :=
  (made.filter fun update => updates.register update = register).foldl updates.apply word

/-- The loop has loaded its word: it ends, or it will exchange what it saw. -/
def loaded (update : Update) (current : Word) : RetryLoop Word Update × List Update :=
  match updates.next update current with
  | none => (.idle, [update])
  | some next => (.exchange update current next, [])

/-- One atomic operation of a loop: the loop and the memory after it, and the update it
made. -/
def step [DecidableEq Register] [DecidableEq Word] (memory : Register → Word) (spurious : Bool) :
    RetryLoop Word Update → Option (RetryLoop Word Update × (Register → Word) × List Update)
  | .idle => none
  | .load update =>
      let (loop, made) := updates.loaded update (memory (updates.register update))
      some (loop, memory, made)
  | .exchange update current next =>
      if memory (updates.register update) = current ∧ spurious = false then
        some (.idle, Function.update memory (updates.register update) next, [update])
      else
        let (loop, made) := updates.loaded update (memory (updates.register update))
        some (loop, memory, made)

/-- A loop exchanges what it computed from the value it saw. -/
def Sound : RetryLoop Word Update → Prop
  | .exchange update current next => updates.next update current = some next
  | .idle | .load _ => True

variable {updates}

section Laws
variable [DecidableEq Register] {register : Register} {word : Word} {made : List Update}

@[simp] theorem after_nil : updates.after register word [] = word := rfl

theorem after_append (more : List Update) :
    updates.after register word (made ++ more) =
      updates.after register (updates.after register word made) more := by
  rw [after, List.filter_append, List.foldl_append, after, after]

theorem after_cons (update : Update) :
    updates.after register word (update :: made) =
      updates.after register (updates.after register word [update]) made := by
  rw [← after_append, List.singleton_append]

theorem after_singleton_self (update : Update) :
    updates.after (updates.register update) word [update] = updates.apply word update := by
  simp [after]

theorem after_singleton_of_ne {update : Update} (ne : updates.register update ≠ register) :
    updates.after register word [update] = word := by
  simp [after, ne]

/-- Where no update stores less than it saw, no word ever falls. -/
theorem le_after {Size : Type*} [Preorder Size] {size : Word → Size}
    (grows : ∀ update current next, updates.next update current = some next →
      size current ≤ size next)
    (made : List Update) : size word ≤ size (updates.after register word made) := by
  rw [after]
  induction made.filter fun update => decide (updates.register update = register)
    generalizing word with
  | nil => exact le_refl _
  | cons update made ih =>
      rw [List.foldl_cons]
      refine le_trans ?_ ih
      rw [apply]
      cases next : updates.next update word with
      | none => exact le_refl _
      | some value => exact grows _ _ _ next

end Laws

/-- What one operation of a sound loop does. -/
structure Stepped [DecidableEq Register] (updates : RetryUpdates Register Word Update)
    (memory : Register → Word) (loop loop' : RetryLoop Word Update) (memory' : Register → Word)
    (made : List Update) : Prop where
  memory : ∀ register, memory' register = updates.after register (memory register) made
  sound : updates.Sound loop'
  pending : loop.pending = made + loop'.pending

theorem stepped_loaded [DecidableEq Register] {memory : Register → Word} {update : Update}
    {loop : RetryLoop Word Update} (pending : loop.pending = {update}) :
    updates.Stepped memory loop (updates.loaded update (memory (updates.register update))).1 memory
      (updates.loaded update (memory (updates.register update))).2 := by
  rw [loaded]
  cases next : updates.next update (memory (updates.register update)) with
  | none =>
      refine ⟨fun register => ?_, trivial, pending⟩
      by_cases same : updates.register update = register
      · subst same
        rw [after_singleton_self, apply, next]
        rfl
      · rw [after_singleton_of_ne same]
  | some value => exact ⟨fun _ => rfl, next, pending.trans (zero_add _).symm⟩

theorem stepped [DecidableEq Register] [DecidableEq Word] {memory memory' : Register → Word}
    {spurious : Bool} {loop loop' : RetryLoop Word Update} {made : List Update}
    (sound : updates.Sound loop)
    (taken : updates.step memory spurious loop = some (loop', memory', made)) :
    updates.Stepped memory loop loop' memory' made := by
  cases loop with
  | idle => cases taken
  | load update =>
      cases taken
      exact stepped_loaded rfl
  | exchange update current next =>
      simp only [step] at taken
      split at taken
      · rename_i unchanged
        obtain ⟨rfl, -⟩ := unchanged
        cases taken
        refine ⟨fun register => ?_, trivial, rfl⟩
        by_cases same : register = updates.register update
        · subst same
          rw [Function.update_self, after_singleton_self, apply, show updates.next update _ = _ from sound]
          rfl
        · rw [Function.update_of_ne same, after_singleton_of_ne (Ne.symm same)]
      · cases taken
        exact stepped_loaded rfl

/-! ## Any number of loops -/

/-- The state of one thread changes, and with it what it adds to a total. -/
theorem sum_update_add {Thread State Total : Type*} [Fintype Thread] [DecidableEq Thread]
    [AddCommMonoid Total] (value : State → Total) (threads : Thread → State) (thread : Thread)
    (state : State) :
    (∑ i, value (Function.update threads thread state i)) + value (threads thread) =
      (∑ i, value (threads i)) + value state := by
  have others : ∑ i ∈ Finset.univ.erase thread, value (Function.update threads thread state i) =
      ∑ i ∈ Finset.univ.erase thread, value (threads i) := by
    refine Finset.sum_congr rfl fun i member => ?_
    rw [Function.update_of_ne (Finset.ne_of_mem_erase member)]
  rw [← Finset.add_sum_erase Finset.univ _ (Finset.mem_univ thread),
    ← Finset.add_sum_erase Finset.univ (fun i => value (threads i)) (Finset.mem_univ thread),
    Function.update_self, others, add_right_comm, add_right_comm (value (threads thread)),
    add_comm (value state)]

end RetryUpdates
end AxolotyEmbedded
