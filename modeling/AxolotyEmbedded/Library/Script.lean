import Mathlib.Logic.Function.Basic

/-!
Scripts: programs that call an environment which may answer in any way. A script is the
tree of its calls. An environment fixes the answer to the n-th call of each kind, so that
what holds under every environment holds whatever the calls return.
-/
namespace AxolotyEmbedded
variable {Call Call' Kind : Type} {α β : Type}

inductive Script {Call : Type} (Answer : Call → Type) (α : Type) where
  | done (value : α)
  | call (made : Call) (next : Answer made → Script Answer α)

/-- The answer to the n-th call of its kind, counted from zero. -/
abbrev Environment (Answer : Call → Type) := Nat → (made : Call) → Answer made

/-- A call that was made, with its answer. -/
abbrev Exchange (Answer : Call → Type) := (made : Call) × Answer made

/-- What a run of a script shows: its calls in order, how many calls of each kind have been
made since the start, and the value it ends with. -/
structure ScriptRun (Answer : Call → Type) (Kind : Type) (α : Type) where
  exchanges : List (Exchange Answer)
  counts : Kind → Nat
  value : α

namespace Script
variable {Answer : Call → Type} {Answer' : Call' → Type}

def bind : Script Answer α → (α → Script Answer β) → Script Answer β
  | .done value, rest => rest value
  | .call made next, rest => .call made fun answer => (next answer).bind rest

instance : Monad (Script Answer) where
  pure := .done
  bind := bind

/-- The script of one call. -/
def ask (made : Call) : Script Answer (Answer made) := .call made .done

/-- A script over fewer calls as one over all of them. -/
def lift (embed : Call' → Call) (reply : ∀ made, Answer (embed made) → Answer' made) :
    Script Answer' α → Script Answer α
  | .done value => .done value
  | .call made next => .call (embed made) fun answer => (next (reply made answer)).lift embed reply

variable [DecidableEq Kind] (kind : Call → Kind) (environment : Environment Answer)

def run : Script Answer α → (Kind → Nat) → ScriptRun Answer Kind α
  | .done value, counts => ⟨[], counts, value⟩
  | .call made next, counts =>
      let answer := environment (counts (kind made)) made
      let rest := (next answer).run
        (Function.update counts (kind made) (counts (kind made) + 1))
      { rest with exchanges := ⟨made, answer⟩ :: rest.exchanges }

@[simp] theorem run_pure (value : α) (counts : Kind → Nat) :
    (pure value : Script Answer α).run kind environment counts = ⟨[], counts, value⟩ := rfl

@[simp] theorem run_ask (made : Call) (counts : Kind → Nat) :
    (ask made : Script Answer _).run kind environment counts =
      ⟨[⟨made, environment (counts (kind made)) made⟩],
        Function.update counts (kind made) (counts (kind made) + 1),
        environment (counts (kind made)) made⟩ := rfl

/-- A sequence runs its second part after its first, on what the first left. -/
theorem run_bind (first : Script Answer α) (rest : α → Script Answer β) :
    ∀ counts : Kind → Nat,
      (first >>= rest).run kind environment counts =
        let before := first.run kind environment counts
        let after := (rest before.value).run kind environment before.counts
        ⟨before.exchanges ++ after.exchanges, after.counts, after.value⟩ := by
  induction first with
  | done value => exact fun _ => rfl
  | call made next ih =>
      intro counts
      have tail := ih (environment (counts (kind made)) made)
        (Function.update counts (kind made) (counts (kind made) + 1))
      change (Script.call made fun answer => (next answer).bind rest).run kind environment
        counts = _
      simp only [run]
      change ((next (environment (counts (kind made)) made)).bind rest).run kind environment _ =
        _ at tail
      rw [tail]
      rfl

/-- What an observer shows that sees none of the calls of a lifted script. -/
theorem filterMap_run_lift {Seen : Type} {embed : Call' → Call}
    {reply : ∀ made, Answer (embed made) → Answer' made} {observe : Exchange Answer → Option Seen}
    (blind : ∀ made answer, observe ⟨embed made, answer⟩ = none) (script : Script Answer' α) :
    ∀ counts : Kind → Nat,
      ((script.lift embed reply).run kind environment counts).exchanges.filterMap observe = [] := by
  induction script with
  | done value => exact fun _ => rfl
  | call made next ih =>
      intro counts
      simp only [lift, run]
      rw [List.filterMap_cons_none (blind made _)]
      exact ih _ _

/-- A lifted script makes no call of any other kind. -/
theorem counts_run_lift {embed : Call' → Call}
    {reply : ∀ made, Answer (embed made) → Answer' made} {other : Kind}
    (differs : ∀ made, kind (embed made) ≠ other) (script : Script Answer' α) :
    ∀ counts : Kind → Nat,
      ((script.lift embed reply).run kind environment counts).counts other = counts other := by
  induction script with
  | done value => exact fun _ => rfl
  | call made next ih =>
      intro counts
      simp only [lift, run]
      rw [ih _ _, Function.update_of_ne (differs made).symm]

end Script

end AxolotyEmbedded
