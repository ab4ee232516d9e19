import Mathlib.Logic.Function.Basic

/-!
Owned objects. Each one is created, and then given up once, by a drop or by a move into
a call. A sequence of events settles when nothing is created over a live object and
nothing is given up that is not held.
-/
namespace AxolotyEmbedded
universe u
variable {Object : Type u} [DecidableEq Object]

inductive OwnershipEvent (Object : Type u) where
  | created (object : Object)
  | givenUp (object : Object)
  deriving DecidableEq

/-- The objects held after some events, if the events settle. -/
def settle (held : Object → Bool) : List (OwnershipEvent Object) → Option (Object → Bool)
  | [] => some held
  | .created object :: events =>
      if held object then none else settle (Function.update held object true) events
  | .givenUp object :: events =>
      if held object then settle (Function.update held object false) events else none

@[simp] theorem settle_nil (held : Object → Bool) : settle held [] = some held := rfl

theorem settle_append (before after : List (OwnershipEvent Object)) :
    ∀ held : Object → Bool,
      settle held (before ++ after) = (settle held before).bind (settle · after) := by
  induction before with
  | nil => exact fun _ => rfl
  | cons event before ih =>
      intro held
      cases event with
      | created object =>
          simp only [List.cons_append, settle]
          split
          · rfl
          · exact ih _
      | givenUp object =>
          simp only [List.cons_append, settle]
          split
          · exact ih _
          · rfl

theorem settle_append_of_eq {held middle : Object → Bool}
    {before after : List (OwnershipEvent Object)} (first : settle held before = some middle) :
    settle held (before ++ after) = settle middle after := by
  rw [settle_append, first, Option.bind_some]

theorem settle_created {held : Object → Bool} {object : Object} (absent : held object = false)
    (events : List (OwnershipEvent Object)) :
    settle held (.created object :: events) =
      settle (Function.update held object true) events := by
  simp [settle, absent]

theorem settle_givenUp {held : Object → Bool} {object : Object} (present : held object = true)
    (events : List (OwnershipEvent Object)) :
    settle held (.givenUp object :: events) =
      settle (Function.update held object false) events := by
  simp [settle, present]

/-- An object that is given up right after its creation leaves no trace. -/
theorem settle_created_givenUp {held : Object → Bool} {object : Object}
    (absent : held object = false) (events : List (OwnershipEvent Object)) :
    settle held (.created object :: .givenUp object :: events) = settle held events := by
  rw [settle_created absent, settle_givenUp (Function.update_self ..), Function.update_idem,
    Function.update_eq_self_iff.mpr absent.symm]

/-- What was held or created is held afterwards or was given up, each as often. -/
theorem count_of_settle (object : Object) (events : List (OwnershipEvent Object)) :
    ∀ {held held' : Object → Bool}, settle held events = some held' →
      (held object).toNat + events.count (.created object) =
        (held' object).toNat + events.count (.givenUp object) := by
  induction events with
  | nil =>
      intro held held' settled
      cases settled
      rfl
  | cons event events ih =>
      intro held held' settled
      cases event with
      | created other =>
          cases absent : held other with
          | true => simp [settle, absent] at settled
          | false =>
              rw [settle_created absent] at settled
              have rest := ih settled
              by_cases same : other = object
              · subst same
                simp [absent] at rest ⊢
                omega
              · have differs : object ≠ other := fun eq => same eq.symm
                simpa [List.count_cons, same, Function.update_of_ne differs] using rest
      | givenUp other =>
          cases present : held other with
          | false => simp [settle, present] at settled
          | true =>
              rw [settle_givenUp present] at settled
              have rest := ih settled
              by_cases same : other = object
              · subst same
                simp [present] at rest ⊢
                omega
              · have differs : object ≠ other := fun eq => same eq.symm
                simpa [List.count_cons, same, Function.update_of_ne differs] using rest

end AxolotyEmbedded
