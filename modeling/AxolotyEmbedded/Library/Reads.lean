import AxolotyEmbedded.Library.Checked

/-!
Readers of untrusted data in a language that raises on a read outside a value. A reader
written with such reads equals one without them where its own checks bound every read.
-/
namespace AxolotyEmbedded

/-- What a reader raises: an error of its own, or that of a read outside a value. -/
inductive ReadError (ε : Type) where
  | refused (error : ε)
  | structError
  | indexError

namespace Reads

open Checked

variable {ε α β : Type}

/-- The errors of a reader that reads nothing outside a value. -/
def lift (reader : Except ε α) : Except (ReadError ε) α := reader.mapError .refused

/-- `list[i]`. -/
def item (list : List α) (i : Nat) : Except (ReadError ε) α :=
  match list[i]? with
  | none => .error .indexError
  | some a => .ok a

@[simp] theorem lift_ok (a : α) : lift (.ok a : Except ε α) = .ok a := rfl

@[simp] theorem lift_error (error : ε) :
    lift (.error error : Except ε α) = .error (.refused error) := rfl

theorem ok_bind (a : α) (next : α → Except ε β) : (Except.ok a >>= next) = next a := rfl

theorem item_getD {list : List α} {i : Nat} (inside : i < list.length) (fallback : α) :
    (item list i : Except (ReadError ε) α) = .ok (list.getD i fallback) := by
  rw [item, List.getElem?_eq_getElem inside, List.getD_eq_getElem?_getD,
    List.getElem?_eq_getElem inside]
  rfl

theorem item_of_getElem? {list : List α} {i : Nat} {a : α} (found : list[i]? = some a) :
    (item list i : Except (ReadError ε) α) = .ok a := by
  rw [item, found]

/-- Two readers in sequence, the second where the first succeeds. -/
theorem bind_eq_lift {first : Except (ReadError ε) α} {plain : Except ε α}
    {next : α → Except (ReadError ε) β} {plainNext : α → Except ε β}
    (same : first = lift plain) (later : ∀ a, plain = .ok a → next a = lift (plainNext a)) :
    first >>= next = lift (plain >>= plainNext) := by
  rw [same]
  cases plain with
  | error error => rfl
  | ok a => exact later a rfl

theorem refuseIf_eq_lift {refused : Prop} [Decidable refused] {error : ε} :
    refuseIf refused (ReadError.refused error) = lift (refuseIf refused error) := by
  unfold refuseIf
  split <;> rfl

theorem collect_eq_lift {yield : α → Except (ReadError ε) (List β)}
    {plain : α → Except ε (List β)} {list : List α}
    (same : ∀ a ∈ list, yield a = lift (plain a)) :
    collect yield list = lift (collect plain list) := by
  induction list with
  | nil => rfl
  | cons a rest ih =>
      have later := ih fun b held => same b (List.mem_cons_of_mem _ held)
      refine bind_eq_lift (same a List.mem_cons_self) fun here _ => ?_
      exact bind_eq_lift later fun _ _ => rfl

/-! ## The errors of a reader -/

/-- The reads all lie inside, and the errors of the reader itself are of one kind. -/
structure Settled (kind : ε → Prop) (reader : Except (ReadError ε) α) (plain : Except ε α) :
    Prop where
  same : reader = lift plain
  errors : ∀ {error}, plain = .error error → kind error

variable {kind : ε → Prop}

theorem Settled.ok (a : α) : Settled kind (.ok a) (.ok a) := ⟨rfl, fun absurd => nomatch absurd⟩

theorem Settled.refuseIf {refused : Prop} [Decidable refused] {error : ε} (good : kind error) :
    Settled kind (Checked.refuseIf refused (.refused error)) (Checked.refuseIf refused error) := by
  refine ⟨refuseIf_eq_lift, fun raised => ?_⟩
  unfold Checked.refuseIf at raised
  split at raised
  · exact Except.error.inj raised ▸ good
  · cases raised

theorem Settled.bind {first : Except (ReadError ε) α} {plain : Except ε α}
    {next : α → Except (ReadError ε) β} {plainNext : α → Except ε β}
    (settled : Settled kind first plain)
    (later : ∀ a, plain = .ok a → Settled kind (next a) (plainNext a)) :
    Settled kind (first >>= next) (plain >>= plainNext) := by
  refine ⟨bind_eq_lift settled.same fun a ends => (later a ends).same, fun raised => ?_⟩
  cases plain with
  | error error =>
      obtain rfl := Except.error.inj raised
      exact settled.errors rfl
  | ok a => exact (later a rfl).errors raised

theorem Settled.collect {yield : α → Except (ReadError ε) (List β)}
    {plain : α → Except ε (List β)} {list : List α}
    (settled : ∀ a ∈ list, Settled kind (yield a) (plain a)) :
    Settled kind (Checked.collect yield list) (Checked.collect plain list) := by
  induction list with
  | nil => exact .ok []
  | cons a rest ih =>
      refine (settled a List.mem_cons_self).bind fun here _ => ?_
      exact (ih fun b held => settled b (List.mem_cons_of_mem _ held)).bind fun later _ => .ok _

/-- Such a reader ends with a value or with an error of its kind. -/
theorem Settled.ends {reader : Except (ReadError ε) α} {plain : Except ε α}
    (settled : Settled kind reader plain) :
    (∃ a, reader = .ok a) ∨ ∃ error, kind error ∧ reader = .error (.refused error) := by
  have same := settled.same
  cases plain with
  | error error => exact .inr ⟨error, settled.errors rfl, same⟩
  | ok a => exact .inl ⟨a, same⟩

end Reads
end AxolotyEmbedded
