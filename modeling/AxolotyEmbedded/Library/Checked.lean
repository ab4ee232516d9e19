import Mathlib.Logic.Basic

/-!
Computations that may refuse their input, as values of `Except`: a check that refuses, and
a pass over a list that collects what its members yield or stops at the first refusal.
-/
namespace AxolotyEmbedded.Checked

variable {ε α β : Type}

def refuseIf (refused : Prop) [Decidable refused] (error : ε) : Except ε Unit :=
  if refused then .error error else .ok ()

@[simp] theorem refuseIf_eq_ok {refused : Prop} [Decidable refused] {error : ε} {u : Unit} :
    refuseIf refused error = .ok u ↔ ¬refused := by
  by_cases holds : refused <;> simp [refuseIf, holds]

theorem toOption_eq_some {result : Except ε α} {a : α} : result.toOption = some a ↔ result = .ok a := by
  cases result with
  | error error => simp [Except.toOption]
  | ok b => simp [Except.toOption]

theorem exists_of_toOption_isSome {result : Except ε α} (done : result.toOption.isSome = true) :
    ∃ a, result = .ok a := by
  obtain ⟨a, same⟩ := Option.isSome_iff_exists.mp done
  exact ⟨a, toOption_eq_some.mp same⟩

theorem bind_eq_ok {first : Except ε α} {next : α → Except ε β} {b : β} :
    first >>= next = .ok b ↔ ∃ a, first = .ok a ∧ next a = .ok b := by
  cases first with
  | error error => simp [bind, Except.bind]
  | ok a => simp [bind, Except.bind]

theorem bind_eq_error {first : Except ε α} {next : α → Except ε β} {error : ε} :
    first >>= next = .error error ↔
      first = .error error ∨ ∃ a, first = .ok a ∧ next a = .error error := by
  cases first with
  | error error => simp [bind, Except.bind]
  | ok a => simp [bind, Except.bind]

def collect (yield : α → Except ε (List β)) : List α → Except ε (List β)
  | [] => .ok []
  | a :: rest => do
      let here ← yield a
      return here ++ (← collect yield rest)

variable {yield : α → Except ε (List β)} {b : β}

theorem collect_cons {a : α} {rest : List α} {all : List β} :
    collect yield (a :: rest) = .ok all ↔
      ∃ here, yield a = .ok here ∧ ∃ later, collect yield rest = .ok later ∧
        here ++ later = all := by
  simp [collect, bind_eq_ok, pure, Except.pure]

/-- What was collected was yielded by some member. -/
theorem exists_of_mem_collect {list : List α} {all : List β}
    (collected : collect yield list = .ok all) (member : b ∈ all) :
    ∃ a ∈ list, ∃ here, yield a = .ok here ∧ b ∈ here := by
  induction list generalizing all with
  | nil =>
      obtain rfl := Except.ok.inj collected
      cases member
  | cons a rest ih =>
      obtain ⟨here, yielded, later, more, rfl⟩ := collect_cons.mp collected
      obtain inside | inside := List.mem_append.mp member
      · exact ⟨a, List.mem_cons_self, here, yielded, inside⟩
      · obtain ⟨other, held, yields⟩ := ih more inside
        exact ⟨other, List.mem_cons_of_mem _ held, yields⟩

theorem collect_eq_map {f : α → β} {list : List α} (same : ∀ a ∈ list, yield a = .ok [f a]) :
    collect yield list = .ok (list.map f) := by
  induction list with
  | nil => rfl
  | cons a rest ih =>
      have later := ih fun b held => same b (List.mem_cons_of_mem _ held)
      exact collect_cons.mpr ⟨[f a], same a List.mem_cons_self, _, later, rfl⟩

/-- The same check for every member, up to the first refusal. -/
def checkAll (check : α → Except ε Unit) : List α → Except ε Unit
  | [] => .ok ()
  | a :: rest => do
      check a
      checkAll check rest

theorem checkAll_eq_ok {check : α → Except ε Unit} {list : List α} {u : Unit} :
    checkAll check list = .ok u ↔ ∀ a ∈ list, check a = .ok () := by
  induction list with
  | nil => simp [checkAll]
  | cons a rest ih =>
      simp only [checkAll, bind_eq_ok, ih, List.forall_mem_cons, exists_and_right]
      exact and_congr_left fun _ => ⟨fun ⟨_, passed⟩ => passed, fun passed => ⟨(), passed⟩⟩

/-- The error is that of the first member that does not pass. -/
theorem checkAll_eq_error {check : α → Except ε Unit} {list : List α} {error : ε} :
    checkAll check list = .error error ↔ ∃ before a after, list = before ++ a :: after ∧
      (∀ b ∈ before, check b = .ok ()) ∧ check a = .error error := by
  induction list with
  | nil => simp [checkAll]
  | cons first rest ih =>
      rw [checkAll, bind_eq_error, ih]
      constructor
      · rintro (failed | ⟨_, passed, before, a, after, rfl, earlier, failed⟩)
        · exact ⟨[], first, rest, rfl, nofun, failed⟩
        · exact ⟨first :: before, a, after, rfl, List.forall_mem_cons.mpr ⟨passed, earlier⟩, failed⟩
      · rintro ⟨before, a, after, split, earlier, failed⟩
        cases before with
        | nil =>
            obtain ⟨rfl, -⟩ := List.cons.inj split
            exact .inl failed
        | cons b before =>
            obtain ⟨rfl, rfl⟩ := List.cons.inj split
            obtain ⟨passed, later⟩ := List.forall_mem_cons.mp earlier
            exact .inr ⟨(), passed, before, a, after, rfl, later, failed⟩

end AxolotyEmbedded.Checked
