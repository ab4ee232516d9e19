import Mathlib.Data.List.Induction

/-!
Labelled transition systems given by a partial step function. The label of a
step carries every choice that the environment or the scheduler makes, so a
run is fixed by its start and its list of labels. A run may be restricted to
steps that meet a guard; the guard reads the state before the step.
-/
namespace AxolotyEmbedded.Transition
universe u v
variable {State : Type u} {Label : Type v}

/-- A run of `next` from one state to another, every step of which meets `guard`. -/
inductive Run (next : State → Label → Option State) (guard : State → Label → Prop)
    (s : State) : List Label → State → Prop
  | nil : Run next guard s [] s
  | snoc {t u : State} {labels : List Label} {label : Label} :
      Run next guard s labels t → guard t label → next t label = some u →
        Run next guard s (labels ++ [label]) u

/-- The guard that admits every step. -/
def unguarded : State → Label → Prop := fun _ _ => True

instance (s : State) (label : Label) : Decidable (unguarded s label) :=
  inferInstanceAs (Decidable True)

variable {next : State → Label → Option State} {guard guard' : State → Label → Prop}

/-- What holds at the start and is kept by every guarded step holds at the end. -/
theorem Run.invariant {Inv : State → Prop} {s t : State} {labels : List Label}
    (run : Run next guard s labels t) (start : Inv s)
    (step : ∀ {a b : State} {label : Label},
      Inv a → guard a label → next a label = some b → Inv b) : Inv t := by
  induction run with
  | nil => exact start
  | snoc _ met taken ih => exact step ih met taken

theorem Run.mono {s t : State} {labels : List Label} (run : Run next guard s labels t)
    (weaker : ∀ {a : State} {label : Label}, guard a label → guard' a label) :
    Run next guard' s labels t := by
  induction run with
  | nil => exact .nil
  | snoc _ met taken ih => exact .snoc ih (weaker met) taken

theorem Run.trans {s t u : State} {before after : List Label}
    (first : Run next guard s before t) (second : Run next guard t after u) :
    Run next guard s (before ++ after) u := by
  induction second with
  | nil => simpa using first
  | snoc _ met taken ih =>
      rw [← List.append_assoc]
      exact .snoc ih met taken

theorem Run.single {s t : State} {label : Label} (met : guard s label)
    (taken : next s label = some t) : Run next guard s [label] t := by
  simpa using Run.snoc .nil met taken

/-- Each step of `next` is matched by some steps of `next'`, so each run is. -/
theorem Run.simulated {State' : Type*} {Label' : Type*}
    {next' : State' → Label' → Option State'} (Related : State → State' → Prop)
    {s t : State} {s' : State'} {labels : List Label} (run : Run next guard s labels t)
    (start : Related s s')
    (step : ∀ {a b : State} {a' : State'} {label : Label}, Related a a' → guard a label →
      next a label = some b →
        ∃ labels' b', Run next' unguarded a' labels' b' ∧ Related b b') :
    ∃ labels' t', Run next' unguarded s' labels' t' ∧ Related t t' := by
  induction run with
  | nil => exact ⟨[], s', .nil, start⟩
  | snoc _ met taken ih =>
      obtain ⟨before, middle, first, related⟩ := ih
      obtain ⟨after, last, second, related'⟩ := step related met taken
      exact ⟨before ++ after, last, first.trans second, related'⟩

/-! ## History variables -/

/-- The system with a history beside its state, updated after each step. -/
def recorded {History : Type*} (next : State → Label → Option State)
    (record : History → Label → State → History) (p : State × History) (label : Label) :
    Option (State × History) :=
  (next p.1 label).map fun t => (t, record p.2 label t)

theorem recorded_eq_some {History : Type*} {record : History → Label → State → History}
    {p q : State × History} {label : Label} (taken : recorded next record p label = some q) :
    next p.1 label = some q.1 ∧ q.2 = record p.2 label q.1 := by
  simp only [recorded, Option.map_eq_some_iff] at taken
  obtain ⟨t, taken, rfl⟩ := taken
  exact ⟨taken, rfl⟩

/-! ## The states of a run -/

theorem Run.snoc_iff {s u : State} {labels : List Label} {label : Label} :
    Run next guard s (labels ++ [label]) u ↔
      ∃ t, Run next guard s labels t ∧ guard t label ∧ next t label = some u := by
  constructor
  · intro run
    generalize grown : labels ++ [label] = all at run
    cases run with
    | nil => simp at grown
    | snoc before met taken =>
        obtain ⟨rfl, same⟩ := List.append_inj' grown rfl
        cases same
        exact ⟨_, before, met, taken⟩
  · exact fun ⟨_, before, met, taken⟩ => .snoc before met taken

theorem Run.nil_iff {s t : State} : Run next guard s [] t ↔ s = t := by
  constructor
  · intro run
    generalize empty : ([] : List Label) = labels at run
    cases run with
    | nil => rfl
    | snoc => simp at empty
  · rintro rfl
    exact .nil

theorem Run.cons_iff {s u : State} {label : Label} {labels : List Label} :
    Run next guard s (label :: labels) u ↔
      ∃ t, guard s label ∧ next s label = some t ∧ Run next guard t labels u := by
  constructor
  · intro run
    induction labels using List.reverseRecOn generalizing u with
    | nil =>
        rw [← List.nil_append [label]] at run
        obtain ⟨t, before, met, taken⟩ := Run.snoc_iff.mp run
        cases Run.nil_iff.mp before
        exact ⟨u, met, taken, .nil⟩
    | append_singleton labels last ih =>
        rw [← List.cons_append] at run
        obtain ⟨t, before, met, taken⟩ := Run.snoc_iff.mp run
        obtain ⟨first, met', taken', rest⟩ := ih before
        exact ⟨first, met', taken', .snoc rest met taken⟩
  · rintro ⟨t, met, taken, rest⟩
    exact (Run.single met taken).trans rest

/-- The labels fix the state a run reaches. -/
theorem Run.unique {s t : State} {labels : List Label} (run : Run next guard s labels t) :
    ∀ {u : State}, Run next guard s labels u → t = u := by
  induction run with
  | nil => exact fun other => Run.nil_iff.mp other
  | snoc _ _ taken ih =>
      intro u other
      obtain ⟨middle, before, -, taken'⟩ := Run.snoc_iff.mp other
      rw [ih before, taken'] at taken
      exact (Option.some.inj taken).symm

/-- A run passes through a state after each of its prefixes. -/
theorem Run.exists_of_prefix {s t : State} {labels before : List Label}
    (run : Run next guard s labels t) (within : before <+: labels) :
    ∃ u, Run next guard s before u := by
  induction run with
  | nil => exact ⟨s, (List.prefix_nil.mp within) ▸ .nil⟩
  | snoc first met taken ih =>
      cases List.prefix_concat_iff.mp within with
      | inl all =>
          subst all
          exact ⟨_, .snoc first met taken⟩
      | inr within => exact ih within

/-- What comes after a prefix is a run from the state it reaches. -/
theorem Run.of_append {s t u : State} {before after : List Label}
    (run : Run next guard s (before ++ after) u) (first : Run next guard s before t) :
    Run next guard t after u := by
  induction after using List.reverseRecOn generalizing u with
  | nil =>
      rw [List.append_nil] at run
      rw [run.unique first]
      exact .nil
  | append_singleton after label ih =>
      rw [← List.append_assoc] at run
      obtain ⟨middle, before', met, taken⟩ := Run.snoc_iff.mp run
      exact .snoc (ih before') met taken

/-- Where `Met` is exactly what keeps `Good`, every state of a run is good exactly when
every step of it is met. -/
theorem Run.forall_good_iff {Good : State → Prop} {Met : State → Label → Prop} {s t : State}
    {labels : List Label} (run : Run next unguarded s labels t) (base : Good s)
    (keeps : ∀ {a b label}, Good a → Met a label → next a label = some b → Good b)
    (breaks : ∀ {a b label}, Good a → ¬ Met a label → next a label = some b → ¬ Good b) :
    (∀ before u, before <+: labels → Run next unguarded s before u → Good u) ↔
      ∀ before label u, before ++ [label] <+: labels → Run next unguarded s before u →
        Met u label := by
  constructor
  · intro all before label u within first
    obtain ⟨v, whole⟩ := run.exists_of_prefix within
    obtain ⟨u', first', -, taken⟩ := Run.snoc_iff.mp whole
    cases first.unique first'
    by_contra unmet
    exact breaks (all _ _ ((List.prefix_append ..).trans within) first) unmet taken
      (all _ _ within whole)
  · intro met before
    induction before using List.reverseRecOn with
    | nil =>
        intro u _ first
        cases Run.nil.unique first
        exact base
    | append_singleton before label ih =>
        intro v within whole
        obtain ⟨u, first, -, taken⟩ := Run.snoc_iff.mp whole
        exact keeps (ih u ((List.prefix_append ..).trans within) first)
          (met _ _ _ within first) taken

/-- Where a step is good exactly if the state before it is and the guard holds, a run ends
in a good state exactly if every step of it meets the guard. -/
theorem Run.guarded_iff {Good : State → Prop} {s t : State} {labels : List Label}
    (run : Run next unguarded s labels t) (start : Good s)
    (step : ∀ {a b : State} {label : Label}, next a label = some b →
      (Good b ↔ Good a ∧ guard a label)) :
    Good t ↔ Run next guard s labels t := by
  induction run with
  | nil => exact iff_of_true start .nil
  | @snoc t u labels label before _ taken ih =>
      rw [step taken, ih]
      constructor
      · exact fun met => .snoc met.1 met.2 taken
      · intro guarded
        obtain ⟨t', first, met, taken'⟩ := Run.snoc_iff.mp guarded
        have unrestricted : Run next unguarded s labels t' := first.mono fun _ => trivial
        cases before.unique unrestricted
        exact ⟨first, met⟩

/-! ## The steps of a run -/

/-- The state before each step, with its label. -/
def trace (next : State → Label → Option State) : State → List Label → List (State × Label)
  | _, [] => []
  | s, label :: labels =>
      (s, label) :: match next s label with
        | some t => trace next t labels
        | none => []

@[simp] theorem trace_nil (s : State) : trace next s [] = [] := rfl

theorem trace_cons {s t : State} {label : Label} {labels : List Label}
    (taken : next s label = some t) :
    trace next s (label :: labels) = (s, label) :: trace next t labels := by
  rw [trace, taken]

/-! ## Total steps -/

/-- Where `Met` is exactly what keeps an invariant that `Good` follows from, and a step
that breaks it ends in a state that is not good, every state of a sequence of steps
is good exactly when every step of it is met. -/
theorem forall_prefix_iff (step : State → Label → State) (start : State)
    {Inv Good : State → Prop} {Met : State → Label → Prop} (base : Inv start)
    (keeps : ∀ {s label}, Inv s → Met s label → Inv (step s label))
    (good : ∀ {s}, Inv s → Good s)
    (breaks : ∀ {s label}, Inv s → ¬ Met s label → ¬ Good (step s label)) (labels : List Label) :
    (∀ before, before <+: labels → Good (before.foldl step start)) ↔
      ∀ before label, before ++ [label] <+: labels → Met (before.foldl step start) label := by
  have grow : (∀ before label, before ++ [label] <+: labels → Inv (before.foldl step start) →
      Met (before.foldl step start) label) →
        ∀ before, before <+: labels → Inv (before.foldl step start) := by
    intro met before
    induction before using List.reverseRecOn with
    | nil => exact fun _ => base
    | append_singleton before label ih =>
        intro within
        have inv := ih ((List.prefix_append ..).trans within)
        rw [List.foldl_append]
        exact keeps inv (met before label within inv)
  constructor
  · intro all
    have met : ∀ before label, before ++ [label] <+: labels → Inv (before.foldl step start) →
        Met (before.foldl step start) label := by
      intro before label within inv
      by_contra unmet
      have reached := all _ within
      rw [List.foldl_append] at reached
      exact breaks inv unmet reached
    intro before label within
    exact met before label within (grow met before ((List.prefix_append ..).trans within))
  · exact fun met before within => good (grow (fun before label within _ => met before label within)
      before within)

/-! ## Replay -/

/-- Replays a list of labels, and stops where a step is refused or breaks the guard. -/
def exec (next : State → Label → Option State) (guard : State → Label → Prop)
    [∀ s label, Decidable (guard s label)] : State → List Label → Option State
  | s, [] => some s
  | s, label :: labels =>
      if guard s label then (next s label).bind (exec next guard · labels) else none

theorem Run.of_exec [∀ s label, Decidable (guard s label)] {labels : List Label} :
    ∀ {s t : State}, exec next guard s labels = some t → Run next guard s labels t := by
  induction labels with
  | nil =>
      intro s t replayed
      cases replayed
      exact .nil
  | cons label labels ih =>
      intro s t replayed
      by_cases met : guard s label
      · simp only [exec, met, if_true, Option.bind_eq_some_iff] at replayed
        obtain ⟨middle, taken, rest⟩ := replayed
        exact (Run.single met taken).trans (ih rest)
      · simp [exec, met] at replayed

/-- A replay that ends in a state with a decidable property is a run to such a state. -/
theorem exists_run_of_exec [∀ s label, Decidable (guard s label)] {s : State}
    {labels : List Label} {observe : State → Bool}
    (replayed : (exec next guard s labels).map observe = some true) :
    ∃ t, Run next guard s labels t ∧ observe t = true := by
  cases ends : exec next guard s labels with
  | none => simp [ends] at replayed
  | some t => exact ⟨t, .of_exec ends, by simpa [ends] using replayed⟩

end AxolotyEmbedded.Transition
