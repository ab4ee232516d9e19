import AxolotyEmbedded.Library.Script

/-!
Scripts under interference. The calls of a script are atomic steps on a shared state, and
other threads take steps of their own between them. A rely relates the states around what
the others do, and a guarantee those around one step of the script.
-/
namespace AxolotyEmbedded.Script
variable {Call State Input : Type} {Answer : Call → Type} {α β : Type}
  {perform : (made : Call) → Input → State → Option (Answer made × State)}
  {Rely Guarantee : State → State → Prop}

/-- However the others interfere, every step of the script meets the guarantee, and its
value meets the postcondition in the state in which it is reached. -/
def Ensures (perform : (made : Call) → Input → State → Option (Answer made × State))
    (Rely Guarantee : State → State → Prop) :
    Script Answer α → (α → State → Prop) → State → Prop
  | .done value, post, s => post value s
  | .call made next, post, s =>
      ∀ s', Rely s s' → ∀ input answer s'', perform made input s' = some (answer, s'') →
        Guarantee s' s'' ∧ Ensures perform Rely Guarantee (next answer) post s''

/-- An assertion that the others keep. -/
def Stable (Rely : State → State → Prop) (assertion : State → Prop) : Prop :=
  ∀ s s', Rely s s' → assertion s → assertion s'

theorem Stable.and {first second : State → Prop} (stable : Stable Rely first)
    (stable' : Stable Rely second) : Stable Rely fun s => first s ∧ second s :=
  fun _ _ rely both => ⟨stable _ _ rely both.1, stable' _ _ rely both.2⟩

theorem ensures_pure {post : α → State → Prop} {value : α} {s : State} (met : post value s) :
    Ensures perform Rely Guarantee (pure value) post s :=
  met

/-- What a call must do, once its assertion is known to hold when it is made. -/
theorem ensures_ask {assertion : State → Prop} {made : Call} {post : Answer made → State → Prop}
    (stable : Stable Rely assertion)
    (step : ∀ {s input answer s'}, assertion s → perform made input s = some (answer, s') →
      Guarantee s s' ∧ post answer s') {s : State} (start : assertion s) :
    Ensures perform Rely Guarantee (ask made) post s := by
  intro s' rely input answer s'' taken
  exact step (stable s s' rely start) taken

theorem Ensures.mono {post post' : α → State → Prop} {script : Script Answer α}
    (weaker : ∀ value s, post value s → post' value s) :
    ∀ {s : State}, Ensures perform Rely Guarantee script post s →
      Ensures perform Rely Guarantee script post' s := by
  induction script with
  | done value => exact fun met => weaker value _ met
  | call made next ih =>
      intro s met s' rely input answer s'' taken
      obtain ⟨guarantee, rest⟩ := met s' rely input answer s'' taken
      exact ⟨guarantee, ih answer rest⟩

/-- A sequence ensures what its second part ensures from where the first one ends. -/
theorem Ensures.bind {middle : α → State → Prop} {post : β → State → Prop}
    {rest : α → Script Answer β} {first : Script Answer α} :
    ∀ {s : State}, Ensures perform Rely Guarantee first middle s →
      (∀ value s, middle value s → Ensures perform Rely Guarantee (rest value) post s) →
        Ensures perform Rely Guarantee (first >>= rest) post s := by
  induction first with
  | done value => exact fun met continues => continues value _ met
  | call made next ih =>
      intro s met continues s' rely input answer s'' taken
      obtain ⟨guarantee, after⟩ := met s' rely input answer s'' taken
      exact ⟨guarantee, ih answer after continues⟩

/-- What the others do before the script's next step changes nothing it ensures. -/
theorem Ensures.of_rely {post : α → State → Prop} {script : Script Answer α}
    (trans : ∀ a b c, Rely a b → Rely b c → Rely a c) (stable : ∀ value, Stable Rely (post value))
    {s s' : State} (rely : Rely s s') (met : Ensures perform Rely Guarantee script post s) :
    Ensures perform Rely Guarantee script post s' := by
  cases script with
  | done value => exact stable value _ _ rely met
  | call made next => exact fun s'' rely' => met s'' (trans s s' s'' rely rely')

/-- A step of the script, where the others have done nothing since. -/
theorem Ensures.step {post : α → State → Prop} {made : Call} {next : Answer made → Script Answer α}
    (refl : ∀ s, Rely s s) {s s' : State} {input : Input} {answer : Answer made}
    (met : Ensures perform Rely Guarantee (.call made next) post s)
    (taken : perform made input s = some (answer, s')) :
    Guarantee s s' ∧ Ensures perform Rely Guarantee (next answer) post s' :=
  met s (refl s) input answer s' taken

end AxolotyEmbedded.Script
