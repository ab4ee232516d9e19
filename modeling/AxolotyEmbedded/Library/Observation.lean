import AxolotyEmbedded.Library.Interference

/-!
What a script shows under every behaviour of its environment, and what it may come to under
some behaviour. An observer sees part of the exchanges, and keeps what it has seen.
-/
namespace AxolotyEmbedded.Script
variable {Call Call' Seen Kind : Type} {Answer : Call → Type} {Answer' : Call' → Type} {α β : Type}

/-! ## Every behaviour -/

/-- One exchange of a script, with what an observer has seen after it. -/
def recording (observe : Exchange Answer → Option Seen) (made : Call)
    (reply : (made : Call) → Answer made) (seen : List Seen) : Option (Answer made × List Seen) :=
  some (reply made, seen ++ (observe ⟨made, reply made⟩).toList)

/-- Whatever its calls return, the value of the script and what was seen by its end meet the
postcondition. -/
structure Shows (observe : Exchange Answer → Option Seen) (script : Script Answer α)
    (post : α → List Seen → Prop) (seen : List Seen) : Prop where
  ensures : Ensures (recording observe) Eq (fun _ _ => True) script post seen

section Shows
variable {observe : Exchange Answer → Option Seen} {seen : List Seen}

theorem shows_pure {post : α → List Seen → Prop} {value : α} (met : post value seen) :
    Shows observe (pure value) post seen :=
  ⟨ensures_pure met⟩

theorem shows_call {post : α → List Seen → Prop} {made : Call} {next : Answer made → Script Answer α}
    (rest : ∀ answer, Shows observe (next answer) post (seen ++ (observe ⟨made, answer⟩).toList)) :
    Shows observe (.call made next) post seen := by
  refine ⟨?_⟩
  rintro _ rfl reply answer after taken
  cases taken
  exact ⟨trivial, (rest _).ensures⟩

theorem shows_ask {made : Call} {post : Answer made → List Seen → Prop}
    (met : ∀ answer, post answer (seen ++ (observe ⟨made, answer⟩).toList)) :
    Shows observe (ask made) post seen :=
  shows_call fun answer => shows_pure (met answer)

/-- The rest of a script after one of its calls. -/
theorem Shows.next {post : α → List Seen → Prop} {made : Call} {next : Answer made → Script Answer α}
    (shows' : Shows observe (.call made next) post seen) (reply : (made : Call) → Answer made) :
    Shows observe (next (reply made)) post (seen ++ (observe ⟨made, reply made⟩).toList) :=
  ⟨(shows'.ensures seen rfl reply _ _ rfl).2⟩

theorem Shows.mono {post post' : α → List Seen → Prop} {script : Script Answer α}
    (shows' : Shows observe script post seen) (weaker : ∀ value seen, post value seen → post' value seen) :
    Shows observe script post' seen :=
  ⟨Ensures.mono weaker shows'.ensures⟩

theorem Shows.bind {middle : α → List Seen → Prop} {post : β → List Seen → Prop}
    {first : Script Answer α} {rest : α → Script Answer β} (shows' : Shows observe first middle seen)
    (continues : ∀ value seen, middle value seen → Shows observe (rest value) post seen) :
    Shows observe (first >>= rest) post seen :=
  ⟨Ensures.bind shows'.ensures fun value seen met => (continues value seen met).ensures⟩

/-- Whatever a script returns, nothing of it was seen. -/
abbrev Silent (observe : Exchange Answer → Option Seen) (script : Script Answer α)
    (seen : List Seen) : Prop :=
  Shows observe script (fun _ after => after = seen) seen

theorem Silent.bind {post : β → List Seen → Prop} {first : Script Answer α}
    {rest : α → Script Answer β} (silent : Silent observe first seen)
    (continues : ∀ value, Shows observe (rest value) post seen) :
    Shows observe (first >>= rest) post seen := by
  refine Shows.bind silent ?_
  rintro value _ rfl
  exact continues value

theorem silent_pure (value : α) : Silent observe (pure value) seen := shows_pure rfl

theorem silent_ask {made : Call} (blind : ∀ answer, observe ⟨made, answer⟩ = none) :
    Silent observe (ask made) seen :=
  shows_ask fun answer => by rw [blind, Option.toList_none, List.append_nil]

/-- A lifted script shows what the script itself shows. -/
theorem Shows.lift {observe' : Exchange Answer' → Option Seen} {embed : Call' → Call}
    {reply : ∀ made, Answer (embed made) → Answer' made}
    (agrees : ∀ made answer, observe ⟨embed made, answer⟩ = observe' ⟨made, reply made answer⟩)
    {post : α → List Seen → Prop} {script : Script Answer' α} :
    ∀ {seen}, Shows observe' script post seen → Shows observe (script.lift embed reply) post seen := by
  induction script with
  | done value => exact fun met => ⟨met.ensures⟩
  | call made next ih =>
      intro seen shows'
      refine ⟨?_⟩
      rintro _ rfl answers answer after taken
      cases taken
      refine ⟨trivial, (ih _ ?_).ensures⟩
      rw [agrees]
      exact shows'.next fun made => reply made (answers (embed made))

/-- What a script shows holds of each of its runs. -/
theorem Shows.run [DecidableEq Kind] (kind : Call → Kind) (environment : Environment Answer)
    {post : α → List Seen → Prop} {script : Script Answer α} :
    ∀ {seen}, Shows observe script post seen → ∀ counts : Kind → Nat,
      let ran := script.run kind environment counts
      post ran.value (seen ++ ran.exchanges.filterMap observe) := by
  induction script with
  | done value =>
      intro seen met counts
      have met : post value seen := met.ensures
      simpa [Script.run] using met
  | call made next ih =>
      intro seen shows' counts
      have rest := ih _ (shows'.next (environment (counts (kind made))))
        (Function.update counts (kind made) (counts (kind made) + 1))
      simp only [List.append_assoc] at rest
      simp only [Script.run, List.filterMap_cons]
      cases saw : observe ⟨made, environment (counts (kind made)) made⟩ with
      | none => simpa [saw] using rest
      | some value => simpa [saw] using rest

end Shows

/-! ## Some behaviour -/

/-- Under some answers the value of the script meets the postcondition. -/
inductive May (post : α → Prop) : Script Answer α → Prop where
  | done {value : α} (met : post value) : May post (.done value)
  | call {made : Call} {next : Answer made → Script Answer α} (answer : Answer made)
      (rest : May post (next answer)) : May post (.call made next)

theorem may_pure {post : α → Prop} {value : α} (met : post value) :
    May post (pure value : Script Answer α) :=
  .done met

theorem May.bind {middle : α → Prop} {post : β → Prop} {rest : α → Script Answer β}
    {first : Script Answer α} (may : May middle first)
    (continues : ∀ value, middle value → May post (rest value)) : May post (first >>= rest) := by
  induction may with
  | done met => exact continues _ met
  | call answer _ ih => exact .call answer ih

/-- An answer to the first call, and the rest after it. -/
theorem May.ask_bind {made : Call} {post : β → Prop} {rest : Answer made → Script Answer β}
    (answer : Answer made) (may : May post (rest answer)) : May post (ask made >>= rest) :=
  .call answer may

/-- Every script comes to some value. -/
theorem may_any (reply : (made : Call) → Answer made) (script : Script Answer α) :
    May (fun _ => True) script := by
  induction script with
  | done value => exact .done trivial
  | call made next ih => exact .call (reply made) (ih _)

theorem May.lift {embed : Call' → Call} {reply : ∀ made, Answer (embed made) → Answer' made}
    (onto : ∀ made, Function.Surjective (reply made)) {post : α → Prop} {script : Script Answer' α}
    (may : May post script) : May post (script.lift embed reply) := by
  induction may with
  | done met => exact .done met
  | call answer _ ih =>
      obtain ⟨given, rfl⟩ := onto _ answer
      exact .call given ih

variable [DecidableEq Kind] (kind : Call → Kind)

/-- A run depends on no answer to a call made before it. -/
theorem run_congr {environment environment' : Environment Answer} {script : Script Answer α} :
    ∀ {counts : Kind → Nat},
      (∀ made n, counts (kind made) ≤ n → environment n made = environment' n made) →
        script.run kind environment counts = script.run kind environment' counts := by
  induction script with
  | done value => exact fun _ => rfl
  | call made next ih =>
      intro counts same
      simp only [Script.run, same made _ (Nat.le_refl _)]
      rw [ih]
      intro other n later
      refine same other n (Nat.le_trans ?_ later)
      by_cases equal : kind other = kind made
      · rw [equal, Function.update_self]
        exact Nat.le_succ _
      · exact Nat.le_of_eq (Function.update_of_ne equal ..).symm

/-- What a script may come to it comes to in the run of some environment. -/
theorem May.run (reply : (made : Call) → Answer made) {post : α → Prop} {script : Script Answer α}
    (may : May post script) : ∀ counts : Kind → Nat, ∃ environment : Environment Answer,
      post (script.run kind environment counts).value := by
  classical
  induction may with
  | done met => exact fun _ => ⟨fun _ => reply, met⟩
  | @call made next answer _ ih =>
      intro counts
      obtain ⟨later, met⟩ := ih
        (Function.update counts (kind made) (counts (kind made) + 1))
      -- The environment gives this answer first, and afterwards those of the later run.
      let environment : Environment Answer := fun n =>
        if n = counts (kind made) then Function.update (later n) made answer else later n
      refine ⟨environment, ?_⟩
      have first : environment (counts (kind made)) made = answer := by
        simp [environment]
      have rest : (next answer).run kind environment
          (Function.update counts (kind made) (counts (kind made) + 1)) =
            (next answer).run kind later
              (Function.update counts (kind made) (counts (kind made) + 1)) := by
        refine run_congr kind fun other n after => ?_
        by_cases equal : kind other = kind made
        · rw [equal, Function.update_self] at after
          simp only [environment, if_neg (show n ≠ counts (kind made) by omega)]
        · have differs : other ≠ made := fun same => equal (congrArg kind same)
          simp only [environment]
          split
          · exact Function.update_of_ne differs ..
          · rfl
      simp only [Script.run, first, rest]
      exact met

end AxolotyEmbedded.Script
