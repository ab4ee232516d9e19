import AxolotyEmbedded.Library.Script

/-!
Monitors of scripts. A monitor reads the exchanges of a script one by one, keeps a state of its
own and says of each exchange whether it may come next. A script that it watches meets it in
every run, after every part of the run. A loop that has no end of its own is cut after a number
of rounds.
-/
namespace AxolotyEmbedded
variable {Call Kind σ ι α β : Type} {Answer : Call → Type}

structure Monitor (Answer : Call → Type) (σ : Type) where
  step : σ → Exchange Answer → σ
  Allows : σ → Exchange Answer → Prop

namespace Monitor
variable {monitor : Monitor Answer σ} {state : σ}

/-- The state after some exchanges. -/
def after (monitor : Monitor Answer σ) (state : σ) (exchanges : List (Exchange Answer)) : σ :=
  exchanges.foldl monitor.step state

/-- Every exchange is allowed when it comes. -/
def Accepts (monitor : Monitor Answer σ) (state : σ) : List (Exchange Answer) → Prop
  | [] => True
  | exchange :: rest =>
      monitor.Allows state exchange ∧ Accepts monitor (monitor.step state exchange) rest

/-- An exchange of an accepted run was allowed after those before it. -/
theorem Accepts.allows {before rest : List (Exchange Answer)} {exchange : Exchange Answer}
    (accepts : monitor.Accepts state (before ++ exchange :: rest)) :
    monitor.Allows (monitor.after state before) exchange := by
  induction before generalizing state with
  | nil => exact accepts.1
  | cons first before ih => exact ih accepts.2

/-- What holds at the start and is kept by every allowed exchange holds at the end. -/
theorem Accepts.invariant {Inv : σ → Prop} {exchanges : List (Exchange Answer)}
    (accepts : monitor.Accepts state exchanges) (start : Inv state)
    (kept : ∀ {state exchange}, Inv state → monitor.Allows state exchange →
      Inv (monitor.step state exchange)) : Inv (monitor.after state exchanges) := by
  induction exchanges generalizing state with
  | nil => exact start
  | cons exchange rest ih => exact ih accepts.2 (kept start accepts.1)

/-! ## Watched scripts -/

/-- Whatever its calls return, the exchanges of the script are allowed, and its value and the
state at its end meet the postcondition. -/
def Watches (monitor : Monitor Answer σ) : Script Answer α → (α → σ → Prop) → σ → Prop
  | .done value, post, state => post value state
  | .call made next, post, state =>
      ∀ answer, monitor.Allows state ⟨made, answer⟩ ∧
        Watches monitor (next answer) post (monitor.step state ⟨made, answer⟩)

variable {script : Script Answer α} {post post' : α → σ → Prop}

/-- A call and what comes after it. -/
theorem watches_call {made : Call} {rest : Answer made → Script Answer α}
    (met : ∀ answer, monitor.Allows state ⟨made, answer⟩ ∧
      monitor.Watches (rest answer) post (monitor.step state ⟨made, answer⟩)) :
    monitor.Watches (Script.ask made >>= rest) post state :=
  met

theorem Watches.mono (watched : monitor.Watches script post state)
    (weaker : ∀ value state, post value state → post' value state) :
    monitor.Watches script post' state := by
  induction script generalizing state with
  | done value => exact weaker value state watched
  | call made next ih => exact fun answer => ⟨(watched answer).1, ih answer (watched answer).2⟩

theorem Watches.bind {middle : α → σ → Prop} {post : β → σ → Prop} {rest : α → Script Answer β}
    (watched : monitor.Watches script middle state)
    (continues : ∀ value state, middle value state → monitor.Watches (rest value) post state) :
    monitor.Watches (script >>= rest) post state := by
  induction script generalizing state with
  | done value => exact continues value state watched
  | call made next ih => exact fun answer => ⟨(watched answer).1, ih answer (watched answer).2⟩

/-- What is watched is met in every run. -/
theorem Watches.run [DecidableEq Kind] (kind : Call → Kind) (environment : Environment Answer)
    (counts : Kind → Nat) (watched : monitor.Watches script post state) :
    monitor.Accepts state (script.run kind environment counts).exchanges ∧
      post (script.run kind environment counts).value
        (monitor.after state (script.run kind environment counts).exchanges) := by
  induction script generalizing state counts with
  | done value => exact ⟨trivial, watched⟩
  | call made next ih =>
      obtain ⟨allowed, rest⟩ := watched (environment (counts (kind made)) made)
      obtain ⟨accepts, met⟩ := ih _ _ rest
      exact ⟨⟨allowed, accepts⟩, met⟩

end Monitor

/-! ## Loops -/

/-- At most so many rounds of a loop. It has no value if it goes on after them. -/
def Script.loop (body : ι → Script Answer (ι ⊕ α)) : Nat → ι → Script Answer (Option α)
  | 0, _ => pure none
  | rounds + 1, index => do
      match ← body index with
      | .inl next => loop body rounds next
      | .inr value => pure (some value)

/-- A loop keeps what each of its rounds keeps. -/
theorem Monitor.watches_loop {monitor : Monitor Answer σ} {body : ι → Script Answer (ι ⊕ α)}
    {post : α → σ → Prop} (inv : ι → σ → Prop)
    (round : ∀ index state, inv index state →
      monitor.Watches (body index) (fun result state => result.elim (inv · state) (post · state)) state)
    (rounds : Nat) {index : ι} {state : σ} (start : inv index state) :
    monitor.Watches (Script.loop body rounds index)
      (fun result state => ∀ value, result = some value → post value state) state := by
  induction rounds generalizing index state with
  | zero =>
      intro value none
      cases none
  | succ rounds ih =>
      apply (round index state start).bind
      intro result state met
      cases result with
      | inl next => exact ih met
      | inr value =>
          intro same found
          cases found
          exact met

end AxolotyEmbedded
