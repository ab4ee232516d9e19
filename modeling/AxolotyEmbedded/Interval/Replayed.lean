import AxolotyEmbedded.Interval.Analyze
import AxolotyEmbedded.Interval.Traversal
import AxolotyEmbedded.Library.Replay

/-!
An engine only grows while an analysis runs, and the execution of an instruction that was
met once comes to the same in every later engine: the calls are answered from the cache,
and the functions as they were found.
-/
namespace AxolotyEmbedded.Interval

open Replay Checked

/-- Found functions, cached bounds and the exit states of cached functions are kept. -/
structure Engine.Grows (earlier later : Engine) : Prop where
  program : earlier.program ≤ later.program
  cache : ∀ key bound, earlier.cache.get? key = some bound → later.cache.get? key = some bound
  returns : ∀ key bound, earlier.cache.get? key = some bound →
    later.returnValues.get? key = earlier.returnValues.get? key
  active : later.active = earlier.active

instance : Preorder Engine where
  le := Engine.Grows
  le_refl engine := ⟨le_refl _, fun _ _ held => held, fun _ _ _ => rfl, rfl⟩
  le_trans _ _ _ first second :=
    ⟨le_trans first.program second.program,
      fun key bound held => second.cache key bound (first.cache key bound held),
      fun key bound held => (second.returns key bound (first.cache key bound held)).trans
        (first.returns key bound held),
      second.active.trans first.active⟩

/-! ## Single steps -/

theorem replays_note (add : Evidence → Evidence) : Replays (note add) :=
  Replays.modify fun _ => ⟨le_refl _, fun _ _ held => held, fun _ _ _ => rfl, rfl⟩

theorem replays_functionAt (python : Interpreter) (address : Int) :
    Replays (functionAt python address) := by
  intro e fn f done
  rw [functionAt] at done
  cases found : e.program.function python address with
  | error failure =>
      rw [found] at done
      cases done
  | ok answer =>
      rw [found] at done
      cases done
      obtain ⟨grown, again⟩ := Linked.function_replays found
      refine ⟨⟨grown, fun _ _ held => held, fun _ _ _ => rfl, rfl⟩, fun u later => ?_⟩
      obtain ⟨last, same, above⟩ := again u.program later.program
      refine ⟨{ u with program := last }, ?_, above, fun _ _ held => held, fun _ _ _ => rfl, rfl⟩
      rw [functionAt, same]
      rfl

/-- Replaying is said of one computation, so the second one is left out. -/
theorem traverses_replays (python : Interpreter) :
    Traverses python fun α (m _ : EngineM α) => Replays m where
  toCongruent := replays_congruent
  note := replays_note
  functionAt := replays_functionAt python
  instruction _ := by
    apply Replays.read
    intro e f grown
    simp only [Linked.instruction, grown.program.instructions]
  constants := by
    apply Replays.read
    intro e f grown
    funext address size
    simp only [Linked.read, grown.program.sections]

/-! ## One instruction -/

/-- Calls that replay and are cached from then on. -/
structure Cached (call : Int → Value → EngineM Bound) : Prop where
  replays : ∀ target callback, Replays (call target callback)
  cached : ∀ {target callback e bound f}, call target callback e = .ok (bound, f) →
    f.cache.get? (target, callback) = some bound

section Execution

variable {python : Interpreter} {options : Options} {initial : Regs}
  {call : Int → Value → EngineM Bound} (calls : Cached call)

include calls

theorem replays_callee (target : Int) (callback : Value) :
    Replays (callee options call target callback) := by
  rw [callee]
  split
  · exact Replays.pure _
  · intro e answer f done
    obtain ⟨bound, g, called, rest⟩ := bind_run_eq_ok.mp done
    cases rest
    obtain ⟨grown, again⟩ := calls.replays target callback e bound f called
    refine ⟨grown, fun u later => ?_⟩
    obtain ⟨v, same, above⟩ := again u later
    refine ⟨v, bind_run_eq_ok.mpr ⟨bound, v, same, ?_⟩, above⟩
    have held := calls.cached called
    have kept := (above.returns _ _ (later.cache _ _ held)).trans (later.returns _ _ held)
    change Except.ok ((bound, if options.skipCalls = true then
      (v.returnValues.get? (target, callback)).getD [] else []), v) = _
    rw [kept]

/-- The execution of an instruction comes to the same again. -/
theorem replays_execute (pc : Int) (state : State) :
    Replays (execute python options initial call pc state) :=
  @Traverses.execute python options initial _ (traverses_replays python) call call
    (replays_callee calls) pc state

end Execution

end AxolotyEmbedded.Interval
