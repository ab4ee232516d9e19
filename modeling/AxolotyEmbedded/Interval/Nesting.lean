import AxolotyEmbedded.Interval.CallCycles
import AxolotyEmbedded.Library.Simulation

/-!
The nesting of analyses. `Engine.analyze` finds a recursion through the stack of functions
that the engine keeps; here each analysis is handed the functions whose analyses led to it,
and the engine is shown to do the same.
-/
namespace AxolotyEmbedded.Interval

open Simulation
open FirstInit (Function Instruction)

/-- An analysis within those of the functions `above`, none of which it comes back to. -/
def analyzeUnder (python : Interpreter) : Nat → List Int → Options → Int → Value → EngineM Bound
  | 0, _, _, _, _ => throw .recursionError
  | frames + 1, above, options, address, callback => do
      let cached ← reads fun engine =>
        if options.special = true then none else engine.cache.get? (address, callback)
      match cached with
      | some bound => return bound
      | none => do
          refuse (address ∈ above) (.closedAt "recursion at " address)
          let fn ← functionAt python address
          let (regs, memory) := options.entry callback
          let x ← explore python options regs
            (analyzeUnder python frames (above ++ [address]) .default) fn (.start address regs memory)
          let graph ← reads fun engine => engine.evidence.callGraph
          liftM (checkAcyclic graph frames)
          conclude options address callback fn x

/-- The engine with other functions under analysis. -/
def Engine.under (above : List Int) (engine : Engine) : Engine := { engine with active := above }

/-- One does on an engine with the functions `above` under analysis what the other does on
any engine. -/
abbrev Under {α : Type} (above : List Int) (m n : EngineM α) : Prop :=
  Simulates (Engine.under above) (Engine.under above) m n

section Execution

variable {python : Interpreter} {options : Options} {initial : Regs} {above : List Int}
  {call other : Int → Value → EngineM Bound}

theorem under_modify {step : Engine → Engine}
    (keeps : ∀ e, step (Engine.under above e) = Engine.under above (step e)) :
    Under above (modify step) (modify step) := Simulates.modify keeps

theorem under_note (add : Evidence → Evidence) : Under above (note add) (note add) :=
  under_modify fun _ => rfl

theorem under_functionAt (address : Int) :
    Under above (functionAt python address) (functionAt python address) := by
  intro e
  change (e.program.function python address).map _ = Except.map _ (Except.map _ _)
  cases e.program.function python address with
  | error failure => rfl
  | ok found => rfl

theorem traverses_under (python : Interpreter) (above : List Int) :
    Traverses python fun _ m n => Under above m n where
  toCongruent := simulates_congruent _
  note := under_note
  functionAt := under_functionAt
  instruction _ := Simulates.read fun _ => rfl
  constants := Simulates.read fun _ => rfl

variable (calls : ∀ target callback, Under above (call target callback) (other target callback))

include calls

theorem under_callee (target : Int) (callback : Value) :
    Under above (callee options call target callback) (callee options other target callback) := by
  rw [callee, callee]
  split
  · exact Simulates.pure _
  · apply Simulates.bind (calls target callback)
    intro bound
    apply Simulates.bind (Simulates.read fun _ => rfl)
    intro exported
    exact Simulates.pure _

theorem under_execute (pc : Int) (state : State) :
    Under above (execute python options initial call pc state)
      (execute python options initial other pc state) :=
  (traverses_under python above).execute (under_callee calls) pc state

theorem under_visit (fn : Function) (current : Location) (x : Exploration) :
    Under above (visit python options initial call fn current x)
      (visit python options initial other fn current x) := by
  apply Simulates.bind (Simulates.lift _)
  intro _
  apply Simulates.bind (Simulates.lift _)
  intro state
  apply Simulates.bind (under_note _)
  intro _
  split
  · apply Simulates.bind (Simulates.lift _)
    intro stop
    exact Simulates.pure _
  · apply Simulates.bind (under_execute calls _ _)
    intro turn
    exact Simulates.lift _

theorem under_explore (fn : Function) (start : Exploration) :
    Under above (explore python options initial call fn start)
      (explore python options initial other fn start) := by
  intro e
  have passes (t : Exploration × Engine) :
      pass python options initial call fn (Prod.map id (Engine.under above) t) =
        (pass python options initial other fn t).map
          (Except.map (Prod.map id (Engine.under above))) := by
    obtain ⟨x, engine⟩ := t
    cases work : x.work with
    | nil => simp only [pass, Prod.map, id, work, Option.map_none]
    | cons current rest =>
        simp only [pass, Prod.map, id, work, Option.map_some, Option.some.injEq]
        exact under_visit calls fn current _ engine
  change (Loop.run _ _ (Prod.map id (Engine.under above) (start, e))).getD _ =
    Except.map _ ((Loop.run _ _ (start, e)).getD _)
  rw [run_map passes]
  cases Loop.run (pass python options initial other fn) (iterationLimit + 1) (start, e) with
  | none => rfl
  | some result => rfl

end Execution

/-! ## Analyses -/

section Analysis

variable {python : Interpreter} {options : Options} {address : Int} {callback : Value}
  {frames : Nat} {above : List Int}

theorem under_conclude (fn : Function) (x : Exploration) :
    Under above (conclude options address callback fn x) (conclude options address callback fn x) := by
  apply Simulates.bind
  · exact under_modify fun _ => rfl
  · intro _
    apply Simulates.bind (Simulates.lift _)
    intro _
    apply Simulates.bind
    · exact under_modify fun _ => rfl
    · intro _
      exact Simulates.pure _

/-- The stack of the engine is the chain of the analyses that led to the one that runs. -/
theorem under_analyze : Under above (analyze python frames options address callback)
    (analyzeUnder python frames above options address callback) := by
  induction frames generalizing above options address callback with
  | zero => exact fun _ => rfl
  | succ frames ih =>
      rw [analyze, analyzeUnder]
      apply Simulates.bind (Simulates.read fun _ => rfl)
      intro cached
      cases cached with
      | some bound => exact Simulates.pure bound
      | none =>
          dsimp only
          rw [analyzeAnew]
          apply Simulates.read_left above fun _ => rfl
          apply Simulates.bind (Simulates.lift _)
          intro _
          -- the push, with which the nested analyses are handed one function more
          apply Simulates.modify_left (Engine.under (above ++ [address])) fun _ => rfl
          apply Simulates.bind (under_functionAt address)
          intro fn
          apply Simulates.bind (under_explore (fun _ _ => ih) fn _)
          intro x
          apply Simulates.modify_left (Engine.under above)
          · intro e
            simp only [Engine.under, List.dropLast_concat]
          · apply Simulates.bind (Simulates.read fun _ => rfl)
            intro graph
            apply Simulates.bind (Simulates.lift _)
            intro _
            exact under_conclude fn x

theorem run_reads_bind {α β : Type} {part : Engine → α} {rest : α → EngineM β} {e : Engine} :
    (reads part >>= rest) e = rest (part e) e := rfl

theorem run_refuse_bind {α : Type} {refused : Prop} [Decidable refused] {failure : Failure}
    {rest : Unit → EngineM α} {e : Engine} (holds : refused) :
    (refuse refused failure >>= rest) e = .error failure := by
  rw [refuse, Checked.refuseIf, if_pos holds]
  rfl

/-- An analysis that comes back to a function above it is refused. -/
theorem analyzeUnder_of_mem {e : Engine} (uncached : Uncached options e (address, callback))
    (member : address ∈ above) :
    analyzeUnder python (frames + 1) above options address callback e =
      .error (.closedAt "recursion at " address) := by
  have missing : (if options.special = true then none else e.cache.get? (address, callback)) =
      none := by
    cases uncached with
    | inl special => exact if_pos special
    | inr none =>
        rw [none]
        exact ite_self _
  rw [analyzeUnder, run_reads_bind, missing]
  exact run_refuse_bind member

/-- `analyze` does what an analysis does that is handed the functions above it: it comes back
to none of them, leaves the stack as it was, and where it ends the calls seen have no cycle. -/
theorem nested_analyze (python : Interpreter) (frames : Nat) (options : Options) (address : Int)
    (callback : Value) (e : Engine) :
    analyze python frames options address callback e =
        (analyzeUnder python frames e.active options address callback e).map
          (Prod.map id (Engine.under e.active)) ∧
      (∀ above fewer, address ∈ above → Uncached options e (address, callback) →
        analyzeUnder python (fewer + 1) above options address callback e =
          .error (.closedAt "recursion at " address)) ∧
      ∀ bound f, analyze python frames options address callback e = .ok (bound, f) →
        f.active = e.active ∧
          (Uncached options e (address, callback) → address ∉ e.active ∧
            ∀ node, ¬Relation.TransGen (CallEdge f.evidence.callGraph) node node) := by
  have same : analyze python frames options address callback e = _ := under_analyze e
  refine ⟨same, fun above fewer member uncached => analyzeUnder_of_mem uncached member, ?_⟩
  intro bound f done
  constructor
  · rw [same] at done
    cases ended : analyzeUnder python frames e.active options address callback e with
    | error failure =>
        rw [ended] at done
        cases done
    | ok last =>
        rw [ended] at done
        cases done
        rfl
  · intro uncached
    refine ⟨fun member => ?_, acyclic_of_analyze done uncached⟩
    cases frames with
    | zero => cases done
    | succ frames =>
        rw [same, analyzeUnder_of_mem uncached member] at done
        cases done

/-- `jal x1,4106`. -/
def callCode : Instruction where
  address := 4096
  mnemonic := "jal".toList
  operands := "x1,0x100a".toList
  target := some 4106
  text := "00a000ef jal x1,0x100a".toList
  size := 4
  encoding := some "00a000ef".toList

/-- A helper that calls another one, each behind a function. -/
def calling : Linked where
  functions := ((∅ : Dict Nat Function).set 4094
    ⟨"f".toList, 4094, 2, [returnCode 4094], ∅, ∅⟩).set 4104
      ⟨"g".toList, 4104, 2, [returnCode 4104], ∅, ∅⟩
  names := ∅
  instructions := ([4094, 4100, 4102, 4104, 4106].foldl
    (fun dict address => dict.set address (returnCode address)) (∅ : Dict Nat Instruction)).set 4096
      callCode
  sections := []
  rows := []
  origins := ∅
  executable := [⟨4094, 4108, 0, [0x82, 0x80, 0xef, 0x00, 0xa0, 0x00, 0x82, 0x80, 0x82, 0x80,
    0x82, 0x80, 0x82, 0x80]⟩]
  validated := []
  owners := ∅

/-- A call that ends, and the refusal of one back from the function that is called. -/
theorem nested_analyze_calling :
    (∃ bound after, analyze plainInterpreter 4 cutAfterPush 4096 none (.new calling) =
        .ok (bound, after) ∧
      after.evidence.callGraph = [(4096, 4106)] ∧ after.active = [] ∧
      ∀ node, ¬Relation.TransGen (CallEdge after.evidence.callGraph) node node) ∧
    analyze plainInterpreter 1 .default 4096 none (Engine.under [4096, 4106] (.new calling)) =
      .error (.closedAt "recursion at " 4096) := by
  constructor
  · have ends : (analyze plainInterpreter 4 cutAfterPush 4096 none (.new calling)).toOption.map
        (fun answer => answer.2.evidence.callGraph) = some [(4096, 4106)] := by decide +kernel
    obtain ⟨⟨bound, after⟩, done, graph⟩ := Option.map_eq_some_iff.mp ends
    have done := Checked.toOption_eq_some.mp done
    obtain ⟨restored, free⟩ := (nested_analyze _ _ _ _ _ _).2.2 bound after done
    exact ⟨bound, after, done, graph, restored, (free (.inl rfl)).2⟩
  · obtain ⟨same, refused, _⟩ := nested_analyze plainInterpreter 1 .default 4096 none
      (Engine.under [4096, 4106] (.new calling))
    rw [same]
    exact congrArg (Except.map _) (refused _ 0 List.mem_cons_self (.inr rfl))

end Analysis

end AxolotyEmbedded.Interval
