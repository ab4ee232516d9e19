import AxolotyEmbedded.Interval.Engine
import AxolotyEmbedded.Library.Congruence

/-!
The execution of one instruction under a relation. Where the calls of two analyses are related,
and each access of an instruction to the engine is related to itself, so are the two executions.
-/
namespace AxolotyEmbedded.Interval

open Congruence
open FirstInit (Function)

/-- A relation that the accesses of an instruction to the engine keep. -/
structure Traverses (python : Interpreter)
    (Rel : ∀ α : Type, EngineM α → EngineM α → Prop) : Prop extends Congruent Rel where
  note (add : Evidence → Evidence) : Rel Unit (note add) (note add)
  functionAt (address : Int) :
    Rel Function (functionAt python address) (functionAt python address)
  instruction (pc : Int) : Rel _ (reads fun engine => engine.program.instruction pc)
    (reads fun engine => engine.program.instruction pc)
  constants : Rel _ (reads fun engine => engine.program.read) (reads fun engine => engine.program.read)

namespace Traverses

variable {python : Interpreter} {options : Options} {initial : Regs}
  {Rel : ∀ α : Type, EngineM α → EngineM α → Prop} (rel : Traverses python Rel)
  {call other : Int → Value → EngineM Bound}
  (calls : ∀ target callback,
    Rel _ (callee options call target callback) (callee options other target callback))
  {site : Site}

include rel

theorem refuse {refused : Prop} [Decidable refused] (failure : Failure) :
    Rel Unit (refuse refused failure) (refuse refused failure) := rel.lift _

theorem enter (rd : Fin 32) (fn : Function) (locals : Locals) (target : Int) :
    Rel Nat (enter options site rd fn locals target) (enter options site rd fn locals target) := by
  apply rel.bind (rel.refuse _)
  intro _
  apply rel.bind (rel.note _)
  intro _
  apply rel.bind (rel.note _)
  intro _
  apply rel.bind (rel.refuse _)
  intro _
  apply rel.bind (rel.note _)
  intro _
  apply rel.bind (rel.refuse _)
  intro _
  apply Congruent.ite
  · apply rel.bind (rel.note _)
    intro _
    exact rel.pure _
  · exact rel.pure _

include calls

theorem callOut (rd : Fin 32) (fn : Function) (locals : Locals) (target : Int) :
    Rel Locals (callOut options call site rd fn locals target)
      (callOut options other site rd fn locals target) := by
  apply rel.bind (calls _ _)
  intro answer
  exact rel.pure _

theorem jumpTo (rd : Fin 32) (locals : Locals) (target : Int) :
    Rel Locals (jumpTo python options call site rd locals target)
      (jumpTo python options other site rd locals target) := by
  apply rel.bind (rel.functionAt target)
  intro fn
  apply rel.bind (rel.enter rd fn locals target)
  intro phase
  apply Congruent.ite
  · exact rel.pure _
  · apply Congruent.ite
    · apply rel.bind (rel.note _)
      intro _
      exact rel.pure _
    · apply Congruent.ite
      · exact rel.pure _
      · exact rel.callOut calls _ _ _ _

theorem jump (locals : Locals) :
    Rel Locals (jump python options initial call site locals)
      (jump python options initial other site locals) := by
  apply rel.bind (rel.lift _)
  intro way
  apply rel.bind (rel.lift _)
  intro destinations
  apply rel.bind (rel.lift _)
  intro locals
  apply Congruent.ite
  · exact rel.pure _
  · apply rel.bind (rel.note _)
    intro _
    apply rel.foldlM
    intro locals target
    exact rel.jumpTo calls _ _ _

theorem effect (sp : Int) (locals : Locals) :
    Rel Locals (effect python options initial call site sp locals)
      (effect python options initial other site sp locals) := by
  apply Congruent.ite
  · apply rel.bind (rel.note _)
    intro _
    exact rel.pure _
  · apply Congruent.ite
    · apply rel.bind (rel.lift _)
      intro targets
      exact rel.pure _
    · apply Congruent.ite
      · exact rel.jump calls locals
      · apply Congruent.ite
        · apply rel.bind rel.constants
          intro read
          apply rel.bind (rel.lift _)
          intro access
          apply rel.bind (rel.note _)
          intro _
          exact rel.pure _
        · apply rel.bind (rel.lift _)
          intro regs
          exact rel.pure _

theorem execute (pc : Int) (state : State) :
    Rel Turn (execute python options initial call pc state)
      (execute python options initial other pc state) := by
  apply rel.bind (rel.functionAt pc)
  intro owner
  apply rel.bind (rel.instruction pc)
  intro found
  apply rel.bind (rel.lift _)
  intro ins
  apply rel.bind (rel.lift _)
  intro sp
  apply rel.bind (rel.refuse _)
  intro _
  apply rel.bind (rel.effect calls sp _)
  intro locals
  apply rel.bind (rel.refuse _)
  intro _
  apply rel.bind (rel.lift _)
  intro next
  exact rel.pure _

end Traverses
end AxolotyEmbedded.Interval
