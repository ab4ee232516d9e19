import Mathlib.Data.List.Basic
import Mathlib.Logic.Function.Basic

/-!
Files moved one by one from one directory to another. A move is atomic; a series of
moves ends at the first that fails, and what was moved before it stays moved.
-/
namespace AxolotyEmbedded

/-- The files of two directories under names they share. -/
structure Directories (Name File : Type*) where
  source : Name → Option File
  target : Name → Option File

namespace Directories
variable {Name File : Type*} [DecidableEq Name] {names : List Name} {name : Name}

def move (d : Directories Name File) (name : Name) : Directories Name File where
  source := Function.update d.source name none
  target := Function.update d.target name (d.source name)

/-- Every name is moved. -/
def moveAll (d : Directories Name File) (names : List Name) : Directories Name File :=
  names.foldl move d

/-- The names are moved up to the first whose move fails; the answer is that none did. -/
def moveUntil (fails : Name → Bool) :
    List Name → Directories Name File → Directories Name File × Bool
  | [], d => (d, true)
  | name :: names, d => if fails name then (d, false) else moveUntil fails names (d.move name)

theorem moveUntil_eq (fails : Name → Bool) (names : List Name) (d : Directories Name File) :
    moveUntil fails names d =
      (d.moveAll (names.takeWhile fun name => !fails name), names.all fun name => !fails name) := by
  induction names generalizing d with
  | nil => rfl
  | cons name names ih =>
      cases failed : fails name with
      | true => simp [moveUntil, failed, moveAll]
      | false => simp [moveUntil, failed, ih, moveAll]

theorem target_moveAll_of_notMem (d : Directories Name File) (other : name ∉ names) :
    (d.moveAll names).target name = d.target name := by
  induction names generalizing d with
  | nil => rfl
  | cons first names ih =>
      obtain ⟨ne, other⟩ := not_or.mp (List.mem_cons.not.mp other)
      exact (ih (d.move first) other).trans (Function.update_of_ne ne ..)

/-- A name that is moved once has its file in the target. -/
theorem target_moveAll_of_mem (d : Directories Name File) (distinct : names.Nodup)
    (moved : name ∈ names) : (d.moveAll names).target name = d.source name := by
  induction names generalizing d with
  | nil => cases moved
  | cons first names ih =>
      obtain ⟨once, distinct⟩ := List.nodup_cons.mp distinct
      by_cases same : name = first
      · rw [same]
        exact (target_moveAll_of_notMem (d.move first) once).trans (Function.update_self ..)
      · have later := List.mem_of_ne_of_mem same moved
        exact (ih (d.move first) distinct later).trans (Function.update_of_ne same ..)

end Directories
end AxolotyEmbedded
