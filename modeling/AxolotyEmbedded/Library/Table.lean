import Mathlib.Data.List.FinRange
import Mathlib.Data.List.Perm.Basic
import Mathlib.Logic.Function.Basic

/-!
A table of fixed size whose places are free or hold an entry, read as the list
of its entries. Up to order, filling a free place adds one entry and clearing a
place removes one.
-/
namespace AxolotyEmbedded.Table
variable {α : Type*} {n : Nat} {table : Fin n → Option α} {place : Fin n} {entry : α}

def entries (table : Fin n → Option α) : List α := (List.finRange n).filterMap table

theorem mem_entries : entry ∈ entries table ↔ ∃ place, table place = some entry := by
  simp [entries]

theorem length_entries_le (table : Fin n → Option α) : (entries table).length ≤ n :=
  (List.length_filterMap_le table _).trans_eq List.length_finRange

/-- A held place counts once among the entries. -/
theorem perm_entries_clear (held : table place = some entry) :
    (entries table).Perm (entry :: entries (Function.update table place none)) := by
  obtain ⟨before, after, split⟩ := List.append_of_mem (List.mem_finRange place)
  have nodup := List.nodup_finRange n
  rw [split, List.nodup_middle, List.nodup_cons, List.mem_append, not_or] at nodup
  obtain ⟨⟨notBefore, notAfter⟩, -⟩ := nodup
  have same : ∀ {places : List (Fin n)}, place ∉ places →
      places.filterMap (Function.update table place none) = places.filterMap table := by
    intro places absent
    refine List.filterMap_congr fun other inside => Function.update_of_ne ?_ ..
    rintro rfl
    exact absent inside
  rw [entries, entries, split, List.filterMap_append, List.filterMap_append,
    List.filterMap_cons_some held, List.filterMap_cons_none (Function.update_self ..),
    same notBefore, same notAfter]
  exact List.perm_middle

theorem perm_entries_fill (free : table place = none) :
    (entries (Function.update table place (some entry))).Perm (entry :: entries table) := by
  have cleared : Function.update (Function.update table place (some entry)) place none = table := by
    rw [Function.update_idem, ← free, Function.update_eq_self]
  have := perm_entries_clear (Function.update_self place (some entry) table)
  rwa [cleared] at this

end AxolotyEmbedded.Table
