import AxolotyEmbedded.FirstInit.CallWalk

/-!
The walk over the calls is the search of the library for the calls of the linked functions,
and it ends.
-/
namespace AxolotyEmbedded.FirstInit

open PythonText PythonInt Checked

/-! ## Findings -/

namespace Findings

/-- All that was found at first is still found. -/
structure Within (first second : Findings) : Prop where
  unresolved : first.unresolved ⊆ second.unresolved
  frames : first.frames ⊆ second.frames
  edges : first.edges ⊆ second.edges

variable {first second third part : Findings}

theorem Within.refl (found : Findings) : found.Within found :=
  ⟨List.Subset.refl _, List.Subset.refl _, List.Subset.refl _⟩

theorem Within.trans (inner : first.Within second) (outer : second.Within third) :
    first.Within third where
  unresolved := List.Subset.trans inner.unresolved outer.unresolved
  frames := List.Subset.trans inner.frames outer.frames
  edges := List.Subset.trans inner.edges outer.edges

theorem todo_join (parts : List Findings) : (join parts).todo = parts.flatMap todo := by
  induction parts with
  | nil => rfl
  | cons head rest ih => exact congrArg (head.todo ++ ·) ih

end Findings

variable {tables : UnicodeTables} {ints : IntTables} {printable : Char → Bool}
  {inputs : CallInputs} {fn callee root hook : Function} {context ancestors : List Str}
  {site : CallSite} {item next : WalkItem} {fuel : Nat}

/-! ## The items that a pass adds -/

theorem todo_calledFindings :
    (calledFindings inputs fn context site tables ancestors).todo =
      (siteTargets inputs fn context site).map (calledItem inputs fn context site ancestors) := by
  have joined : ∀ targets : List (Function × EdgeKind),
      (Findings.join (targets.map (targetFindings inputs fn context site tables ancestors))).todo =
        targets.map (calledItem inputs fn context site ancestors) := by
    intro targets
    induction targets with
    | nil => rfl
    | cons target rest ih => exact congrArg (calledItem inputs fn context site ancestors target :: ·) ih
  exact joined _

/-- A site adds an item for each of its targets. -/
theorem todo_siteFindings :
    (siteFindings inputs fn context site tables ancestors).todo =
      (siteTargets inputs fn context site).map (calledItem inputs fn context site ancestors) := by
  unfold siteFindings
  cases target : site.target with
  | some address =>
      dsimp only
      cases found : inputs.byAddr.get? address with
      | some callee =>
          have body : (bodyFindings fn site address callee).todo = [] := by
            unfold bodyFindings
            split <;> rfl
          exact (congrArg (· ++ _) body).trans todo_calledFindings
      | none =>
          have targets : siteTargets inputs fn context site = [] := by
            simp [siteTargets, directTarget, target, found]
          rw [targets]
          dsimp only
          split
          · unfold romFindings
            dsimp only
            split <;> rfl
          · rfl
  | none =>
      dsimp only
      split
      · next names => simp [siteTargets, directTarget, target, names, indirectFindings]
      · exact todo_calledFindings

/-- The items are those of the targets of the sites of the function. -/
theorem mem_todo_callFindings :
    next ∈ (callFindings tables inputs item).todo ↔
      ∃ site ∈ callSites item.fn, ∃ target ∈ siteTargets inputs item.fn item.context site,
        calledItem inputs item.fn item.context site item.ancestors target = next := by
  simp only [callFindings, Findings.todo_join, List.mem_flatMap, List.mem_map, exists_exists_and_eq_and,
    todo_siteFindings]

/-! ## The search -/

/-- The walk refuses a function with the name of one of its callers. -/
def callSearch (tables : UnicodeTables) (inputs : CallInputs) : Search WalkItem WalkKey Str where
  key := WalkItem.key
  name := Prod.fst
  trail := WalkItem.ancestors
  expand item := (callFindings tables inputs item).todo.reverse

/-- What was found at the items that the search came to. -/
structure Recorded (tables : UnicodeTables) (ints : IntTables) (printable : Char → Bool)
    (inputs : CallInputs) (fuel : Nat) (found : Findings) (events : List (Search.Event WalkItem)) :
    Prop where
  refused : ∀ item, .refused item ∈ events → recursionText item.fn ∈ found.unresolved
  expanded : ∀ item, .expanded item ∈ events → ∃ frame,
    frameOf ints printable fuel item.fn item.linkregReturn = .ok frame ∧
      (frameFindings item.fn frame).Within found ∧ (callFindings tables inputs item).Within found

section Runs

variable {state last : WalkState} {rest : List WalkItem} {found : Findings}
  {events : List (Search.Event WalkItem)}

end Runs

/-! ## The linked functions -/

/-- The functions that the walk can come to. -/
def walkFunctions (inputs : CallInputs) (hook : Function) : List Function :=
  hook :: (inputs.byAddr.entries.map Prod.snd ++ inputs.byName.entries.map Prod.snd)

theorem mem_walkFunctions_of_candidates {name : Str} (member : callee ∈ candidates inputs name) :
    callee ∈ walkFunctions inputs hook := by
  unfold candidates at member
  split at member
  · next found =>
      obtain rfl := List.mem_singleton.mp member
      exact List.mem_cons_of_mem _ (List.mem_append_right _
        (List.mem_map_of_mem (f := Prod.snd) (Dict.mem_entries.mpr found)))
  · exact List.mem_cons_of_mem _ (List.mem_append_left _ (List.mem_of_mem_filter member))

theorem mem_walkFunctions_of_siteTargets {kind : EdgeKind}
    (target : (callee, kind) ∈ siteTargets inputs fn context site) :
    callee ∈ walkFunctions inputs hook := by
  unfold siteTargets at target
  split at target
  · exact absurd target List.not_mem_nil
  · obtain direct | called := List.mem_append.mp target
    · obtain ⟨other, found, same⟩ := List.mem_map.mp direct
      obtain ⟨address, _, found⟩ := Option.bind_eq_some_iff.mp (Option.mem_toList.mp found)
      obtain ⟨rfl, _⟩ := Prod.mk.inj same
      exact List.mem_cons_of_mem _ (List.mem_append_left _
        (List.mem_map_of_mem (f := Prod.snd) (Dict.mem_entries.mpr found)))
    · obtain ⟨name, _, inside⟩ := List.mem_flatMap.mp called
      obtain ⟨other, candidate, same⟩ := List.mem_map.mp inside
      obtain ⟨rfl, _⟩ := Prod.mk.inj same
      exact mem_walkFunctions_of_candidates candidate

/-! ## The walk ends -/

/-- The callbacks that a function can be called with. -/
def walkContexts (inputs : CallInputs) : List (List Str) :=
  [] :: inputs.callbacks.entries.map Prod.snd

/-- An item of the walk: a linked function, called by the entry or another one. -/
structure Walks (inputs : CallInputs) (root hook : Function) (item : WalkItem) : Prop where
  fn : item.fn ∈ walkFunctions inputs hook
  caller : item.ancestors.getLastD [] ∈ (root :: walkFunctions inputs hook).map Function.name
  context : item.context ∈ walkContexts inputs

theorem mem_walkContexts_of_callbackNames (held : context ∈ walkContexts inputs) :
    callbackNames inputs fn context site ∈ walkContexts inputs := by
  unfold callbackNames
  split
  · exact held
  · cases found : inputs.callbacks.get? (callKey fn site.ins) with
    | none => exact List.mem_cons_self
    | some names =>
        exact List.mem_cons_of_mem _
          (List.mem_map_of_mem (f := Prod.snd) (Dict.mem_entries.mpr found))

theorem calleeContext_cases (inputs : CallInputs) (fn : Function) (context : List Str)
    (site : CallSite) (callee : Function) :
    calleeContext inputs fn context site callee = callbackNames inputs fn context site ∨
      calleeContext inputs fn context site callee = [] :=
  ite_eq_or_eq ..

theorem Walks.called (walks : Walks inputs root hook item)
    (member : next ∈ (callSearch tables inputs).expand item) : Walks inputs root hook next := by
  obtain ⟨site, _, target, called, rfl⟩ := mem_todo_callFindings.mp (List.mem_reverse.mp member)
  refine ⟨mem_walkFunctions_of_siteTargets called, ?_, ?_⟩
  · rw [calledItem, List.getLastD_concat]
    exact List.mem_map_of_mem (f := Function.name) (List.mem_cons_of_mem root walks.fn)
  · obtain names | none := calleeContext_cases inputs item.fn item.context site target.1
    · rw [calledItem, names]
      exact mem_walkContexts_of_callbackNames walks.context
    · rw [calledItem, none]
      exact List.mem_cons_self

/-- The keys of the items of the walk. -/
def walkKeys (inputs : CallInputs) (root hook : Function) : List WalkKey :=
  (walkFunctions inputs hook).flatMap fun fn =>
    ((root :: walkFunctions inputs hook).map Function.name).flatMap fun caller =>
      (walkContexts inputs).map fun context => (fn.name, caller, context)

theorem Walks.key (walks : Walks inputs root hook item) :
    (callSearch tables inputs).key item ∈ walkKeys inputs root hook := by
  change (item.fn.name, item.ancestors.getLastD [], item.context) ∈ _
  refine List.mem_flatMap.mpr ⟨item.fn, walks.fn, ?_⟩
  refine List.mem_flatMap.mpr ⟨item.ancestors.getLastD [], walks.caller, ?_⟩
  exact List.mem_map.mpr ⟨item.context, walks.context, rfl⟩

end AxolotyEmbedded.FirstInit
