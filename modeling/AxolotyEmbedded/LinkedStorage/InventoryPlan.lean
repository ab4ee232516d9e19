import AxolotyEmbedded.Library.Planned
import AxolotyEmbedded.LinkedStorage.Inventory

/-!
When `join_inventory` succeeds: each entry has a plan of the rows that it joins, which no
other entry changes, and the owners and the names of the rows are distinct. So the order of
the entries decides nothing but the order of the report and which alias of a range carries
its charge.
-/
namespace AxolotyEmbedded.LinkedStorage

open PythonText Checked

/-! ## The plan of an entry -/

section Plan

variable (inputs : JoinInputs) (mapMember : Str)

/-- The row that an expected symbol is joined to. -/
def rowOf (entry : InventoryEntry) (identity : PyJson) : Option JoinedSymbol :=
  match readIdentity entry.owner identity with
  | .error _ => none
  | .ok (rawName, role) =>
      match locate inputs mapMember entry.owner rawName with
      | .ok (.joined symbol initialization mapInput) =>
          some (joinedRow inputs entry rawName role symbol initialization mapInput)
      | _ => none

/-- An entry's owner and, where it applies to the build, its rows. -/
structure EntryPlan where
  owner : Str
  applicable : Option (List JoinedSymbol)

def EntryPlan.rows (plan : EntryPlan) : List JoinedSymbol := plan.applicable.getD []

def planOfEntry (entry : InventoryEntry) : Option EntryPlan :=
  if entry.applies inputs then
    if (entry.expectedSymbols.all fun identity => (rowOf inputs mapMember entry identity).isSome) then
      some ⟨entry.owner, some (entry.expectedSymbols.filterMap (rowOf inputs mapMember entry))⟩
    else none
  else some ⟨entry.owner, none⟩

/-- What an entry joins whatever the other entries are. -/
def planOf (entry : PyJson) : Option EntryPlan :=
  match readEntry inputs [] entry with
  | .error _ => none
  | .ok entry => planOfEntry inputs mapMember entry

end Plan

/-! ## Adding a plan -/

def JoinState.addRow (state : JoinState) (row : JoinedSymbol) : JoinState :=
  ({ state with expectedNames := row.rawName :: state.expectedNames } : JoinState).charge row

def JoinState.addPlan (state : JoinState) (plan : EntryPlan) : JoinState :=
  let state := { state with owners := plan.owner :: state.owners }
  match plan.applicable with
  | some rows => rows.foldl JoinState.addRow state
  | none => { state with notApplicable := state.notApplicable ++ [plan.owner] }

/-- Nothing was left out of the join so far. -/
def JoinState.Clean (state : JoinState) : Prop := state.unmatched = [] ∧ state.ambiguous = []

variable {inputs : JoinInputs} {mapMember : Str} {state last : JoinState} {entry : InventoryEntry}
  {row : JoinedSymbol} {identity : PyJson}

theorem rowOf_eq_some :
    rowOf inputs mapMember entry identity = some row ↔
      ∃ rawName role symbol initialization mapInput,
        readIdentity entry.owner identity = .ok (rawName, role) ∧
        locate inputs mapMember entry.owner rawName =
          .ok (.joined symbol initialization mapInput) ∧
        row = joinedRow inputs entry rawName role symbol initialization mapInput := by
  unfold rowOf
  cases read : readIdentity entry.owner identity with
  | error error => simp
  | ok names =>
      obtain ⟨rawName, role⟩ := names
      simp only
      cases located : locate inputs mapMember entry.owner rawName with
      | error error => simp [located]
      | ok place =>
          cases place with
          | unmatched reason => simp [located]
          | ambiguous reason => simp [located]
          | joined symbol initialization mapInput =>
              simp only [Option.some.injEq]
              constructor
              · intro same
                exact ⟨_, _, _, _, _, rfl, located, same.symm⟩
              · intro found
                obtain ⟨_, _, _, _, _, same, found, rfl⟩ := found
                cases same
                rw [located] at found
                cases found
                rfl

/-- A step that leaves nothing out adds the row of its symbol. -/
theorem joinIdentity_eq_ok (clean : last.Clean) :
    joinIdentity inputs mapMember entry state identity = .ok last ↔
      state.Clean ∧ ∃ row, rowOf inputs mapMember entry identity = some row ∧
        row.rawName ∉ state.expectedNames ∧ last = state.addRow row := by
  constructor
  · intro joined
    obtain ⟨⟨rawName, role⟩, read, joined⟩ := bind_eq_ok.mp joined
    obtain ⟨_, fresh, joined⟩ := bind_eq_ok.mp joined
    rw [refuseIf_eq_ok] at fresh
    obtain ⟨place, located, joined⟩ := bind_eq_ok.mp joined
    cases place with
    | unmatched reason =>
        cases joined
        exact absurd clean.1 (by simp)
    | ambiguous reason =>
        cases joined
        exact absurd clean.2 (by simp)
    | joined symbol initialization mapInput =>
        cases joined
        exact ⟨clean, _, rowOf_eq_some.mpr ⟨_, _, _, _, _, read, located, rfl⟩, fresh, rfl⟩
  · intro planned
    obtain ⟨_, row, found, fresh, rfl⟩ := planned
    obtain ⟨rawName, role, symbol, initialization, mapInput, read, located, rfl⟩ :=
      rowOf_eq_some.mp found
    apply bind_eq_ok.mpr
    refine ⟨_, read, bind_eq_ok.mpr ⟨(), refuseIf_eq_ok.mpr fresh, ?_⟩⟩
    exact bind_eq_ok.mpr ⟨_, located, rfl⟩

/-! ## Rows and plans that are new -/

/-- The names of some rows are distinct and new. -/
structure NewNames (used : List Str) (rows : List JoinedSymbol) : Prop where
  fresh : ∀ row ∈ rows, row.rawName ∉ used
  distinct : (rows.map JoinedSymbol.rawName).Nodup

variable {rows : List JoinedSymbol} {plan : EntryPlan} {plans : List EntryPlan}
  {entries : List PyJson} {report : JoinReport}

theorem expectedNames_foldl_addRow (rows : List JoinedSymbol) (state : JoinState) :
    (rows.foldl JoinState.addRow state).expectedNames =
      (rows.map JoinedSymbol.rawName).reverse ++ state.expectedNames := by
  induction rows generalizing state with
  | nil => rfl
  | cons row rest ih =>
      rw [List.foldl_cons, ih, List.map_cons, List.reverse_cons, List.append_assoc]
      rfl

theorem clean_addRow (clean : state.Clean) (row : JoinedSymbol) : (state.addRow row).Clean := clean

theorem clean_foldl_addRow (clean : state.Clean) (rows : List JoinedSymbol) :
    (rows.foldl JoinState.addRow state).Clean := by
  induction rows generalizing state with
  | nil => exact clean
  | cons row rest ih => exact ih (clean_addRow clean row)

/-- One row after another is new where the names are distinct. -/
theorem allNew_addRow :
    Planned.AllNew JoinState.addRow (fun state row => row.rawName ∉ state.expectedNames) state rows ↔
      NewNames state.expectedNames rows := by
  induction rows generalizing state with
  | nil => exact ⟨fun _ => ⟨by simp, List.nodup_nil⟩, fun _ => trivial⟩
  | cons row rest ih =>
      have names : (state.addRow row).expectedNames = row.rawName :: state.expectedNames := rfl
      rw [Planned.AllNew, ih]
      constructor
      · intro new
        obtain ⟨here, fresh, distinct⟩ := new
        rw [names] at fresh
        constructor
        · intro other member
          obtain rfl | member := List.mem_cons.mp member
          · exact here
          · exact fun old => fresh other member (List.mem_cons_of_mem _ old)
        · rw [List.map_cons, List.nodup_cons]
          refine ⟨fun repeated => ?_, distinct⟩
          obtain ⟨other, member, same⟩ := List.mem_map.mp repeated
          exact fresh other member (same ▸ List.mem_cons_self)
      · intro new
        obtain ⟨fresh, distinct⟩ := new
        rw [List.map_cons, List.nodup_cons] at distinct
        refine ⟨fresh row List.mem_cons_self, ?_, distinct.2⟩
        intro other member
        rw [names, List.mem_cons, not_or]
        refine ⟨fun same => distinct.1 (same ▸ List.mem_map_of_mem member), ?_⟩
        exact fresh other (List.mem_cons_of_mem _ member)

theorem readEntry_eq_ok {owners : List Str} {value : PyJson} :
    readEntry inputs owners value = .ok entry ↔
      readEntry inputs [] value = .ok entry ∧ entry.owner ∉ owners := by
  have owner : ∀ owners name, readOwner owners value = .ok name ↔
      readOwner [] value = .ok name ∧ name ∉ owners := by
    intro owners name
    unfold readOwner
    cases (value.get "owner").text? with
    | none => simp
    | some found =>
        simp only [bind_eq_ok, refuseIf_eq_ok, pure, Except.pure, Except.ok.injEq,
          List.not_mem_nil, or_false, not_or, exists_and_left, exists_const]
        constructor
        · intro passed
          obtain ⟨⟨named, new⟩, rfl⟩ := passed
          exact ⟨⟨named, rfl⟩, new⟩
        · intro passed
          obtain ⟨⟨named, rfl⟩, new⟩ := passed
          exact ⟨⟨named, new⟩, rfl⟩
  simp only [readEntry, bind_eq_ok, pure, Except.pure, Except.ok.injEq]
  constructor
  · intro passed
    obtain ⟨_, dict, name, named, category, known, rest⟩ := passed
    obtain ⟨named, new⟩ := (owner owners name).mp named
    obtain ⟨source, sourced, _, checked, symbols, listed, profiles, read, rfl⟩ := rest
    exact ⟨⟨_, dict, name, named, category, known, source, sourced, _, checked, symbols, listed,
      profiles, read, rfl⟩, new⟩
  · intro passed
    obtain ⟨⟨_, dict, name, named, category, known, rest⟩, new⟩ := passed
    obtain ⟨source, sourced, _, checked, symbols, listed, profiles, read, rfl⟩ := rest
    exact ⟨_, dict, name, (owner owners name).mpr ⟨named, new⟩, category, known, source, sourced,
      _, checked, symbols, listed, profiles, read, rfl⟩

/-- A plan brings a new owner and new names. -/
structure NewPlan (state : JoinState) (plan : EntryPlan) : Prop where
  owner : plan.owner ∉ state.owners
  names : NewNames state.expectedNames plan.rows

theorem joinEntry_eq_ok {value : PyJson} (clean : last.Clean) :
    joinEntry inputs mapMember state value = .ok last ↔
      state.Clean ∧ ∃ plan, planOf inputs mapMember value = some plan ∧ NewPlan state plan ∧
        last = state.addPlan plan := by
  unfold joinEntry planOf
  rw [bind_eq_ok]
  cases read : readEntry inputs [] value with
  | error error =>
      simp [readEntry_eq_ok, read]
  | ok entry =>
      have only : ∀ found, readEntry inputs state.owners value = .ok found ↔
          entry = found ∧ entry.owner ∉ state.owners := by
        intro found
        rw [readEntry_eq_ok, read]
        constructor
        · intro passed
          obtain ⟨same, new⟩ := passed
          cases same
          exact ⟨rfl, new⟩
        · intro passed
          obtain ⟨rfl, new⟩ := passed
          exact ⟨rfl, new⟩
      simp only [only, and_assoc, exists_eq_left', planOfEntry]
      cases applies : entry.applies inputs with
      | false =>
          simp only [Bool.false_eq_true, if_false, Option.some.injEq, exists_eq_left']
          constructor
          · intro passed
            obtain ⟨new, same⟩ := passed
            cases same
            exact ⟨clean, ⟨new, by simp [EntryPlan.rows], List.nodup_nil⟩, rfl⟩
          · intro passed
            obtain ⟨_, new, rfl⟩ := passed
            exact ⟨new.owner, rfl⟩
      | true =>
          have turns : ∀ start, entry.expectedSymbols.foldlM (joinIdentity inputs mapMember entry)
              start = .ok last ↔
                start.Clean ∧
                (∀ identity ∈ entry.expectedSymbols,
                  (rowOf inputs mapMember entry identity).isSome = true) ∧
                Planned.AllNew JoinState.addRow (fun state row => row.rawName ∉ state.expectedNames)
                  start (entry.expectedSymbols.filterMap (rowOf inputs mapMember entry)) ∧
                last = (entry.expectedSymbols.filterMap (rowOf inputs mapMember entry)).foldl
                  JoinState.addRow start := by
            intro start
            refine Planned.foldlM_eq_ok ?_ ?_ clean
            · intro state identity last cleanly
              exact joinIdentity_eq_ok cleanly
            · intro state row cleanly
              exact clean_addRow cleanly row
          simp only [if_true, turns, allNew_addRow]
          constructor
          · intro passed
            obtain ⟨new, cleanly, planned, names, rfl⟩ := passed
            rw [if_pos (List.all_eq_true.mpr planned)]
            exact ⟨cleanly, _, rfl, ⟨new, names⟩, rfl⟩
          · intro passed
            obtain ⟨cleanly, plan, found, new, rfl⟩ := passed
            split at found
            · rename_i planned
              cases found
              exact ⟨new.owner, cleanly, List.all_eq_true.mp planned, new.names, rfl⟩
            · cases found

/-! ## All entries -/

/-- The plans of the entries that have one. -/
def plansOf (inputs : JoinInputs) (mapMember : Str) (entries : List PyJson) : List EntryPlan :=
  entries.filterMap (planOf inputs mapMember)

/-- The rows of the entries, each with no charge yet. -/
def rowsOf (inputs : JoinInputs) (mapMember : Str) (entries : List PyJson) : List JoinedSymbol :=
  (plansOf inputs mapMember entries).flatMap EntryPlan.rows

/-- Each entry has a plan, and no two share an owner or a name of a symbol. -/
structure Joinable (inputs : JoinInputs) (mapMember : Str) (entries : List PyJson) : Prop where
  planned : ∀ entry ∈ entries, (planOf inputs mapMember entry).isSome = true
  owners : ((plansOf inputs mapMember entries).map EntryPlan.owner).Nodup
  names : ((rowsOf inputs mapMember entries).map JoinedSymbol.rawName).Nodup

@[simp]
theorem owners_foldl_addRow (rows : List JoinedSymbol) (state : JoinState) :
    (rows.foldl JoinState.addRow state).owners = state.owners := by
  induction rows generalizing state with
  | nil => rfl
  | cons row rest ih => exact ih _

theorem owners_addPlan (state : JoinState) (plan : EntryPlan) :
    (state.addPlan plan).owners = plan.owner :: state.owners := by
  unfold JoinState.addPlan
  cases plan.applicable with
  | none => rfl
  | some rows => exact owners_foldl_addRow rows _

theorem expectedNames_addPlan (state : JoinState) (plan : EntryPlan) :
    (state.addPlan plan).expectedNames =
      (plan.rows.map JoinedSymbol.rawName).reverse ++ state.expectedNames := by
  unfold JoinState.addPlan EntryPlan.rows
  cases plan.applicable with
  | none => rfl
  | some rows => exact expectedNames_foldl_addRow rows _

theorem clean_addPlan (clean : state.Clean) (plan : EntryPlan) : (state.addPlan plan).Clean := by
  have owned : ({ state with owners := plan.owner :: state.owners } : JoinState).Clean := clean
  unfold JoinState.addPlan
  cases plan.applicable with
  | none => exact clean
  | some rows => exact clean_foldl_addRow owned rows

theorem newNames_append {used : List Str} {others : List JoinedSymbol} :
    NewNames used (rows ++ others) ↔
      NewNames used rows ∧ NewNames ((rows.map JoinedSymbol.rawName).reverse ++ used) others := by
  constructor
  · intro new
    obtain ⟨fresh, distinct⟩ := new
    rw [List.map_append, List.nodup_append] at distinct
    refine ⟨⟨fun row member => fresh row (List.mem_append_left _ member), distinct.1⟩, ?_,
      distinct.2.1⟩
    intro row member
    rw [List.mem_append, List.mem_reverse, not_or]
    refine ⟨fun before => ?_, fresh row (List.mem_append_right _ member)⟩
    exact distinct.2.2 _ before _ (List.mem_map_of_mem member) rfl
  · intro new
    obtain ⟨⟨fresh, distinct⟩, later, apart⟩ := new
    constructor
    · intro row member
      obtain member | member := List.mem_append.mp member
      · exact fresh row member
      · exact fun old => later row member (List.mem_append_right _ old)
    · rw [List.map_append, List.nodup_append]
      refine ⟨distinct, apart, ?_⟩
      intro name before other repeated same
      obtain ⟨row, member, rfl⟩ := List.mem_map.mp repeated
      apply later row member
      exact List.mem_append_left _ (List.mem_reverse.mpr (same ▸ before))

/-- One plan after another is new where the owners and the names of all are distinct. -/
theorem allNew_addPlan :
    Planned.AllNew JoinState.addPlan NewPlan state plans ↔
      (∀ plan ∈ plans, plan.owner ∉ state.owners) ∧ (plans.map EntryPlan.owner).Nodup ∧
        NewNames state.expectedNames (plans.flatMap EntryPlan.rows) := by
  induction plans generalizing state with
  | nil => exact ⟨fun _ => ⟨by simp, List.nodup_nil, by simp, List.nodup_nil⟩, fun _ => trivial⟩
  | cons plan rest ih =>
      rw [Planned.AllNew, ih, owners_addPlan, expectedNames_addPlan, List.flatMap_cons,
        newNames_append, List.map_cons, List.nodup_cons, List.forall_mem_cons]
      constructor
      · intro new
        obtain ⟨⟨here, names⟩, fresh, distinct, later⟩ := new
        refine ⟨⟨here, fun other member old => ?_⟩, ⟨fun repeated => ?_, distinct⟩, names, later⟩
        · exact fresh other member (List.mem_cons_of_mem _ old)
        · obtain ⟨other, member, same⟩ := List.mem_map.mp repeated
          exact fresh other member (same ▸ List.mem_cons_self)
      · intro new
        obtain ⟨⟨here, fresh⟩, ⟨apart, distinct⟩, names, later⟩ := new
        refine ⟨⟨here, names⟩, fun other member => ?_, distinct, later⟩
        rw [List.mem_cons, not_or]
        exact ⟨fun same => apart (same ▸ List.mem_map_of_mem member), fresh other member⟩

theorem clean_empty : JoinState.empty.Clean := ⟨rfl, rfl⟩

theorem clean_foldl_addPlan (clean : state.Clean) (plans : List EntryPlan) :
    (plans.foldl JoinState.addPlan state).Clean := by
  induction plans generalizing state with
  | nil => exact clean
  | cons plan rest ih => exact ih (clean_addPlan clean plan)

/-- The join of an inventory passes where it is joinable, with the rows of its plans. -/
theorem joinEntries_eq_ok :
    joinEntries inputs mapMember entries = .ok report ↔
      Joinable inputs mapMember entries ∧
        report = ((plansOf inputs mapMember entries).foldl JoinState.addPlan .empty).report
          inputs mapMember := by
  have turns : ∀ last : JoinState, last.Clean →
      (entries.foldlM (joinEntry inputs mapMember) .empty = .ok last ↔
        JoinState.empty.Clean ∧
        (∀ entry ∈ entries, (planOf inputs mapMember entry).isSome = true) ∧
        Planned.AllNew JoinState.addPlan NewPlan .empty (plansOf inputs mapMember entries) ∧
        last = (plansOf inputs mapMember entries).foldl JoinState.addPlan .empty) := by
    intro last clean
    refine Planned.foldlM_eq_ok ?_ ?_ clean
    · intro state entry last cleanly
      exact joinEntry_eq_ok cleanly
    · intro state plan cleanly
      exact clean_addPlan cleanly plan
  unfold joinEntries
  rw [bind_eq_ok]
  constructor
  · intro joined
    obtain ⟨last, folded, joined⟩ := joined
    obtain ⟨_, all, joined⟩ := bind_eq_ok.mp joined
    rw [refuseIf_eq_ok, not_or, not_not, not_not] at all
    obtain ⟨_, planned, new, rfl⟩ := (turns last all).mp folded
    obtain ⟨_, owners, names⟩ := allNew_addPlan.mp new
    cases joined
    exact ⟨⟨planned, owners, names.distinct⟩, rfl⟩
  · intro joinable
    obtain ⟨⟨planned, owners, names⟩, rfl⟩ := joinable
    have clean := clean_foldl_addPlan clean_empty (plansOf inputs mapMember entries)
    refine ⟨_, (turns _ clean).mpr ⟨clean_empty, planned, ?_, rfl⟩, ?_⟩
    · apply allNew_addPlan.mpr
      exact ⟨fun _ _ => List.not_mem_nil, owners, fun _ _ => List.not_mem_nil, names⟩
    · apply bind_eq_ok.mpr
      refine ⟨(), ?_, rfl⟩
      rw [refuseIf_eq_ok, not_or, not_not, not_not]
      exact clean

end AxolotyEmbedded.LinkedStorage
