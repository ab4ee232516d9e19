import AxolotyEmbedded.FirstInit.FrameWalks

/-!
One pass of the search of `analyze_frame`, with what it puts on the stack and what it finds
where it reports nothing, and the paths on the stack, by which the search ends.
-/
namespace AxolotyEmbedded.FirstInit

open PythonText PythonInt Checked

variable {ints : IntTables} {printable : Char → Bool} {fn : Function} {linkregReturn : Bool}
  {item : WorkItem} {state next : FrameState} {ins : Instruction} {index pc : Nat} {after : Int}

/-! ## One pass -/

/-- What following some addresses puts on the stack: an item for each of them that is not on
the path already. -/
structure Followed (after : Int) (path : List (Nat × Int)) (followed : List Nat)
    (state next : FrameState) (added : List WorkItem) : Prop where
  work : next.work = added ++ state.work
  few : added.length ≤ followed.length
  fresh : ∀ item ∈ added, item.pc ∈ followed ∧ item.delta = after ∧
    item.path = (item.pc, after) :: path ∧ path.lookup item.pc = none
  seen : next.seen = state.seen
  exits : next.exits = state.exits
  minDelta : next.minDelta = state.minDelta
  issues : state.issues <:+ next.issues
  complete : next.issues = [] → ∀ pc ∈ followed, path.lookup pc = some after ∨
    ∃ item ∈ added, item.pc = pc

theorem exists_followed {path : List (Nat × Int)} {followed : List Nat}
    (passed : followed.foldlM (follow ints pc after path) state = .ok next) :
    ∃ added, Followed after path followed state next added := by
  induction followed generalizing state with
  | nil =>
      obtain rfl := Except.ok.inj passed
      exact ⟨[], rfl, Nat.le_refl _, nofun, rfl, rfl, rfl, List.suffix_refl _, fun _ => nofun⟩
  | cons nextPc rest ih =>
      rw [List.foldlM_cons] at passed
      obtain ⟨middle, one, others⟩ := bind_eq_ok.mp passed
      obtain ⟨added, later⟩ := ih others
      rw [follow] at one
      cases onPath : path.lookup nextPc with
      | none =>
          rw [onPath] at one
          obtain rfl := Except.ok.inj one
          refine ⟨added ++ [⟨nextPc, after, (nextPc, after) :: path⟩], ?_, ?_, ?_, later.seen,
            later.exits, later.minDelta, later.issues, ?_⟩
          · rw [later.work, List.append_assoc, List.singleton_append]
          · have := later.few
            simp only [List.length_append, List.length_cons, List.length_nil]
            omega
          · intro item held
            obtain inside | single := List.mem_append.mp held
            · exact (later.fresh item inside).imp_left (List.mem_cons_of_mem _)
            · obtain rfl := List.mem_singleton.mp single
              exact ⟨List.mem_cons_self, rfl, rfl, onPath⟩
          · intro clean pc held
            obtain rfl | inside := List.mem_cons.mp held
            · exact .inr ⟨_, List.mem_append_right _ (List.mem_singleton_self _), rfl⟩
            · exact (later.complete clean pc inside).imp_right fun ⟨item, member, same⟩ =>
                ⟨item, List.mem_append_left _ member, same⟩
      | some earlier =>
          rw [onPath] at one
          have kept : ∃ new, middle = { state with issues := new } ∧ state.issues <:+ new ∧
              (new = [] → earlier = after) := by
            dsimp only at one
            split at one
            · next same =>
                obtain rfl := Except.ok.inj one
                exact ⟨_, rfl, List.suffix_refl _, fun _ => same⟩
            · obtain ⟨_, -, _, -, built⟩ := by simpa only [bind_eq_ok] using one
              obtain rfl := Except.ok.inj built
              exact ⟨_, rfl, List.suffix_cons _ _, nofun⟩
          obtain ⟨new, rfl, grown, same⟩ := kept
          refine ⟨added, later.work, Nat.le_succ_of_le later.few, ?_, later.seen, later.exits,
            later.minDelta, grown.trans later.issues, ?_⟩
          · exact fun item held => (later.fresh item held).imp_left (List.mem_cons_of_mem _)
          · intro clean pc held
            obtain rfl | inside := List.mem_cons.mp held
            · refine .inl (onPath.trans (congrArg some (same ?_)))
              exact List.suffix_nil.mp (clean ▸ later.issues)
            · exact later.complete clean pc inside

/-- Only the issues change. -/
theorem issueIf_spec (state : FrameState) (found : Bool) (pc : Nat) (text : Str) :
    ∃ new, state.issueIf found pc text = { state with issues := new } ∧ state.issues <:+ new ∧
      (new = [] → found = false) := by
  cases found with
  | false => exact ⟨_, rfl, List.suffix_refl _, fun _ => rfl⟩
  | true => exact ⟨_, rfl, List.suffix_cons _ _, nofun⟩

theorem leave_spec {isExit : Bool} (passed : state.leave ints pc isExit after = .ok next) :
    ∃ new, next = { state with
        exits := if isExit then state.exits + 1 else state.exits
        issues := new } ∧
      state.issues <:+ new ∧ (new = [] → isExit = true → after = 0) := by
  rw [FrameState.leave] at passed
  cases isExit with
  | false =>
      obtain rfl := Except.ok.inj passed
      exact ⟨_, rfl, List.suffix_refl _, nofun⟩
  | true =>
      rw [if_pos rfl] at passed
      split at passed
      · next zero =>
          obtain rfl := Except.ok.inj passed
          exact ⟨_, rfl, List.suffix_refl _, fun _ _ => zero⟩
      · obtain ⟨text, -, built⟩ := bind_eq_ok.mp passed
        obtain rfl := Except.ok.inj built
        exact ⟨_, rfl, List.suffix_cons _ _, nofun⟩

/-- What a pass finds at an instruction where it reports nothing. -/
structure Explored (ints : IntTables) (fn : Function) (item : WorkItem) (state next : FrameState)
    (added : List WorkItem) (index : Nat) (ins : Instruction) (succession : Succession) : Prop where
  here : fn.instructions[index]? = some ins
  address : ins.address = item.pc
  step : (stackStep ints ins).isSome = true
  edges : Edges fn index ins succession
  restored : succession.isExit = true → item.delta + spChange ints ins = 0
  exits : next.exits = if succession.isExit then state.exits + 1 else state.exits
  lowest : next.minDelta = if item.delta + spChange ints ins < state.minDelta then
    item.delta + spChange ints ins else state.minDelta
  deltas : ∀ b ∈ added, b.delta = item.delta + spChange ints ins ∧ b.pc ∈ succession.next
  complete : ∀ pc ∈ succession.next, item.path.lookup pc = some (item.delta + spChange ints ins) ∨
    ∃ b ∈ added, b.pc = pc

/-- A pass over an item that was not seen before. -/
structure Visited (ints : IntTables) (fn : Function) (item : WorkItem) (state next : FrameState)
    (added : List WorkItem) : Prop where
  work : next.work = added ++ state.work
  few : added.length ≤ 2
  fresh : ∀ b ∈ added, b.pc ∈ startsOf fn ∧ b.path = (b.pc, b.delta) :: item.path ∧
    item.path.lookup b.pc = none
  seen : next.seen = state.seen
  issues : state.issues <:+ next.issues
  explored : next.issues = [] → ∃ index ins succession,
    Explored ints fn item state next added index ins succession

theorem mem_of_indexByPc (found : (indexByPc fn).get? pc = some index) :
    ∃ ins, fn.instructions[index]? = some ins ∧ ins.address = pc := by
  rw [indexByPc, Dict.get?_update, Dict.get?_empty, Option.or_none,
    List.lookup_eq_some_iff] at found
  obtain ⟨before, later, split, -⟩ := found
  have held : (pc, index) ∈ fn.instructions.zipIdx.map fun entry => (entry.1.address, entry.2) := by
    rw [← List.mem_reverse, split]
    exact List.mem_append_right _ List.mem_cons_self
  obtain ⟨entry, member, same⟩ := List.mem_map.mp held
  obtain ⟨rfl, rfl⟩ := Prod.ext_iff.mp same
  exact ⟨entry.1, List.mem_zipIdx_iff_getElem?.mp member, rfl⟩

theorem visitStep_spec (here : fn.instructions[index]? = some ins) (address : ins.address = item.pc)
    (step : (stackStep ints ins).isSome = true)
    (passed : visitStep ints printable fn linkregReturn index ins item
      (item.delta + spChange ints ins) state = .ok next) :
    ∃ added, Visited ints fn item state next added := by
  rw [visitStep] at passed
  split at passed
  · obtain rfl := Except.ok.inj passed
    exact ⟨[], rfl, by decide, nofun, rfl, List.suffix_cons _ _, nofun⟩
  · obtain ⟨succession, found, rest⟩ := bind_eq_ok.mp passed
    obtain ⟨reported, same, grown, quiet⟩ := issueIf_spec
      (state.lower (item.delta + spChange ints ins)) succession.problem.isSome item.pc
      (succession.problem.getD [] ++ ": ".toList ++ ins.text)
    rw [same] at rest
    obtain ⟨left, leaving, others⟩ := bind_eq_ok.mp rest
    obtain ⟨new, rfl, more, restored⟩ := leave_spec leaving
    obtain ⟨added, followed⟩ := exists_followed others
    have issues : state.issues <:+ next.issues := grown.trans (more.trans followed.issues)
    obtain stopped | edges := frameSuccessors_cases found
    · have none : added = [] := by
        have few := followed.few
        rw [stopped.next] at few
        exact List.length_eq_zero_iff.mp (Nat.le_zero.mp few)
      subst none
      refine ⟨[], followed.work, by decide, nofun, followed.seen, issues, fun clean => ?_⟩
      have silent : reported = [] := List.suffix_nil.mp (clean ▸ more.trans followed.issues)
      have problem := Option.isSome_iff_ne_none.mpr stopped.problem
      rw [quiet silent] at problem
      cases problem
    · refine ⟨added, followed.work, Nat.le_trans followed.few edges.length_le, ?_, followed.seen,
        issues, fun clean => ?_⟩
      · intro b held
        obtain ⟨member, delta, path, absent⟩ := followed.fresh b held
        obtain ⟨there, same, follows⟩ := edges.sound here member
        exact ⟨same ▸ List.mem_map_of_mem follows.mem, delta ▸ path, absent⟩
      · have silent : new = [] := List.suffix_nil.mp (clean ▸ followed.issues)
        exact ⟨index, ins, succession, here, address, step, edges, restored silent,
          followed.exits, followed.minDelta, fun b held =>
            ⟨(followed.fresh b held).2.1, (followed.fresh b held).1⟩, followed.complete clean⟩

theorem visit_spec (passed : visit ints printable fn linkregReturn item state = .ok next) :
    ∃ added, Visited ints fn item state next added := by
  rw [visit] at passed
  obtain ⟨index, found, rest⟩ := bind_eq_ok.mp passed
  obtain ⟨ins, held, rest⟩ := bind_eq_ok.mp rest
  rw [orRaise_eq_ok] at found held
  obtain ⟨_, here, address⟩ := mem_of_indexByPc found
  obtain rfl := Option.some.inj (held.symm.trans here)
  rw [visitInstruction] at rest
  obtain ⟨new, same, grown, -⟩ := issueIf_spec state (writesRa ins) item.pc
    ("link-register write/return convention is not proven: ".toList ++ ins.text)
  rw [same] at rest
  cases change : stackStep ints ins with
  | none =>
      rw [change] at rest
      obtain rfl := Except.ok.inj rest
      exact ⟨[], rfl, by decide, nofun, rfl, grown.trans (List.suffix_cons _ _), nofun⟩
  | some step =>
      rw [change] at rest
      have known : (stackStep ints ins).isSome = true := by rw [change]; rfl
      have same : step = spChange ints ins := by rw [spChange, change]; rfl
      obtain ⟨added, visited⟩ := visitStep_spec here address known (same ▸ rest)
      exact ⟨added, visited.work, visited.few, visited.fresh, visited.seen,
        grown.trans visited.issues, fun clean => by
          obtain ⟨index, ins, succession, explored⟩ := visited.explored clean
          exact ⟨index, ins, succession, explored.here, explored.address, explored.step,
            explored.edges, explored.restored, explored.exits, explored.lowest, explored.deltas,
            explored.complete⟩⟩

/-! ## The search ends -/

/-- The addresses on a path are distinct ones of the function. -/
structure Bounded (fn : Function) (state : FrameState) : Prop where
  distinct : ∀ item ∈ state.work, (item.path.map Prod.fst).Nodup
  inside : ∀ item ∈ state.work, ∀ e ∈ item.path, e.1 ∈ startsOf fn

def frameWeight (fn : Function) (state : FrameState) : Nat :=
  Loop.weight (fun item => item.path.length) fn.instructions.length state.work

theorem framePass_cases (passed : framePass ints printable fn linkregReturn state = some (.ok next)) :
    ∃ item work, state.work = item :: work ∧
      (((item.pc, item.delta) ∈ state.seen ∧ next = { state with work }) ∨
        ∃ added, Visited ints fn item
          { state with work, seen := (item.pc, item.delta) :: state.seen } next added) := by
  rw [framePass] at passed
  split at passed
  · cases passed
  · next item work top =>
      refine ⟨item, work, top, ?_⟩
      have result := Option.some.inj passed
      split at result
      · next known => exact .inl ⟨known, (Except.ok.inj result).symm⟩
      · exact .inr (visit_spec result)

theorem Bounded.pass (bounded : Bounded fn state)
    (passed : framePass ints printable fn linkregReturn state = some (.ok next)) :
    Bounded fn next := by
  obtain ⟨item, work, top, ⟨-, rfl⟩ | ⟨added, visited⟩⟩ := framePass_cases passed
  · exact ⟨fun other held => bounded.distinct other (top ▸ List.mem_cons_of_mem _ held),
      fun other held => bounded.inside other (top ▸ List.mem_cons_of_mem _ held)⟩
  · have here : item ∈ state.work := top ▸ List.mem_cons_self
    constructor
    · intro other held
      obtain new | old := List.mem_append.mp (visited.work ▸ held)
      · obtain ⟨-, path, absent⟩ := visited.fresh other new
        rw [path, List.map_cons, List.nodup_cons]
        refine ⟨fun onPath => ?_, bounded.distinct item here⟩
        obtain ⟨e, member, same⟩ := List.mem_map.mp onPath
        exact absurd (List.lookup_eq_none_iff.mp absent e member) (by simp [same])
      · exact bounded.distinct other (top ▸ List.mem_cons_of_mem _ old)
    · intro other held e onPath
      obtain new | old := List.mem_append.mp (visited.work ▸ held)
      · obtain ⟨inside, path, -⟩ := visited.fresh other new
        obtain rfl | earlier := List.mem_cons.mp (path ▸ onPath)
        · exact inside
        · exact bounded.inside item here e earlier
      · exact bounded.inside other (top ▸ List.mem_cons_of_mem _ old) e onPath

/-- A pass takes one path from the stack and puts at most two longer ones back. -/
theorem Bounded.weight_lt (bounded : Bounded fn state)
    (passed : framePass ints printable fn linkregReturn state = some (.ok next)) :
    frameWeight fn next < frameWeight fn state := by
  have after := bounded.pass passed
  obtain ⟨item, work, top, ⟨-, rfl⟩ | ⟨added, visited⟩⟩ := framePass_cases passed
  · have positive : 0 < Nat.pow 3 (fn.instructions.length - item.path.length) :=
      Nat.pow_pos (by decide)
    simp only [frameWeight, top, Loop.weight]
    omega
  · have lighter : Loop.weight (fun item => item.path.length) fn.instructions.length added <
        Nat.pow 3 (fn.instructions.length - item.path.length) := by
      cases added with
      | nil => exact Nat.pow_pos (by decide)
      | cons first rest =>
          have held : first ∈ next.work := visited.work ▸ List.mem_cons_self
          have few := (List.Nodup.subperm (after.distinct first held) fun pc onPath => by
            obtain ⟨e, member, rfl⟩ := List.mem_map.mp onPath
            exact after.inside first held e member).length_le
          have longer : ∀ b ∈ first :: rest, b.path.length = item.path.length + 1 := by
            intro b new
            rw [(visited.fresh b new).2.1, List.length_cons]
          have same := longer first List.mem_cons_self
          simp only [List.length_map, startsOf] at few
          exact Loop.weight_lt visited.few (by omega) longer
    simp only [frameWeight, top, visited.work, Loop.weight, Loop.weight_append]
    omega

theorem beginFrame_bounded {first : Instruction} {rest : List Instruction} (begun : fn.instructions = first :: rest) :
    Bounded fn (beginFrame fn first) := by
  have single : ∀ item ∈ (beginFrame fn first).work, item.path = [(first.address, 0)] := by
    intro item held
    rw [List.mem_singleton.mp held]
  constructor
  · intro item held
    rw [single item held]
    exact List.nodup_singleton _
  · intro item held e onPath
    rw [single item held] at onPath
    rw [List.mem_singleton.mp onPath]
    exact List.mem_map_of_mem (begun ▸ List.mem_cons_self)

/-- For every function the analysis ends. -/
theorem exists_analyzeFrame (ints : IntTables) (printable : Char → Bool) (fn : Function)
    (linkregReturn : Bool) :
    ∃ fuel ended, analyzeFrame ints printable fuel fn linkregReturn = some ended := by
  cases begun : fn.instructions with
  | nil => exact ⟨0, _, by rw [analyzeFrame, begun]⟩
  | cons first rest =>
      obtain ⟨fuel, result, ended⟩ := Loop.exists_run (frameWeight fn)
        (fun _ _ bounded passed => Bounded.pass bounded passed)
        (fun _ _ bounded passed => Bounded.weight_lt bounded passed) (beginFrame_bounded begun)
      refine ⟨fuel, result.map (frameReport fn), ?_⟩
      rw [analyzeFrame, begun]
      exact congrArg (Option.map _) ended

end AxolotyEmbedded.FirstInit
