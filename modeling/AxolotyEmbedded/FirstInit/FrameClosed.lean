import AxolotyEmbedded.FirstInit.FrameSearch

/-!
Where `analyze_frame` reports nothing, the addresses that its search has seen, each with the
stack pointer before it, are those of the walks through the function.
-/
namespace AxolotyEmbedded.FirstInit

open PythonText PythonInt Checked

variable {ints : IntTables} {printable : Char → Bool} {fn : Function} {linkregReturn : Bool}
  {item : WorkItem} {state next : FrameState} {first ins : Instruction} {index pc : Nat}
  {delta : Int}

/-! ## What the search has seen -/

/-- Seen, or waiting on the stack. -/
def Known (state : FrameState) (pc : Nat) (delta : Int) : Prop :=
  (pc, delta) ∈ state.seen ∨ ∃ item ∈ state.work, item.pc = pc ∧ item.delta = delta

/-- A seen address: an instruction of a walk, of which all successors are known. -/
structure Expanded (ints : IntTables) (fn : Function) (state : FrameState) (pc : Nat) (delta : Int)
    (index : Nat) (ins : Instruction) (succession : Succession) : Prop where
  here : fn.instructions[index]? = some ins
  address : ins.address = pc
  walk : Walk ints fn ins delta
  step : (stackStep ints ins).isSome = true
  edges : Edges fn index ins succession
  restored : succession.isExit = true → delta + spChange ints ins = 0
  lowest : state.minDelta ≤ delta + spChange ints ins
  next : ∀ pc ∈ succession.next, Known state pc (delta + spChange ints ins)

/-- A search without issues so far. -/
structure Searched (ints : IntTables) (fn : Function) (first : Instruction) (state : FrameState) :
    Prop where
  begun : Known state first.address 0
  paths : ∀ item ∈ state.work, ∀ e ∈ item.path, e = (item.pc, item.delta) ∨ e ∈ state.seen
  waiting : ∀ item ∈ state.work, ∃ ins, ins.address = item.pc ∧ Walk ints fn ins item.delta
  expanded : ∀ pc delta, (pc, delta) ∈ state.seen → ∃ index ins succession,
    Expanded ints fn state pc delta index ins succession
  negative : state.minDelta ≤ 0
  lowest : state.minDelta = 0 ∨
    ∃ ins delta, Walk ints fn ins delta ∧ delta + spChange ints ins = state.minDelta
  exits : 0 < state.exits → ∃ ins delta, Walk ints fn ins delta ∧ delta + spChange ints ins = 0

theorem eq_of_address (distinct : (startsOf fn).Nodup) {other : Instruction}
    (member : ins ∈ fn.instructions) (otherMember : other ∈ fn.instructions)
    (same : ins.address = other.address) : ins = other :=
  List.inj_on_of_nodup_map distinct member otherMember same

theorem Expanded.mono {succession : Succession}
    (expanded : Expanded ints fn state pc delta index ins succession)
    (lower : next.minDelta ≤ state.minDelta)
    (known : ∀ pc delta, Known state pc delta → Known next pc delta) :
    Expanded ints fn next pc delta index ins succession :=
  { expanded with
    lowest := Int.le_trans lower expanded.lowest
    next := fun pc held => known _ _ (expanded.next pc held) }

/-- An item that was seen before is dropped. -/
theorem Searched.drop (searched : Searched ints fn first state) {work : List WorkItem}
    (top : state.work = item :: work) (known : (item.pc, item.delta) ∈ state.seen) :
    Searched ints fn first { state with work } := by
  have kept : ∀ pc delta, Known state pc delta → Known { state with work } pc delta := by
    rintro pc delta (seen | ⟨other, held, rfl, rfl⟩)
    · exact .inl seen
    · obtain rfl | rest := List.mem_cons.mp (top ▸ held)
      · exact .inl known
      · exact .inr ⟨other, rest, rfl, rfl⟩
  exact
    { begun := kept _ _ searched.begun
      paths := fun other held => searched.paths other (top ▸ List.mem_cons_of_mem _ held)
      waiting := fun other held => searched.waiting other (top ▸ List.mem_cons_of_mem _ held)
      expanded := fun pc delta seen => by
        obtain ⟨index, ins, succession, expanded⟩ := searched.expanded pc delta seen
        exact ⟨index, ins, succession, expanded.mono (Int.le_refl _) kept⟩
      negative := searched.negative
      lowest := searched.lowest
      exits := searched.exits }

/-- An item that was not seen before is expanded. -/
theorem Searched.visit (searched : Searched ints fn first state) (distinct : (startsOf fn).Nodup)
    {work added : List WorkItem} (top : state.work = item :: work)
    (visited : Visited ints fn item
      { state with work, seen := (item.pc, item.delta) :: state.seen } next added)
    (clean : next.issues = []) : Searched ints fn first next := by
  obtain ⟨index, ins, succession, explored⟩ := visited.explored clean
  have here : item ∈ state.work := top ▸ List.mem_cons_self
  have walk : Walk ints fn ins item.delta := by
    obtain ⟨other, address, walk⟩ := searched.waiting item here
    obtain rfl := eq_of_address distinct (List.mem_of_getElem? explored.here) walk.mem
      (explored.address.trans address.symm)
    exact walk
  have kept : ∀ pc delta, Known state pc delta → Known next pc delta := by
    rintro pc delta (seen | ⟨other, held, rfl, rfl⟩)
    · exact .inl (visited.seen ▸ List.mem_cons_of_mem _ seen)
    · obtain rfl | rest := List.mem_cons.mp (top ▸ held)
      · exact .inl (visited.seen ▸ List.mem_cons_self)
      · exact .inr ⟨other, visited.work ▸ List.mem_append_right _ rest, rfl, rfl⟩
  have lower : next.minDelta ≤ state.minDelta ∧
      next.minDelta ≤ item.delta + spChange ints ins := by
    have lowest : next.minDelta = if item.delta + spChange ints ins < state.minDelta then
      item.delta + spChange ints ins else state.minDelta := explored.lowest
    split at lowest <;> omega
  have onPath : ∀ e ∈ item.path, e ∈ next.seen := by
    intro e held
    rw [visited.seen]
    exact List.mem_cons.mpr (searched.paths item here e held)
  constructor
  case begun => exact kept _ _ searched.begun
  case paths =>
    intro other held e inside
    obtain new | old := List.mem_append.mp (visited.work ▸ held)
    · obtain ⟨-, path, -⟩ := visited.fresh other new
      exact (List.mem_cons.mp (path ▸ inside)).imp_right (onPath e)
    · have member : other ∈ state.work := top ▸ List.mem_cons_of_mem _ old
      refine (searched.paths other member e inside).imp_right fun seen => ?_
      exact visited.seen ▸ List.mem_cons_of_mem _ seen
  case waiting =>
    intro other held
    obtain new | old := List.mem_append.mp (visited.work ▸ held)
    · obtain ⟨same, followed⟩ := explored.deltas other new
      obtain ⟨there, address, follows⟩ := explored.edges.sound explored.here followed
      exact ⟨there, address, same ▸ walk.next follows⟩
    · exact searched.waiting other (top ▸ List.mem_cons_of_mem _ old)
  case expanded =>
    intro pc delta seen
    rw [visited.seen] at seen
    obtain same | before := List.mem_cons.mp seen
    · obtain ⟨rfl, rfl⟩ := Prod.ext_iff.mp same
      refine ⟨index, ins, succession, explored.here, explored.address, walk, explored.step,
        explored.edges, explored.restored, lower.2, fun pc held => ?_⟩
      obtain earlier | ⟨b, new, rfl⟩ := explored.complete pc held
      · obtain ⟨before, later, split, -⟩ := List.lookup_eq_some_iff.mp earlier
        exact .inl (onPath _ (split ▸ List.mem_append_right _ List.mem_cons_self))
      · exact .inr ⟨b, visited.work ▸ List.mem_append_left _ new, rfl, (explored.deltas b new).1⟩
    · obtain ⟨index, ins, succession, expanded⟩ := searched.expanded pc delta before
      exact ⟨index, ins, succession, expanded.mono lower.1 kept⟩
  case negative => exact Int.le_trans lower.1 searched.negative
  case lowest =>
    have lowest := explored.lowest
    split at lowest
    · exact .inr ⟨ins, item.delta, walk, lowest.symm⟩
    · rw [lowest]
      exact searched.lowest
  case exits =>
    intro some'
    have exits := explored.exits
    split at exits
    · next isExit => exact ⟨ins, item.delta, walk, explored.restored isExit⟩
    · exact searched.exits (exits ▸ some')

theorem Searched.pass (searched : state.issues = [] → Searched ints fn first state)
    (distinct : state.issues = [] → (startsOf fn).Nodup)
    (passed : framePass ints printable fn linkregReturn state = some (.ok next))
    (clean : next.issues = []) : Searched ints fn first next := by
  obtain ⟨item, work, top, ⟨known, rfl⟩ | ⟨added, visited⟩⟩ := framePass_cases passed
  · exact (searched clean).drop top known
  · have before : state.issues = [] := List.suffix_nil.mp (clean ▸ visited.issues)
    exact (searched before).visit (distinct before) top visited clean

/-! ## The frame of a function -/

theorem beginFrame_searched {rest : List Instruction} (begun : fn.instructions = first :: rest) :
    Searched ints fn first (beginFrame fn first) where
  begun := .inr ⟨_, List.mem_singleton_self _, rfl, rfl⟩
  paths := by
    intro item held e onPath
    obtain rfl := List.mem_singleton.mp held
    exact .inl (List.mem_singleton.mp onPath)
  waiting := by
    intro item held
    obtain rfl := List.mem_singleton.mp held
    exact ⟨first, rfl, .first begun⟩
  expanded := nofun
  negative := Int.le_refl _
  lowest := .inl rfl
  exits := nofun

theorem distinct_of_layoutIssues (clean : layoutIssues fn first = []) : (startsOf fn).Nodup := by
  by_contra duplicate
  rw [layoutIssues, if_neg duplicate] at clean
  cases clean

/-- Issues only grow. -/
theorem framePass_issues (passed : framePass ints printable fn linkregReturn state = some (.ok next)) :
    state.issues <:+ next.issues := by
  obtain ⟨item, work, top, ⟨-, rfl⟩ | ⟨added, visited⟩⟩ := framePass_cases passed
  · exact List.suffix_refl _
  · exact visited.issues

theorem issues_of_unresolved (resolved : (frameReport fn state).unresolved = []) :
    state.issues = [] ∧ 0 < state.exits := by
  obtain ⟨new, same, grown, quiet⟩ := issueIf_spec state (state.exits = 0) fn.start
    "no proven return path".toList
  have none : new = [] := by
    refine List.eq_nil_iff_forall_not_mem.mpr fun text held => ?_
    have member : text ∈ (frameReport fn state).unresolved := by
      rw [frameReport, same, List.mem_insertionSort, List.mem_dedup]
      exact held
    rw [resolved] at member
    cases member
  have some' := of_decide_eq_false (quiet none)
  exact ⟨List.suffix_nil.mp (none ▸ grown), Nat.pos_of_ne_zero some'⟩

/-- What is known of an analysis without unresolved items. -/
theorem searched_of_analyzeFrame {fuel : Nat} {report : FrameReport}
    (ended : analyzeFrame ints printable fuel fn linkregReturn = some (.ok report))
    (resolved : report.unresolved = []) :
    ∃ first rest state, fn.instructions = first :: rest ∧ report = frameReport fn state ∧
      (startsOf fn).Nodup ∧ Searched ints fn first state ∧ state.work = [] ∧ 0 < state.exits := by
  cases begun : fn.instructions with
  | nil =>
      rw [analyzeFrame, begun] at ended
      obtain rfl := Except.ok.inj (Option.some.inj ended)
      cases resolved
  | cons first rest =>
      rw [analyzeFrame, begun] at ended
      obtain ⟨result, ran, mapped⟩ := Option.map_eq_some_iff.mp ended
      cases result with
      | error error => cases mapped
      | ok state =>
          obtain rfl := Except.ok.inj mapped
          obtain ⟨clean, some'⟩ := issues_of_unresolved resolved
          have distinct : ∀ other : FrameState, layoutIssues fn first <:+ other.issues →
              other.issues = [] → (startsOf fn).Nodup := fun other grown none =>
            distinct_of_layoutIssues (List.suffix_nil.mp (none ▸ grown))
          have kept : ∀ before after : FrameState, (layoutIssues fn first <:+ before.issues ∧
              (before.issues = [] → Searched ints fn first before)) →
                framePass ints printable fn linkregReturn before = some (.ok after) →
                  layoutIssues fn first <:+ after.issues ∧
                    (after.issues = [] → Searched ints fn first after) := by
            rintro before after ⟨grown, searched⟩ passed
            exact ⟨grown.trans (framePass_issues passed),
              Searched.pass searched (distinct before grown) passed⟩
          obtain ⟨⟨grown, searched⟩, left⟩ := Loop.run_invariant kept
            ⟨List.suffix_refl _, fun _ => beginFrame_searched begun⟩ ran
          refine ⟨first, rest, state, rfl, rfl, distinct state grown clean, searched clean, ?_, some'⟩
          rw [framePass] at left
          split at left
          · assumption
          · cases left

/-- Every walk is seen. -/
theorem expanded_of_walk {rest : List Instruction} (begun : fn.instructions = first :: rest)
    (distinct : (startsOf fn).Nodup) (searched : Searched ints fn first state)
    (done : state.work = []) (walk : Walk ints fn ins delta) :
    ∃ index succession, Expanded ints fn state ins.address delta index ins succession := by
  have seen : ∀ {pc delta}, Known state pc delta → (pc, delta) ∈ state.seen := by
    rintro pc delta (seen | ⟨item, held, -⟩)
    · exact seen
    · rw [done] at held
      cases held
  have unique : ∀ {ins delta}, ins ∈ fn.instructions → (ins.address, delta) ∈ state.seen →
      ∃ index succession, Expanded ints fn state ins.address delta index ins succession := by
    intro ins delta member known
    obtain ⟨index, other, succession, expanded⟩ := searched.expanded _ _ known
    obtain rfl := eq_of_address distinct expanded.walk.mem member expanded.address
    exact ⟨index, succession, expanded⟩
  induction walk with
  | first start =>
      obtain ⟨rfl, -⟩ := List.cons.inj (begun.symm.trans start)
      exact unique (begun ▸ List.mem_cons_self) (seen searched.begun)
  | next walk follows ih =>
      obtain ⟨index, succession, expanded⟩ := ih
      have followed := expanded.edges.complete distinct expanded.here follows
      exact unique follows.mem (seen (expanded.next _ followed))

/-- A walk that the analysis does not follow closely: out of the function by a jump without
link at another stack pointer, or through a `c.addi16sp` that names no `sp`. -/
def Astray (ints : IntTables) (fn : Function) : Prop :=
  ∃ ins delta, Walk ints fn ins delta ∧
    ((ins.IsZeroLink ∧ JumpsOut fn ins ∧ delta + spChange ints ins ≠ 0) ∨
      (ins.mnemonic = "c.addi16sp".toList ∧ ins.destination ≠ "sp".toList))

/-- The analysis ends for every function, and where it leaves nothing unresolved its frame is
that of all walks, unless one of them goes astray. -/
theorem frameClosed_iff (ints : IntTables) (printable : Char → Bool) (fn : Function)
    (linkregReturn : Bool) :
    (∃ fuel ended, analyzeFrame ints printable fuel fn linkregReturn = some ended) ∧
      ∀ fuel report, analyzeFrame ints printable fuel fn linkregReturn = some (.ok report) →
        report.unresolved = [] → ∃ frameBytes, report.frameBytes = some frameBytes ∧
          (FrameClosed ints fn frameBytes ↔ ¬Astray ints fn) := by
  refine ⟨exists_analyzeFrame ints printable fn linkregReturn, fun fuel report ended resolved => ?_⟩
  obtain ⟨first, rest, state, begun, rfl, distinct, searched, done, some'⟩ :=
    searched_of_analyzeFrame ended resolved
  refine ⟨-state.minDelta, if_pos searched.negative, fun closed => ?_, fun direct => ?_⟩
  · rintro ⟨ins, delta, walk, ⟨link, out, changed⟩ | ⟨implicit, unnamed⟩⟩
    · exact changed (closed.leaving ins delta walk (.inr ⟨.inr link, out⟩))
    · exact unnamed (closed.modelled ins delta walk (.inr implicit)).1
  · constructor
    case bounded =>
      intro ins delta walk
      obtain ⟨index, succession, expanded⟩ := expanded_of_walk begun distinct searched done walk
      have := expanded.lowest
      omega
    case attained =>
      obtain zero | ⟨ins, delta, walk, attained⟩ := searched.lowest
      · obtain ⟨ins, delta, walk, restored⟩ := searched.exits some'
        exact ⟨ins, delta, walk, by omega⟩
      · exact ⟨ins, delta, walk, by omega⟩
    case modelled =>
      intro ins delta walk writes
      obtain ⟨index, succession, expanded⟩ := expanded_of_walk begun distinct searched done walk
      refine ⟨?_, expanded.step⟩
      by_contra unnamed
      exact direct ⟨ins, delta, walk, .inr ⟨writes.resolve_left unnamed, unnamed⟩⟩
    case leaving =>
      intro ins delta walk leaves
      obtain ⟨index, succession, expanded⟩ := expanded_of_walk begun distinct searched done walk
      obtain isExit | link := expanded.edges.isExit leaves
      · exact expanded.restored isExit
      · by_contra changed
        obtain returns | ⟨-, out⟩ := leaves
        · exact not_isJump_of_isReturn returns (.inr link)
        · exact direct ⟨ins, delta, walk, .inl ⟨link, out, changed⟩⟩

/-! ## Small functions -/

def smallInstruction (address : Nat) (mnemonic operands : String) (target : Option Nat) :
    Instruction where
  address := address
  mnemonic := mnemonic.toList
  operands := operands.toList
  target := target
  text := mnemonic.toList
  size := 4
  encoding := none

def smallFunction (instructions : List Instruction) : Function where
  name := "small".toList
  start := 0x100
  size := 4 * instructions.length
  instructions := instructions
  symbolSizes := ∅
  symbolKinds := ∅

def plainInts : IntTables := ⟨fun _ => none, 4300⟩

/-- A frame of 16 bytes that is given back. -/
def framedFunction : Function := smallFunction
  [smallInstruction 0x100 "addi" "sp,sp,-16" none, smallInstruction 0x104 "addi" "sp,sp,16" none,
    smallInstruction 0x108 "ret" "" none]

def skipReturn : Instruction := smallInstruction 0x100 "beqz" "a0,108 <small+0x8>" (some 0x108)

def pushFrame : Instruction := smallInstruction 0x108 "addi" "sp,sp,-16" none

def tailJump : Instruction := smallInstruction 0x10C "jal" "zero,2000 <other>" (some 0x2000)

/-- A frame of 16 bytes that is kept at a jump out of the function. -/
def tailFunction : Function := smallFunction
  [skipReturn, smallInstruction 0x104 "ret" "" none, pushFrame, tailJump]

theorem exists_report {fuel frameBytes : Nat}
    (ran : (analyzeFrame plainInts (fun _ => false) fuel fn false).map (fun ended =>
      ended.toOption.map fun report => (report.frameBytes, report.unresolved)) =
        some (some (some (frameBytes : Int), []))) :
    ∃ report, analyzeFrame plainInts (fun _ => false) fuel fn false = some (.ok report) ∧
      report.unresolved = [] ∧ report.frameBytes = some (frameBytes : Int) := by
  obtain ⟨ended, same, found⟩ := Option.map_eq_some_iff.mp ran
  obtain ⟨report, closed, same'⟩ := Option.map_eq_some_iff.mp found
  obtain ⟨frame, unresolved⟩ := Prod.ext_iff.mp same'
  exact ⟨report, toOption_eq_some.mp closed ▸ same, unresolved, frame⟩

theorem frameClosed_iff_framed :
    ∃ report, analyzeFrame plainInts (fun _ => false) 10 framedFunction false = some (.ok report) ∧
      report.frameBytes = some 16 ∧ FrameClosed plainInts framedFunction 16 := by
  obtain ⟨report, ended, resolved, frame⟩ :=
    @exists_report framedFunction 10 16 (by decide +kernel)
  obtain ⟨frameBytes, same, closed⟩ := (frameClosed_iff plainInts (fun _ => false) framedFunction
    false).2 10 report ended resolved
  obtain rfl := Option.some.inj (frame.symm.trans same)
  refine ⟨report, ended, frame, closed.mpr ?_⟩
  have kinds : ∀ ins ∈ framedFunction.instructions,
      ins.mnemonic ∉ linkJumps ∧ ins.mnemonic ≠ "c.addi16sp".toList := by decide +kernel
  rintro ⟨ins, delta, walk, ⟨link, -⟩ | ⟨implicit, -⟩⟩
  · exact (kinds ins walk.mem).1 link.1
  · exact (kinds ins walk.mem).2 implicit

/-- The jump without link is not taken for an exit: nothing is reported. -/
theorem not_frameClosed_tail :
    ∃ report, analyzeFrame plainInts (fun _ => false) 10 tailFunction false = some (.ok report) ∧
      report.unresolved = [] ∧ report.frameBytes = some 16 ∧
        ¬FrameClosed plainInts tailFunction 16 := by
  obtain ⟨report, ended, resolved, frame⟩ := @exists_report tailFunction 10 16 (by decide +kernel)
  refine ⟨report, ended, resolved, frame, fun closed => ?_⟩
  have start : Walk plainInts tailFunction skipReturn 0 := .first rfl
  have taken : Walk plainInts tailFunction pushFrame (0 + spChange plainInts skipReturn) :=
    start.next (.branch (by decide +kernel) (by decide +kernel) rfl)
  have falls : pushFrame.FallsThrough :=
    ⟨by decide +kernel, by decide +kernel, not_or.mpr
      ⟨by decide +kernel, fun link => absurd link.1 (by decide +kernel)⟩,
      fun tail => absurd tail.1 (by decide +kernel)⟩
  have jumps : Walk plainInts tailFunction tailJump
      (0 + spChange plainInts skipReturn + spChange plainInts pushFrame) :=
    taken.next (@Follows.fallthrough tailFunction _ _ falls 2 rfl rfl rfl)
  have leaves : Leaves tailFunction tailJump :=
    .inr ⟨.inr ⟨by decide +kernel, by decide +kernel⟩, 0x2000, rfl, by decide +kernel⟩
  have restored := closed.leaving tailJump _ jumps leaves
  have kept : 0 + spChange plainInts skipReturn + spChange plainInts pushFrame +
      spChange plainInts tailJump = -16 := by decide +kernel
  rw [kept] at restored
  cases restored

end AxolotyEmbedded.FirstInit
