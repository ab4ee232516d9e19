import AxolotyEmbedded.FirstInit.FrameSearch

/-!
Where `analyze_frame` raises: a number in one of its messages has more decimal digits than
the interpreter allows.
-/
namespace AxolotyEmbedded.FirstInit

open PythonText PythonInt Checked

/-- An instruction whose successors a pass asks for. -/
structure Expanding (ints : IntTables) (fn : Function) (item : WorkItem) (index : Nat)
    (ins : Instruction) : Prop where
  found : (indexByPc fn).get? item.pc = some index
  here : fn.instructions[index]? = some ins
  step : (stackStep ints ins).isSome = true
  plain : writesSpElse ins = false

/-- A message of the pass over an item holds a number of too many digits. -/
inductive LongNumber (ints : IntTables) (printable : Char → Bool) (fn : Function)
    (linkregReturn : Bool) (item : WorkItem) : Prop where
  | target {index : Nat} {ins : Instruction} (expanding : Expanding ints fn item index ins)
      (branches : ins.mnemonic ∈ branches) {target : Nat} (known : ins.target = some target)
      (outside : target ∉ startsOf fn) (long : decimal ints target = none)
  | exit {index : Nat} {ins : Instruction} (expanding : Expanding ints fn item index ins)
      {succession : Succession}
      (found : frameSuccessors ints printable fn linkregReturn index ins = .ok succession)
      (isExit : succession.isExit = true) (changed : item.delta + spChange ints ins ≠ 0)
      (long : decimal ints (item.delta + spChange ints ins) = none)
  | cycle {index : Nat} {ins : Instruction} (expanding : Expanding ints fn item index ins)
      {succession : Succession}
      (found : frameSuccessors ints printable fn linkregReturn index ins = .ok succession)
      {pc : Nat} (followed : pc ∈ succession.next) {earlier : Int}
      (onPath : item.path.lookup pc = some earlier)
      (changed : earlier ≠ item.delta + spChange ints ins)
      (long : decimal ints (item.delta + spChange ints ins) = none ∨ decimal ints earlier = none)

/-- The search comes to such an item. -/
def LongReached (ints : IntTables) (printable : Char → Bool) (fn : Function)
    (linkregReturn : Bool) : Prop :=
  ∃ first rest state item work, fn.instructions = first :: rest ∧
    Loop.Reaches (framePass ints printable fn linkregReturn) (beginFrame fn first) state ∧
    state.work = item :: work ∧ (item.pc, item.delta) ∉ state.seen ∧
    LongNumber ints printable fn linkregReturn item

variable {ints : IntTables} {printable : Char → Bool} {fn : Function} {linkregReturn : Bool}
  {item : WorkItem} {state : FrameState} {ins : Instruction} {index pc : Nat} {after : Int}
  {raised : Raised}

theorem orRaise_eq_error {α : Type} {error : Raised} {value : Option α} :
    orRaise error value = .error raised ↔ raised = error ∧ value = none := by
  cases value with
  | none => simp [orRaise, eq_comm]
  | some a => simp [orRaise]

theorem decimalText_eq_error {value : Int} :
    decimalText ints value = .error raised ↔ raised = .valueError ∧ decimal ints value = none :=
  orRaise_eq_error

theorem branch_eq_error {starts : List Nat} {target next : Option Nat} :
    branch ints starts target next = .error raised ↔
      raised = .valueError ∧ ∃ number, target = some number ∧ number ∉ starts ∧
        decimal ints number = none := by
  cases target with
  | none =>
      constructor
      · intro failed
        cases failed
      · rintro ⟨-, number, absurd, -⟩
        cases absurd
  | some target =>
      by_cases inside : target ∈ starts
      · have kept : (some target).filter (fun number => number ∈ starts) = some target :=
          Option.filter_eq_some_iff.mpr ⟨rfl, decide_eq_true inside⟩
        rw [branch, kept]
        constructor
        · intro failed
          cases failed
        · rintro ⟨-, number, same, outside, -⟩
          exact absurd (Option.some.inj same ▸ inside) outside
      · have dropped : (some target).filter (fun number => number ∈ starts) = none := by
          rw [Option.filter_some, if_neg (by simpa using inside)]
        rw [branch, dropped]
        simp only [bind_eq_error, targetText, decimalText_eq_error]
        constructor
        · rintro (⟨rfl, long⟩ | ⟨text, -, failed⟩)
          · exact ⟨rfl, target, rfl, inside, long⟩
          · cases failed
        · rintro ⟨rfl, number, same, -, long⟩
          obtain rfl := Option.some.inj same
          exact .inl ⟨rfl, long⟩

/-- Of all instructions only a branch is reported with a number. -/
theorem frameSuccessors_eq_error :
    frameSuccessors ints printable fn linkregReturn index ins = .error raised ↔
      raised = .valueError ∧ ins.mnemonic ∈ branches ∧ ∃ target, ins.target = some target ∧
        target ∉ startsOf fn ∧ decimal ints target = none := by
  by_cases branches : ins.mnemonic ∈ branches
  · have falls := fallsThrough_of_branch branches
    have noTrap : ins.mnemonic ∉ systemTraps :=
      (by decide +kernel : ∀ m ∈ FirstInit.branches, m ∉ systemTraps) _ branches
    have noRegister : ∀ p : Prop, ¬(ins.mnemonic ∈ registerJumps ∧ p) := fun p register =>
      falls.noRegisterJump register.1
    rw [frameSuccessors, if_neg (noRegister _), successors, if_neg
      (not_or.mpr ⟨falls.noReturn, noRegister _⟩), if_neg noTrap,
      if_neg (not_or.mp falls.noJump).1, if_pos branches, branch_eq_error]
    simp only [branches, true_and]
  · refine iff_of_false (fun failed => ?_) fun held => branches held.2.1
    have either : ∀ {p : Prop} [Decidable p] {first second : Except Raised Succession},
        (∃ succession, first = .ok succession) → (∃ succession, second = .ok succession) →
          ∃ succession, (if p then first else second) = .ok succession := by
      intro p _ first second left right
      by_cases holds : p
      · rwa [if_pos holds]
      · rwa [if_neg holds]
    have links : ∃ succession, frameSuccessors ints printable fn linkregReturn index ins =
        .ok succession := by
      rw [frameSuccessors, successors, if_neg branches]
      refine either ⟨_, rfl⟩ (either ⟨_, rfl⟩ (either ⟨_, rfl⟩ (either ⟨_, rfl⟩ (either ⟨_, rfl⟩
        (either ⟨_, rfl⟩ (either ⟨_, rfl⟩ (either ⟨_, rfl⟩ (either ?_ (either ?_
          (either ⟨_, rfl⟩ ⟨_, rfl⟩))))))))))
      · exact either ⟨_, rfl⟩ (either ⟨_, rfl⟩ ⟨_, rfl⟩)
      · exact either ⟨_, rfl⟩ ⟨_, rfl⟩
    obtain ⟨succession, found⟩ := links
    rw [found] at failed
    cases failed

theorem leave_eq_error {isExit : Bool} :
    state.leave ints pc isExit after = .error raised ↔
      raised = .valueError ∧ isExit = true ∧ after ≠ 0 ∧ decimal ints after = none := by
  rw [FrameState.leave]
  cases isExit with
  | false => simp
  | true =>
      by_cases zero : after = 0
      · simp [zero]
      · rw [if_pos rfl, if_neg zero, bind_eq_error, decimalText_eq_error]
        simp [zero, pure, Except.pure]

theorem follow_eq_error {path : List (Nat × Int)} {nextPc : Nat} :
    follow ints pc after path state nextPc = .error raised ↔
      raised = .valueError ∧ ∃ earlier, path.lookup nextPc = some earlier ∧ earlier ≠ after ∧
        (decimal ints after = none ∨ decimal ints earlier = none) := by
  rw [follow]
  cases onPath : path.lookup nextPc with
  | none => simp
  | some earlier =>
      by_cases same : earlier = after
      · simp [same]
      · simp only [if_neg same, bind_eq_error, decimalText_eq_error, pure, Except.pure,
          reduceCtorEq, and_false, exists_false, or_false]
        constructor
        · rintro (⟨rfl, long⟩ | ⟨text, -, rfl, long⟩)
          · exact ⟨rfl, earlier, rfl, same, .inl long⟩
          · exact ⟨rfl, earlier, rfl, same, .inr long⟩
        · rintro ⟨rfl, other, known, -, long⟩
          obtain rfl := Option.some.inj known
          cases now : decimal ints after with
          | none => exact .inl ⟨rfl, rfl⟩
          | some text =>
              refine .inr ⟨text, by rw [decimalText, now]; rfl, rfl, ?_⟩
              exact long.resolve_left (by rw [now]; exact Option.some_ne_none _)

/-- Whether an address raises does not depend on the others. -/
theorem foldlM_follow_eq_error {path : List (Nat × Int)} {followed : List Nat} :
    followed.foldlM (follow ints pc after path) state = .error raised ↔
      raised = .valueError ∧ ∃ nextPc ∈ followed, ∃ earlier, path.lookup nextPc = some earlier ∧
        earlier ≠ after ∧ (decimal ints after = none ∨ decimal ints earlier = none) := by
  induction followed generalizing state with
  | nil => simp [pure, Except.pure]
  | cons nextPc rest ih =>
      rw [List.foldlM_cons, bind_eq_error]
      simp only [follow_eq_error, ih, List.mem_cons, exists_eq_or_imp]
      constructor
      · rintro (⟨rfl, here⟩ | ⟨next, -, rfl, later⟩)
        · exact ⟨rfl, .inl here⟩
        · exact ⟨rfl, .inr later⟩
      · rintro ⟨rfl, here | later⟩
        · exact .inl ⟨rfl, here⟩
        · cases stepped : follow ints pc after path state nextPc with
          | error other =>
              obtain ⟨rfl, here⟩ := follow_eq_error.mp stepped
              exact .inl ⟨rfl, here⟩
          | ok next => exact .inr ⟨next, rfl, rfl, later⟩

theorem exists_indexByPc (inside : pc ∈ startsOf fn) : ∃ index, (indexByPc fn).get? pc = some index := by
  rw [← Option.isSome_iff_exists, indexByPc, Dict.get?_update, Dict.get?_empty, Option.or_none,
    List.lookup_isSome_iff]
  obtain ⟨ins, held, rfl⟩ := List.mem_map.mp inside
  obtain ⟨i, small, rfl⟩ := List.getElem_of_mem held
  refine ⟨(fn.instructions[i].address, i), ?_, beq_self_eq_true _⟩
  rw [List.mem_reverse]
  exact List.mem_map.mpr ⟨(fn.instructions[i], i), by
    rw [List.mem_zipIdx_iff_getElem?]; exact List.getElem?_eq_getElem small, rfl⟩

theorem visitStep_eq_error (expanding : Expanding ints fn item index ins) :
    visitStep ints printable fn linkregReturn index ins item (item.delta + spChange ints ins) state =
        .error raised ↔
      raised = .valueError ∧
        ((ins.mnemonic ∈ branches ∧ ∃ target, ins.target = some target ∧ target ∉ startsOf fn ∧
            decimal ints target = none) ∨
          ∃ succession, frameSuccessors ints printable fn linkregReturn index ins = .ok succession ∧
            ((succession.isExit = true ∧ item.delta + spChange ints ins ≠ 0 ∧
                decimal ints (item.delta + spChange ints ins) = none) ∨
              ∃ nextPc ∈ succession.next, ∃ earlier, item.path.lookup nextPc = some earlier ∧
                earlier ≠ item.delta + spChange ints ins ∧
                (decimal ints (item.delta + spChange ints ins) = none ∨
                  decimal ints earlier = none))) := by
  rw [visitStep, if_neg (by rw [expanding.plain]; decide), bind_eq_error, frameSuccessors_eq_error]
  simp only [bind_eq_error, leave_eq_error, foldlM_follow_eq_error]
  constructor
  · rintro (⟨rfl, target⟩ | ⟨succession, found, ⟨rfl, exit⟩ | ⟨left, -, rfl, cycle⟩⟩)
    · exact ⟨rfl, .inl target⟩
    · exact ⟨rfl, .inr ⟨succession, found, .inl exit⟩⟩
    · exact ⟨rfl, .inr ⟨succession, found, .inr cycle⟩⟩
  · rintro ⟨rfl, target | ⟨succession, found, exit | cycle⟩⟩
    · exact .inl ⟨rfl, target⟩
    · exact .inr ⟨succession, found, .inl ⟨rfl, exit⟩⟩
    · refine .inr ⟨succession, found, ?_⟩
      cases leaving : FrameState.leave ints
          ((state.lower (item.delta + spChange ints ins)).issueIf succession.problem.isSome item.pc
            (succession.problem.getD [] ++ ": ".toList ++ ins.text))
          item.pc succession.isExit (item.delta + spChange ints ins) with
      | error other =>
          obtain ⟨rfl, exit⟩ := leave_eq_error.mp leaving
          exact .inl ⟨rfl, exit⟩
      | ok left => exact .inr ⟨left, rfl, rfl, cycle⟩

theorem visit_eq (found : (indexByPc fn).get? item.pc = some index)
    (here : fn.instructions[index]? = some ins) :
    visit ints printable fn linkregReturn item state =
      visitInstruction ints printable fn linkregReturn index ins item state := by
  have indexed : orRaise (.proof (.keyError item.pc)) ((indexByPc fn).get? item.pc) = .ok index :=
    orRaise_eq_ok.mpr found
  have listed : orRaise .indexError fn.instructions[index]? = .ok ins := orRaise_eq_ok.mpr here
  rw [visit, indexed]
  change (orRaise .indexError fn.instructions[index]? >>= _) = _
  rw [listed]
  rfl

theorem visit_eq_error (inside : item.pc ∈ startsOf fn) :
    visit ints printable fn linkregReturn item state = .error raised ↔
      raised = .valueError ∧ LongNumber ints printable fn linkregReturn item := by
  obtain ⟨index, found⟩ := exists_indexByPc inside
  obtain ⟨ins, here, address⟩ := mem_of_indexByPc found
  have only : ∀ {index' : Nat} {ins' : Instruction}, Expanding ints fn item index' ins' →
      index' = index ∧ ins' = ins := by
    intro index' ins' expanding
    obtain rfl := Option.some.inj (expanding.found.symm.trans found)
    exact ⟨rfl, Option.some.inj (expanding.here.symm.trans here)⟩
  rw [visit_eq found here, visitInstruction]
  by_cases expanding : Expanding ints fn item index ins
  · obtain ⟨change, known⟩ := Option.isSome_iff_exists.mp expanding.step
    have same : change = spChange ints ins := by rw [spChange, known]; rfl
    rw [known, same]
    refine (visitStep_eq_error expanding).trans (and_congr_right fun _ => ?_)
    constructor
    · rintro (⟨branches, target, known, outside, long⟩ | ⟨succession, found, ⟨isExit, changed, long⟩ |
        ⟨pc, followed, earlier, onPath, changed, long⟩⟩)
      · exact .target expanding branches known outside long
      · exact .exit expanding found isExit changed long
      · exact .cycle expanding found followed onPath changed long
    · intro long
      cases long with
      | target other branches given outside long =>
          obtain ⟨rfl, rfl⟩ := only other
          exact .inl ⟨branches, _, given, outside, long⟩
      | exit other succeeded isExit changed long =>
          obtain ⟨rfl, rfl⟩ := only other
          exact .inr ⟨_, succeeded, .inl ⟨isExit, changed, long⟩⟩
      | cycle other succeeded followed onPath changed long =>
          obtain ⟨rfl, rfl⟩ := only other
          exact .inr ⟨_, succeeded, .inr ⟨_, followed, _, onPath, changed, long⟩⟩
  · refine iff_of_false (fun failed => expanding ⟨found, here, ?_, ?_⟩) ?_
    · cases change : stackStep ints ins with
      | none =>
          rw [change] at failed
          cases failed
      | some step => rfl
    · cases change : stackStep ints ins with
      | none =>
          rw [change] at failed
          cases failed
      | some step =>
          rw [change] at failed
          cases writes : writesSpElse ins with
          | false => rfl
          | true =>
              dsimp only at failed
              rw [visitStep, if_pos writes] at failed
              cases failed
    · rintro ⟨-, long⟩
      have same : ∀ {index' : Nat} {ins' : Instruction}, ¬Expanding ints fn item index' ins' := by
        intro index' ins' other
        obtain ⟨rfl, rfl⟩ := only other
        exact expanding other
      cases long with
      | target other => exact same other
      | exit other => exact same other
      | cycle other => exact same other

theorem framePass_eq_error (bounded : Bounded fn state)
    (onTop : ∀ item ∈ state.work, item.path.head? = some (item.pc, item.delta)) :
    framePass ints printable fn linkregReturn state = some (.error raised) ↔
      raised = .valueError ∧ ∃ item work, state.work = item :: work ∧
        (item.pc, item.delta) ∉ state.seen ∧ LongNumber ints printable fn linkregReturn item := by
  rw [framePass]
  split
  · next empty =>
      refine iff_of_false (Option.some_ne_none _).symm ?_
      rintro ⟨-, item, work, top, -⟩
      cases empty.symm.trans top
  · next item work top =>
      have held : item ∈ state.work := top ▸ List.mem_cons_self
      have inside : item.pc ∈ startsOf fn :=
        bounded.inside item held _ (List.mem_of_head? (onTop item held))
      by_cases known : (item.pc, item.delta) ∈ state.seen
      · rw [if_pos known]
        refine iff_of_false (by simp) ?_
        rintro ⟨-, other, rest, same, unseen, -⟩
        obtain ⟨rfl, -⟩ := List.cons.inj (top.symm.trans same)
        exact unseen known
      · rw [if_neg known, Option.some.injEq, visit_eq_error inside]
        refine and_congr_right fun _ => ⟨fun long => ⟨item, work, top, known, long⟩, ?_⟩
        rintro ⟨other, rest, same, -, long⟩
        obtain ⟨rfl, -⟩ := List.cons.inj (top.symm.trans same)
        exact long

/-- The first entry of a path is that of its item. -/
def Topped (state : FrameState) : Prop :=
  ∀ item ∈ state.work, item.path.head? = some (item.pc, item.delta)

theorem Topped.pass {next : FrameState} (topped : Topped state)
    (passed : framePass ints printable fn linkregReturn state = some (.ok next)) : Topped next := by
  obtain ⟨item, work, top, ⟨-, rfl⟩ | ⟨added, visited⟩⟩ := framePass_cases passed
  · exact fun other held => topped other (top ▸ List.mem_cons_of_mem _ held)
  · intro other held
    obtain new | old := List.mem_append.mp (visited.work ▸ held)
    · rw [(visited.fresh other new).2.1]
      rfl
    · exact topped other (top ▸ List.mem_cons_of_mem _ old)

/-- The analysis raises exactly if its search comes to a message with a number of too many
digits, and then a `ValueError`. -/
theorem analyzeFrame_eq_error :
    (∃ fuel, analyzeFrame ints printable fuel fn linkregReturn = some (.error raised)) ↔
      raised = .valueError ∧ LongReached ints printable fn linkregReturn := by
  cases begun : fn.instructions with
  | nil =>
      refine iff_of_false ?_ ?_
      · rintro ⟨fuel, ended⟩
        rw [analyzeFrame, begun] at ended
        cases ended
      · rintro ⟨-, first, rest, state, item, work, same, -⟩
        cases begun.symm.trans same
  | cons first rest =>
      have ended : ∀ fuel, analyzeFrame ints printable fuel fn linkregReturn = some (.error raised) ↔
          Loop.run (framePass ints printable fn linkregReturn) fuel (beginFrame fn first) =
            some (.error raised) := by
        intro fuel
        rw [analyzeFrame, begun]
        dsimp only
        cases Loop.run (framePass ints printable fn linkregReturn) fuel (beginFrame fn first) with
        | none => simp
        | some result => cases result <;> simp [Except.map]
      simp only [ended, Loop.run_eq_error]
      have topped : Topped (beginFrame fn first) := by
        intro item held
        rw [List.mem_singleton.mp held]
        rfl
      have kept : ∀ state, Loop.Reaches (framePass ints printable fn linkregReturn)
          (beginFrame fn first) state → Bounded fn state ∧ Topped state := fun state reaches =>
        ⟨reaches.invariant (fun _ _ held passed => Bounded.pass held passed)
          (beginFrame_bounded begun), reaches.invariant (fun _ _ held passed => Topped.pass held passed)
          topped⟩
      constructor
      · rintro ⟨state, reaches, failed⟩
        obtain ⟨bounded, topped⟩ := kept state reaches
        obtain ⟨same, item, work, top, unseen, long⟩ := (framePass_eq_error bounded topped).mp failed
        exact ⟨same, first, rest, state, item, work, begun, reaches, top, unseen, long⟩
      · rintro ⟨same, other, others, state, item, work, listed, reaches, top, unseen, long⟩
        obtain ⟨rfl, -⟩ := List.cons.inj (begun.symm.trans listed)
        obtain ⟨bounded, topped⟩ := kept state reaches
        exact ⟨state, reaches,
          (framePass_eq_error bounded topped).mpr ⟨same, item, work, top, unseen, long⟩⟩

end AxolotyEmbedded.FirstInit
