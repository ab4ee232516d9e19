import AxolotyEmbedded.Interval.PostFixpoint
import AxolotyEmbedded.Library.Search

/-!
The check of `Engine.analyze` that the calls seen so far have no cycle: it passes where there
is none and else names an address on one, so the calls of an analysis that ended are nested
to a bounded depth.
-/
namespace AxolotyEmbedded.Interval

open PythonText Replay Checked

/-- A call or a tail transfer between two functions. -/
def CallEdge (graph : List (Nat × Nat)) (caller callee : Nat) : Prop := (caller, callee) ∈ graph

/-- Each chain of calls from a function ends. -/
abbrev CallsEnd (graph : List (Nat × Nat)) : Nat → Prop := Search.Ends (CallEdge graph)

/-- What a search from one node or several comes to: all of them are completed, whose calls
end, or an address on a cycle is named. With few frames the interpreter gives up. -/
inductive Swept (graph : List (Nat × Nat)) (nodes completed : List Nat) (few : Prop) :
    Except Failure (List Nat) → Prop where
  | ended {last : List Nat} (grown : completed ⊆ last) (members : nodes ⊆ last)
      (ends : ∀ node ∈ last, CallsEnd graph node) : Swept graph nodes completed few (.ok last)
  | cycle {node : Nat} (cycle : Relation.TransGen (CallEdge graph) node node) :
      Swept graph nodes completed few (.error (.closedAt "recursive call/tail graph at " node))
  | deep (held : few) : Swept graph nodes completed few (.error .recursionError)

section Graph

variable {graph : List (Nat × Nat)} {nodes path completed : List Nat} {node : Nat}
  {frames : Nat} {few : Prop}

/-- A loop over nodes sweeps them all where each turn sweeps its own. -/
theorem swept_foldlM {step : List Nat → Nat → Except Failure (List Nat)}
    (each : ∀ node ∈ nodes, ∀ completed, (∀ node ∈ completed, CallsEnd graph node) →
      Swept graph [node] completed few (step completed node))
    (ends : ∀ node ∈ completed, CallsEnd graph node) :
    Swept graph nodes completed few (nodes.foldlM step completed) := by
  induction nodes generalizing completed with
  | nil => exact .ended (List.Subset.refl _) (List.nil_subset _) ends
  | cons node rest ih =>
      rw [List.foldlM_cons]
      have turn := each node List.mem_cons_self completed ends
      cases result : step completed node with
      | error failure =>
          rw [result] at turn
          cases turn with
          | cycle cycle => exact .cycle cycle
          | deep held => exact .deep held
      | ok middle =>
          rw [result] at turn
          cases turn with
          | ended grown member ends =>
              have later := ih (fun node member => each node (List.mem_cons_of_mem _ member)) ends
              change Swept graph (node :: rest) completed few (rest.foldlM step middle)
              cases whole : rest.foldlM step middle with
              | error failure =>
                  rw [whole] at later
                  cases later with
                  | cycle cycle => exact .cycle cycle
                  | deep held => exact .deep held
              | ok last =>
                  rw [whole] at later
                  cases later with
                  | ended more members ends =>
                      apply Swept.ended (List.Subset.trans grown more) _ ends
                      exact List.cons_subset.mpr ⟨more (member List.mem_cons_self), members⟩

theorem mem_addTo {set : List Nat} {a other : Nat} : other ∈ addTo set a ↔ other ∈ set ∨ other = a := by
  unfold addTo
  split
  · next held =>
      constructor
      · exact .inl
      · intro member
        cases member with
        | inl old => exact old
        | inr same => exact same ▸ held
  · simp

/-- No more frames than callers of the graph are left past a path of callers. -/
def FewFrames (graph : List (Nat × Nat)) (frames : Nat) : Prop :=
  frames ≤ (graph.map Prod.fst).dedup.length

/-- The search from one node, whose path are callers that lead to it. -/
theorem swept_acyclic (leads : ∀ caller ∈ path, Relation.TransGen (CallEdge graph) caller node)
    (distinct : path.Nodup) (callers : path ⊆ graph.map Prod.fst)
    (ends : ∀ node ∈ completed, CallsEnd graph node) :
    Swept graph [node] completed (FewFrames graph (frames + path.length)) (acyclic graph frames path node completed) := by
  induction frames generalizing path node completed with
  | zero =>
      -- the path has no more callers than the graph
      have few : path.length ≤ (graph.map Prod.fst).dedup.length :=
        (List.Nodup.subperm distinct fun caller member =>
          List.mem_dedup.mpr (callers member)).length_le
      apply Swept.deep
      rwa [FewFrames, Nat.zero_add]
  | succ frames ih =>
      rw [acyclic]
      by_cases looped : node ∈ path
      · rw [if_pos looped]
        exact .cycle (leads node looped)
      · rw [if_neg looped]
        by_cases known : node ∈ completed
        · rw [if_pos known]
          exact .ended (List.Subset.refl _) (List.cons_subset.mpr ⟨known, List.nil_subset _⟩) ends
        · rw [if_neg known]
          have frames_eq : frames + (node :: path).length = frames + 1 + path.length := by
            simp only [List.length_cons]
            omega
          have sweep := @swept_foldlM graph
            ((graph.filter fun edge => edge.1 = node).map Prod.snd) completed
            (FewFrames graph (frames + 1 + path.length))
            (fun completed target => acyclic graph frames (node :: path) target completed)
            (by
              intro target member completed ends
              obtain ⟨⟨caller, callee⟩, inside, rfl⟩ := List.mem_map.mp member
              obtain ⟨edge, same⟩ := List.mem_filter.mp inside
              obtain rfl : caller = node := of_decide_eq_true same
              rw [← frames_eq]
              apply ih _ (List.nodup_cons.mpr ⟨looped, distinct⟩) _ ends
              · intro above held
                obtain rfl | held := List.mem_cons.mp held
                · exact .single edge
                · exact (leads above held).tail edge
              · exact List.cons_subset.mpr ⟨List.mem_map_of_mem (f := Prod.fst) edge, callers⟩) ends
          change Swept graph [node] completed _ (_ >>= fun completed => .ok (addTo completed node))
          cases result : ((graph.filter fun edge => edge.1 = node).map Prod.snd).foldlM
              (fun completed target => acyclic graph frames (node :: path) target completed)
              completed with
          | error failure =>
              rw [result] at sweep
              cases sweep with
              | cycle cycle => exact .cycle cycle
              | deep held => exact .deep held
          | ok last =>
              rw [result] at sweep
              cases sweep with
              | ended grown members ends =>
                  have here : CallsEnd graph node := by
                    apply Acc.intro
                    intro callee edge
                    apply ends callee (members _)
                    exact List.mem_map.mpr ⟨(node, callee), List.mem_filter.mpr
                      ⟨edge, decide_eq_true rfl⟩, rfl⟩
                  apply Swept.ended
                  · exact fun other member => mem_addTo.mpr (.inl (grown member))
                  · exact List.cons_subset.mpr ⟨mem_addTo.mpr (.inr rfl), List.nil_subset _⟩
                  · intro other member
                    obtain held | rfl := mem_addTo.mp member
                    · exact ends other held
                    · exact here

/-- The check passes on a graph without cycles, it names an address on a cycle, or the
interpreter has no more frames than there are callers. -/
theorem checkAcyclic_cases (graph : List (Nat × Nat)) (frames : Nat) :
    (checkAcyclic graph frames = .ok () ∧
        ∀ node, ¬Relation.TransGen (CallEdge graph) node node) ∨
      (∃ node, checkAcyclic graph frames =
          .error (.closedAt "recursive call/tail graph at " (node : Nat)) ∧
        Relation.TransGen (CallEdge graph) node node) ∨
      (checkAcyclic graph frames = .error .recursionError ∧
        frames ≤ (graph.map Prod.fst).dedup.length) := by
  have sweep := @swept_foldlM graph (graph.map Prod.fst).dedup [] (FewFrames graph frames)
    (fun completed node => acyclic graph frames [] node completed)
    (fun node _ completed ends => swept_acyclic (fun _ member => absurd member List.not_mem_nil)
      List.nodup_nil (List.nil_subset _) ends)
    (fun node member => absurd member List.not_mem_nil)
  unfold checkAcyclic
  cases result : (graph.map Prod.fst).dedup.foldlM
      (fun completed node => acyclic graph frames [] node completed) [] with
  | error failure =>
      rw [result] at sweep
      cases sweep with
      | cycle cycle => exact .inr (.inl ⟨_, rfl, cycle⟩)
      | deep held => exact .inr (.inr ⟨rfl, held⟩)
  | ok last =>
      rw [result] at sweep
      cases sweep with
      | ended _ members ends =>
          refine .inl ⟨rfl, fun node cycle => ?_⟩
          obtain ⟨callee, edge, _⟩ := Relation.TransGen.head'_iff.mp cycle
          have caller : node ∈ graph.map Prod.fst := List.mem_map_of_mem (f := Prod.fst) edge
          exact (ends node (members (List.mem_dedup.mpr caller))).acyclic cycle

end Graph

/-- A passed check leaves no cycle. -/
theorem acyclic_of_checkAcyclic {graph : List (Nat × Nat)} {frames : Nat}
    (passed : checkAcyclic graph frames = .ok ()) (node : Nat) :
    ¬Relation.TransGen (CallEdge graph) node node := by
  obtain ⟨_, free⟩ | ⟨other, failed, _⟩ | ⟨failed, _⟩ := checkAcyclic_cases graph frames
  · exact free node
  · rw [passed] at failed
    cases failed
  · rw [passed] at failed
    cases failed

/-! ## The calls of an analysis -/

section Analysis

variable {python : Interpreter} {options : Options} {address : Int} {callback : Value}
  {frames : Nat} {call : Int → Value → EngineM Bound} {e f : Engine} {bound : Bound}

theorem checked_of_analyzeAnew
    (done : analyzeAnew python options address callback frames call e = .ok (bound, f)) :
    checkAcyclic f.evidence.callGraph frames = .ok () := by
  rw [analyzeAnew] at done
  obtain ⟨_, _, _, done⟩ := bind_run_eq_ok.mp done
  obtain ⟨_, _, _, done⟩ := bind_run_eq_ok.mp done
  obtain ⟨_, _, _, done⟩ := bind_run_eq_ok.mp done
  obtain ⟨fn, _, _, done⟩ := bind_run_eq_ok.mp done
  obtain ⟨x, left, _, done⟩ := bind_run_eq_ok.mp done
  obtain ⟨_, _, popped, done⟩ := bind_run_eq_ok.mp done
  cases popped
  obtain ⟨_, _, graph, done⟩ := bind_run_eq_ok.mp done
  cases graph
  obtain ⟨_, _, acyclic, concluded⟩ := bind_run_eq_ok.mp done
  obtain ⟨passed, rfl⟩ := lift_run_eq_ok.mp acyclic
  obtain ⟨_, rfl⟩ := conclude_spec concluded
  exact passed

/-- The bound of the function is not in the cache, or the cache is not asked. -/
def Uncached (options : Options) (e : Engine) (key : Key) : Prop :=
  options.special = true ∨ e.cache.get? key = none

/-- Where an analysis ends whose bound was not cached, the calls that the engine has seen by
then have no cycle. -/
theorem acyclic_of_analyze
    (done : analyze python frames options address callback e = .ok (bound, f))
    (uncached : Uncached options e (address, callback)) (node : Nat) :
    ¬Relation.TransGen (CallEdge f.evidence.callGraph) node node := by
  cases frames with
  | zero => cases done
  | succ frames =>
      cases analyze_cases done with
      | inl cached =>
          obtain ⟨plain, known, _⟩ := cached
          cases uncached with
          | inl special =>
              rw [plain] at special
              cases special
          | inr none =>
              rw [known] at none
              cases none
      | inr anew => exact acyclic_of_checkAcyclic (checked_of_analyzeAnew anew.2) node

end Analysis

end AxolotyEmbedded.Interval
