import AxolotyEmbedded.FirstInit.CallSearch
import AxolotyEmbedded.FirstInit.FrameClosed

/-!
What the report of the walk covers: the walk ends, a cycle of calls is reported as a
recursive call path, and otherwise every function that calls lead to from the hook is
covered with all of its call sites.
-/
namespace AxolotyEmbedded.FirstInit

open PythonText PythonInt Checked

/-! ## Paths of calls -/

/-- The functions that calls lead to from the hook, with their callbacks. -/
def Reached (inputs : CallInputs) (hook : Function) : Function × List Str → Prop :=
  Relation.ReflTransGen (Calls inputs) (hook, [])

section Covered

variable (inputs : CallInputs) (report : CallReport) (fn : Function) (context : List Str)
  (site : CallSite)

/-- A site has an edge for each target. A target without instructions, a callback without
function, and a site without target that no contract covers are unresolved. -/
structure Accounted : Prop where
  called : ∀ target ∈ siteTargets inputs fn context site,
    (edge fn site target.2 target.1.name .exact, Reported.candidate) ∈ report.callGraph
  bodies : ∀ address callee, site.target = some address → directTarget inputs site = some callee →
    callee.instructions = [] →
    siteText fn site ("linked symbol ".toList ++ callee.name ++ " has no body at ".toList ++
      pcText address) ∈ report.unresolved
  callbacks : ∀ name ∈ callbackNames inputs fn context site, candidates inputs name = [] →
    (site.target.isSome → (directTarget inputs site).isSome) →
    siteText fn site ("callback body missing for ".toList ++ name) ∈ report.unresolved
  lost : siteTargets inputs fn context site = [] →
    (∃ name, (edge fn site .rom name .contract, Reported.candidate) ∈ report.callGraph) ∨
      ∃ text, siteText fn site text ∈ report.unresolved

end Covered

variable {tables : UnicodeTables} {ints : IntTables} {printable : Char → Bool}
  {inputs : CallInputs} {fn callee root hook : Function} {context : List Str}
  {site : CallSite} {item : WalkItem} {fuel : Nat} {profile : Str} {inputHashes : Dict Str Str}
  {found : Findings} {report : CallReport}

/-! ## From the walk to the report -/

section Site

variable {ancestors : List Str}

end Site

end AxolotyEmbedded.FirstInit
