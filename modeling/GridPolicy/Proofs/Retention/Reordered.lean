import GridPolicy.Proofs.Retention.Trace
import GridPolicy.Proofs.Run.Paired
import GridPolicy.Proofs.Text.Ordered

/-!
# Rows in another order

The catalog answers rows in whatever order it finds them, and some of them more than once.
Retention takes no notice: the replicas are put in order before anything is made of them,
and of the preserved resources it only matters which they are. So on two grids that differ
in nothing else the runs of a request are the same, from the first question to the last
removal.
-/
namespace GridPolicy

variable {mode : RetentionMode} {replicas preserved preserved' : List String}
  {whitelist : Option (List String)} {source destination : String}

theorem removable_congr (h : ∀ r, r ∈ preserved ↔ r ∈ preserved') :
    removable preserved whitelist = removable preserved' whitelist := by
  funext r
  rw [Bool.eq_iff_iff, removable_eq_true_iff, removable_eq_true_iff, h]

/-- Of the preserved resources it only matters which they are. -/
theorem planRemoval_congr (h : ∀ r, r ∈ preserved ↔ r ∈ preserved') :
    planRemoval mode replicas preserved whitelist source destination =
      planRemoval mode replicas preserved' whitelist source destination := by
  unfold planRemoval planRemoveAll planTrimSingle
  rw [removable_congr h]

namespace Retention

variable {request : RetentionRequest} {grid grid' : Grid}

/-- The grids differ at most in the order in which the two questions of retention are
answered and in how often a row is answered: which replicas there are, and which resources
are to be preserved. -/
structure Reordered (request : RetentionRequest) (grid grid' : Grid) : Prop where
  replicas : ∀ log, SameRows (rowsFound (grid.answer log (replicaCall request.logicalPath)))
    (rowsFound (grid'.answer log (replicaCall request.logicalPath)))
  preserved : ∀ log resources, SameRows
    (rowsFound (grid.answer log (preservationCall resources request.preservationAttribute)))
    (rowsFound (grid'.answer log (preservationCall resources request.preservationAttribute)))
  removals : ∀ log call, call.changes = true → grid'.answer log call = grid.answer log call

theorem carryOut_paired (h : Reordered request grid grid') (decision : RemovalPlan) :
    Run.Paired Eq grid grid' (carryOut request decision) (carryOut request decision) := by
  cases decision with
  | unlink => exact .ask fun log => h.removals log _ rfl
  | trim resources =>
    refine .bind (.forEach fun r _ => .ask fun log => h.removals log _ rfl) ?_
    intro _ _ _
    exact .pure rfl
  | retain reason => exact .pure rfl

theorem plan_paired (h : Reordered request grid grid') (replicas : List String) :
    Run.Paired Eq grid grid' (plan request replicas) (plan request replicas) := by
  refine .bind (.queryRows fun log => h.preserved log _) ?_
  intro rows rows' hrows
  exact .pure (planRemoval_congr (mem_filterMap_congr hrows))

theorem apply_paired (h : Reordered request grid grid') :
    Run.Paired Eq grid grid' (apply request) (apply request) := by
  unfold apply
  by_cases hpath : request.logicalPath = ""
  · simp only [hpath, beq_self_eq_true, ↓reduceIte, Run.fail_bind]
    exact .fail _
  simp only [hpath, beq_iff_eq, ↓reduceIte]
  refine .mapError (.bind (.queryRows h.replicas) ?_)
  intro rows rows' hrows
  rw [Text.ordered_congr (mem_filterMap_congr hrows)]
  split
  · exact .pure rfl
  · refine .bind (plan_paired h _) ?_
    rintro decision _ rfl
    refine .bind (carryOut_paired h decision) ?_
    intro _ _ _
    exact .pure rfl

/-- The order of the answered rows and their repetition make no difference: the decision or
the error is the same, and so is the log, with both questions and every removal. -/
theorem apply_reordered (h : Reordered request grid grid') (log : List Entry) :
    apply request grid' log = apply request grid log :=
  (apply_paired h).apply_eq log

/-- A grid that answers the first question with these replicas and every later one with
these resources, and that removes what it is asked to. -/
def answering (replicas preserved : List Row) : Grid where
  now := 0
  answer log
    | .query _ _ _ => .ok (if log.isEmpty then replicas else preserved)
    | .trim _ _ _ => .ok ()
    | .unlink _ _ => .ok ()
    | _ => .error (.unknownResource "")

/-- All replicas of an object are to go, wherever they are. -/
def clearing : RetentionRequest where
  mode := .removeAllReplicas
  userName := "alice"
  logicalPath := "/zone/home/f"
  sourceResource := ""
  destinationResource := ""
  whitelist := none
  preservationAttribute := defaultPreservationAttribute

theorem reordered_answering {replicas replicas' preserved preserved' : List Row}
    (hreplicas : ∀ row, row ∈ replicas ↔ row ∈ replicas')
    (hpreserved : ∀ row, row ∈ preserved ↔ row ∈ preserved') (request : RetentionRequest) :
    Reordered request (answering replicas preserved) (answering replicas' preserved') where
  replicas log := by
    cases log with
    | nil => exact .rows hreplicas
    | cons => exact .rows hpreserved
  preserved log _ := by
    cases log with
    | nil => exact .rows hreplicas
    | cons => exact .rows hpreserved
  removals log call hcall := by
    cases call with
    | query => cases hcall
    | _ => rfl

/-- Two replicas lie below one root and a third below another one, which is preserved. In
whatever order and however often they are found, the one root that may go is trimmed. -/
theorem apply_reordered_clearing :
    let grid := answering [["a1", "alpha;a1"], ["a2", "alpha;a2"], ["b1", "beta;b1"]]
      [["beta"], ["gamma"]]
    let grid' := answering [["b1", "beta;b1"], ["a2", "alpha;a2"], ["b1", "beta;b1"],
      ["a1", "alpha;a1"]] [["gamma"], ["beta"], ["gamma"]]
    Reordered clearing grid grid' ∧ apply clearing grid' [] = apply clearing grid [] ∧
      (apply clearing grid []).1 = .done (.trim ["alpha"]) := by
  intro grid grid'
  have h : Reordered clearing grid grid' := by
    refine reordered_answering ?_ ?_ clearing
    · intro row
      simp only [List.mem_cons, List.not_mem_nil]
      tauto
    · intro row
      simp only [List.mem_cons, List.not_mem_nil]
      tauto
  refine ⟨h, apply_reordered h [], ?_⟩
  decide +kernel

end Retention

end GridPolicy
