import GridPolicy.Proofs.Run.Answers
import GridPolicy.Proofs.Run.Settled
import GridPolicy.Proofs.Verification.Looks

/-!
# The lookup of a replica

The replica on a resource is looked up in two calls: the resource is asked for its leaves,
and the catalog for a replica on one of them. Only with leaves and with a row something is
found; with leaves and without a row the replica does not exist.
-/
namespace GridPolicy.Verification

/-- The ids of leaves as they stand in a query: in quotes, with commas between. -/
def bundle (ids : List Int) : String :=
  Text.join ", " (ids.map fun id => "'" ++ toString id ++ "'")

/-- The call that asks for the replica of an object on these leaves. -/
abbrev replicaCall (path : String) (ids : List Int) : Call :=
  .query (replicaQuery (LogicalPath.split path).1 (LogicalPath.split path).2 (bundle ids)) 1
    .general

/-- The two calls of a lookup. -/
def lookup (path resource : String) (ids : List Int) : List Entry :=
  [.call (.leafBundle resource), .call (replicaCall path ids)]

section

variable (grid : Grid) (log : List Entry) (path resource : String)

/-- The resource has leaves, and a row is answered for them. -/
structure Finds (ids : List Int) (row : Row) : Prop where
  leaves : grid.answer log (.leafBundle resource) = .ok ids
  ids_ne_nil : ids ≠ []
  row : ∃ rest, rowsFound (grid.answer (log ++ [.call (.leafBundle resource)])
    (replicaCall path ids)) = .ok (row :: rest)

/-- The resource has leaves, and no row is answered for them, in one way or the other. -/
structure FindsNone (ids : List Int) : Prop where
  leaves : grid.answer log (.leafBundle resource) = .ok ids
  ids_ne_nil : ids ≠ []
  none : rowsFound (grid.answer (log ++ [.call (.leafBundle resource)])
    (replicaCall path ids)) = .ok []

end

/-- What the answer to the second call comes to. -/
def outcomeOf (path resource : String) :
    Except ServiceError (List Row) → Outcome VerificationError ReplicaAttributes
  | .ok (row :: _) => .done (attributesOf row)
  | .ok [] => .failed (.replicaDoesNotExist path resource)
  | .error e => .failed (.service e)

variable {grid : Grid} {log after : List Entry} {path resource : String} {ids : List Int}
  {row : Row}

/-- With leaves the second call decides. -/
theorem replicaAttributes_of_leaves (hleaves : grid.answer log (.leafBundle resource) = .ok ids)
    (hids : ids ≠ []) :
    replicaAttributes path resource grid log =
      (outcomeOf path resource (rowsFound (grid.answer (log ++ [.call (.leafBundle resource)])
        (replicaCall path ids))), log ++ lookup path resource ids) := by
  obtain ⟨id, rest, rfl⟩ := List.exists_cons_of_ne_nil hids
  have hbundle : ((leafBundle resource).mapError VerificationError.substitution) grid log =
      (.done (bundle (id :: rest)), log ++ [.call (.leafBundle resource)]) := by
    rw [Run.mapError_apply_eq_done, leafBundle_apply, hleaves]
    rfl
  unfold replicaAttributes
  dsimp only
  rw [Run.bind_of_done hbundle, Run.bind_apply, Run.mapError_queryRows_apply, lookup]
  cases rowsFound (grid.answer (log ++ [.call (.leafBundle resource)])
    (replicaCall path (id :: rest))) with
  | error e => simp [Outcome.ofExcept, Outcome.mapError, outcomeOf]
  | ok rows => cases rows <;> simp [Outcome.ofExcept, Outcome.mapError, outcomeOf]

theorem replicaAttributes_of_finds (h : Finds grid log path resource ids row) :
    replicaAttributes path resource grid log =
      (.done (attributesOf row), log ++ lookup path resource ids) := by
  obtain ⟨rest, hrow⟩ := h.row
  rw [replicaAttributes_of_leaves h.leaves h.ids_ne_nil, hrow]
  rfl

theorem replicaAttributes_of_findsNone (h : FindsNone grid log path resource ids) :
    replicaAttributes path resource grid log =
      (.failed (.replicaDoesNotExist path resource), log ++ lookup path resource ids) := by
  rw [replicaAttributes_of_leaves h.leaves h.ids_ne_nil, h.none]
  rfl

/-- Attributes are never made up: they are those of a row that was found. -/
theorem finds_of_done {attributes : ReplicaAttributes}
    (h : replicaAttributes path resource grid log = (.done attributes, after)) :
    ∃ ids row, Finds grid log path resource ids row ∧ attributes = attributesOf row ∧
      after = log ++ lookup path resource ids := by
  obtain ⟨leaves, mid, hbundle, -⟩ := Run.done_of_bind h
  rw [Run.mapError_apply_eq_done, leafBundle_apply] at hbundle
  have hgiven : ∃ ids, grid.answer log (.leafBundle resource) = .ok ids ∧ ids ≠ [] := by
    split at hbundle
    · cases hbundle
    · next id rest hleaves => exact ⟨id :: rest, hleaves, List.cons_ne_nil id rest⟩
    · cases hbundle
  obtain ⟨ids, hleaves, hids⟩ := hgiven
  rw [replicaAttributes_of_leaves hleaves hids, Prod.mk.injEq] at h
  obtain ⟨hends, hafter⟩ := h
  unfold outcomeOf at hends
  split at hends
  · next row rest hrow =>
    cases hends
    exact ⟨ids, row, ⟨hleaves, hids, rest, hrow⟩, rfl, hafter.symm⟩
  · cases hends
  · cases hends

end GridPolicy.Verification
