import GridPolicy.Proofs.Run.Additions
import GridPolicy.Proofs.Run.Sequence
import GridPolicy.Query.Template

/-!
# What an answer comes to

A call puts itself into the log and ends as it was answered. A query does the same, only
that an answer without rows may also be given as the refusal that there are none; and of the
leaves of a resource there have to be some. So where every call is answered a run completes,
and a loop that takes errors as values makes all its calls.
-/
namespace GridPolicy

variable {ε ε' α : Type}

/-- The rows of an answer, or why there are none to speak of. That nothing was found is an
answer without rows. -/
def rowsFound : Except ServiceError (List Row) → Except ServiceError (List Row)
  | .error (.noRowsFound _) => .ok []
  | answer => answer

@[simp] theorem rowsFound_ok (rows : List Row) : rowsFound (.ok rows) = .ok rows := rfl

/-- The error that a run ends with, if it does. -/
def Outcome.error? : Outcome ε α → Option ε
  | .failed e => some e
  | _ => none

theorem Outcome.error?_eq_some {o : Outcome ε α} {e : ε} :
    o.error? = some e ↔ o = .failed e := by
  cases o <;> simp [error?]

namespace Run

variable (grid : Grid) (log : List Entry)

theorem ask_apply (call : Call) :
    ask call grid log = (Outcome.ofExcept (grid.answer log call), log ++ [.call call]) := by
  unfold ask
  cases grid.answer log call <;> rfl

theorem queryRows_apply (text : String) (limit : Nat) (kind : QueryKind) :
    queryRows text limit kind grid log =
      (Outcome.ofExcept (rowsFound (grid.answer log (.query text limit kind))),
        log ++ [.call (.query text limit kind)]) := by
  unfold queryRows
  rw [ask_apply]
  cases grid.answer log (.query text limit kind) with
  | ok rows => rfl
  | error e => cases e <;> rfl

variable {grid log} in
theorem queryRows_of_rows {text : String} {limit : Nat} {kind : QueryKind} {rows : List Row}
    (h : rowsFound (grid.answer log (.query text limit kind)) = .ok rows) :
    queryRows text limit kind grid log = (.done rows, log ++ [.call (.query text limit kind)]) := by
  rw [queryRows_apply, h]
  rfl

variable {grid log} in
theorem queryRows_of_refused {text : String} {limit : Nat} {kind : QueryKind} {e : ServiceError}
    (h : rowsFound (grid.answer log (.query text limit kind)) = .error e) :
    queryRows text limit kind grid log =
      (.failed e, log ++ [.call (.query text limit kind)]) := by
  rw [queryRows_apply, h]
  rfl

/-- A call whose errors are turned into errors of another kind. -/
theorem mapError_ask_apply (f : ServiceError → ε) (call : Call) :
    (ask call).mapError f grid log =
      ((Outcome.ofExcept (grid.answer log call)).mapError f, log ++ [.call call]) := by
  rw [mapError_apply, ask_apply]

theorem mapError_queryRows_apply (f : ServiceError → ε) (text : String) (limit : Nat)
    (kind : QueryKind) :
    (queryRows text limit kind).mapError f grid log =
      ((Outcome.ofExcept (rowsFound (grid.answer log (.query text limit kind)))).mapError f,
        log ++ [.call (.query text limit kind)]) := by
  rw [mapError_apply, queryRows_apply]

end Run

/-- The members whose calls are refused, called for one after the other, each with its error. -/
def Grid.refusals (grid : Grid) (callFor : α → Call) :
    List Entry → List α → List (α × ServiceError)
  | _, [] => []
  | log, a :: rest =>
    let later := grid.refusals callFor (log ++ [.call (callFor a)]) rest
    match grid.answer log (callFor a) with
    | .ok _ => later
    | .error e => (a, e) :: later

namespace Run

/-- A loop that calls for each of its members and collects what is refused calls for all of
them, whatever became of the calls before. -/
theorem tryAll_apply {β : Type} (tryAll : List α → Run ε (List β)) (callFor : α → Call)
    (failure : α → ServiceError → β) (hnil : tryAll [] = Pure.pure [])
    (hcons : ∀ a rest, tryAll (a :: rest) = (do
      let result ← (ask (callFor a)).attempt
      let failures ← tryAll rest
      match result with
      | .ok _ => return failures
      | .error e => return failure a e :: failures))
    (members : List α) (grid : Grid) (log : List Entry) :
    tryAll members grid log =
      (.done ((grid.refusals callFor log members).map fun refused => failure refused.1 refused.2),
        log ++ members.map fun a => .call (callFor a)) := by
  induction members generalizing log with
  | nil =>
    rw [hnil, List.map_nil, List.append_nil]
    rfl
  | cons a rest ih =>
    have htried : ((ask (callFor a)).attempt : Run ε _) grid log = _ :=
      attempt_of_answer (ask_apply grid log (callFor a))
    have hrest := ih (log ++ [.call (callFor a)])
    rw [hcons, bind_of_done htried, bind_of_done hrest]
    simp only [Grid.refusals, List.map_cons, List.append_assoc, List.singleton_append]
    cases grid.answer log (callFor a) with
    | ok _ => rfl
    | error e => rfl

variable (grid : Grid) (log : List Entry)

/-- On this grid the run ends with a value, whatever the log that it starts from. -/
def Completes (run : Run ε α) (grid : Grid) : Prop :=
  ∀ log, ∃ a after, run grid log = (.done a, after)

namespace Completes

variable {grid : Grid} {β : Type}

theorem pure (a : α) : (Pure.pure a : Run ε α).Completes grid := fun log => ⟨a, log, rfl⟩

theorem bind {first : Run ε α} {next : α → Run ε β} (hfirst : first.Completes grid)
    (hnext : ∀ a, (next a).Completes grid) : (first >>= next).Completes grid := by
  intro log
  obtain ⟨a, mid, hrun⟩ := hfirst log
  rw [bind_of_done hrun]
  exact hnext a mid

theorem mapError {f : ε → ε'} {run : Run ε α} (h : run.Completes grid) :
    (run.mapError f).Completes grid := by
  intro log
  obtain ⟨a, after, hrun⟩ := h log
  exact ⟨a, after, mapError_apply_eq_done.mpr hrun⟩

theorem queryRows {text : String} {limit : Nat} {kind : QueryKind}
    (h : ∀ log, ∃ rows, rowsFound (grid.answer log (.query text limit kind)) = .ok rows) :
    (GridPolicy.queryRows text limit kind).Completes grid := by
  intro log
  obtain ⟨rows, hrows⟩ := h log
  rw [queryRows_apply, hrows]
  exact ⟨rows, _, rfl⟩

end Completes

end Run

/-- The objects of a path; without a name there is none to ask for. -/
def objectsOf (path : String) : Run ServiceError (List Row) :=
  if (LogicalPath.split path).2 == "" then pure []
  else queryRows (objectQuery (LogicalPath.split path).1 (LogicalPath.split path).2) 1 .general

/-- What a path names, once its objects are known. -/
def kindBehind (path : String) (objects : List Row) : Run ServiceError ObjectKind := do
  if !objects.isEmpty then return .dataObject
  let collections ← queryRows (collectionQuery path) 1 .general
  if !collections.isEmpty then return .collection
  return .missing

theorem objectKind_eq (path : String) : objectKind path = objectsOf path >>= kindBehind path := by
  unfold objectKind objectsOf
  dsimp only
  split
  · rfl
  · rfl

theorem leafBundle_apply (grid : Grid) (log : List Entry) (resource : String) :
    leafBundle resource grid log = match grid.answer log (.leafBundle resource) with
      | .ok [] => (.failed (.noLeaves resource), log ++ [.call (.leafBundle resource)])
      | .ok (id :: ids) => (.done (Text.join ", " ((id :: ids).map fun id =>
          "'" ++ toString id ++ "'")), log ++ [.call (.leafBundle resource)])
      | .error cause =>
        (.failed (.leavesFailed resource cause), log ++ [.call (.leafBundle resource)]) := by
  unfold leafBundle
  rw [Run.bind_apply, Run.mapError_apply, Run.ask]
  cases grid.answer log (.leafBundle resource) with
  | error cause => rfl
  | ok ids => cases ids <;> rfl

end GridPolicy
