import GridPolicy.Proofs.Query.NamedTokens
import GridPolicy.Proofs.Query.Prepared
import GridPolicy.Proofs.Query.TakenTurns

/-!
# Failing clean

A query processor asks everything that it has to ask before it invokes anything. So where
it fails of itself nothing was invoked, and once its query was answered it can only report
what became of the rows: the chain of each row is run to its end, or to its first failure
where that is asked for, and the errors of the chain are reported row by row.
-/
namespace GridPolicy

namespace QueryProcessor

variable {invoke : Invoker} {i : Invocation} {grid : Grid} {log : List Entry}

/-- How a query processor ends, and with which log: it fails before it has sent its query or
because that failed, or the chain has its turns for every row and what became of them is
reported. The rows are those that were found, or else the default rows of the parameters. -/
inductive Ends (invoke : Invoker) (i : Invocation) (grid : Grid) (log : List Entry) :
    Outcome PolicyError Document → List Entry → Prop
  | unprepared {e : PolicyError} {asked : List Entry}
      (hprepared : iteration i grid log = (.failed e, log ++ asked)) (hclean : ¬e.OfRows)
      (hasked : ∀ entry ∈ asked, Preliminary i entry) :
      Ends invoke i grid log (.failed e) (log ++ asked)
  | unanswered {it : QueryIteration} {asked : List Entry} {cause : ServiceError}
      (hprepares : Prepares i grid log it asked)
      (hanswer : rowsFound (grid.answer (log ++ asked) it.mainCall) = .error cause) :
      Ends invoke i grid log (.failed (.query (.service cause)))
        (log ++ asked ++ [.call it.mainCall])
  | succeeded {it : QueryIteration} {asked after : List Entry} {fetched : List Row}
      {taken : List QueryIteration.TakenTurn} (hprepares : Prepares i grid log it asked)
      (hanswer : rowsFound (grid.answer (log ++ asked) it.mainCall) = .ok fetched)
      (htaken : it.RowsTaken invoke grid 0 (it.rowsFor fetched)
        (log ++ asked ++ [.call it.mainCall]) taken after)
      (hnone : QueryIteration.failures taken = []) :
      Ends invoke i grid log (.done (report
        ⟨(it.rowsFor fetched).length, taken.length, it.fallsBack fetched⟩)) after
  | failed {it : QueryIteration} {asked after : List Entry} {fetched : List Row}
      {taken : List QueryIteration.TakenTurn} (hprepares : Prepares i grid log it asked)
      (hanswer : rowsFound (grid.answer (log ++ asked) it.mainCall) = .ok fetched)
      (htaken : it.RowsTaken invoke grid 0 (it.rowsFor fetched)
        (log ++ asked ++ [.call it.mainCall]) taken after)
      (hsome : QueryIteration.failures taken ≠ []) :
      Ends invoke i grid log
        (.failed (.query (.rowFailures it.query (QueryIteration.failures taken)))) after

/-- Where it fails with an error that is not about rows, it would do so whatever policies there
were. -/
theorem body_of_clean {e : PolicyError} {after : List Entry}
    (h : body invoke i grid log = (.failed e, after)) (hclean : ¬e.OfRows) (other : Invoker) :
    body other i grid log = (.failed e, after) := by
  rcases Run.failed_of_bind h with hprepared | ⟨it, mid, hprepared, hrest⟩
  · exact Run.bind_of_stop hprepared rfl
  rcases Run.failed_of_bind hrest with hturned | ⟨summary, _, -, hreport⟩
  · obtain ⟨e, hrun, rfl⟩ := Run.failed_of_mapError hturned
    rcases QueryIteration.run_failed hrun with hsame | ⟨query, errors, rfl⟩
    · have hother : ((it.run other).mapError PolicyError.query) grid mid =
          (.failed (.query e), after) := Run.mapError_of_failed (hsame other)
      exact (Run.bind_of_done hprepared).trans (Run.bind_of_stop hother rfl)
    · exact absurd ⟨query, errors, rfl⟩ hclean
  · cases hreport

theorem body_ends (hreturns : ∀ it mid, iteration i grid log = (.done it, mid) →
      it.Returns invoke grid) :
    Ends invoke i grid log (body invoke i grid log).1 (body invoke i grid log).2 := by
  obtain ⟨answer, mid, hprepared, hclean⟩ := iteration_answersIn i grid log
  cases answer with
  | error e =>
    obtain ⟨asked, hlog, hasked⟩ := iteration_addsOnly (i := i) grid log
    have hbody : body invoke i grid log = (.failed e, mid) := Run.bind_of_stop hprepared rfl
    rw [hprepared] at hlog
    dsimp only at hlog
    subst hlog
    rw [hbody]
    exact .unprepared hprepared (hclean e rfl) hasked
  | ok it =>
    obtain ⟨asked, rfl, hprepares⟩ := prepares_of_done hprepared
    have hbody : body invoke i grid log = (do
        let summary ← (it.run invoke).mapError PolicyError.query
        return report summary) grid (log ++ asked) := Run.bind_of_done hprepared
    rw [hbody]
    cases hanswer : rowsFound (grid.answer (log ++ asked) it.mainCall) with
    | error cause =>
      have hrun : it.run invoke grid (log ++ asked) = (.failed (.service cause), _) :=
        Run.bind_of_stop (Run.mapError_of_failed (Run.queryRows_of_refused hanswer)) rfl
      rw [Run.bind_of_stop (Run.mapError_of_failed hrun) rfl]
      exact .unanswered hprepares hanswer
    | ok fetched =>
      obtain ⟨taken, after, htaken, hrun⟩ :=
        QueryIteration.run_taken (hreturns it _ hprepared) (Run.queryRows_of_rows hanswer)
      by_cases hnone : QueryIteration.failures taken = []
      · rw [if_pos hnone] at hrun
        rw [Run.bind_of_done (Run.mapError_apply_eq_done.mpr hrun)]
        exact .succeeded hprepares hanswer htaken hnone
      · rw [if_neg hnone] at hrun
        rw [Run.bind_of_stop (Run.mapError_of_failed hrun) rfl]
        exact .failed hprepares hanswer htaken hnone

/-- A query processor that fails with an error that is not about rows has invoked nothing: it
fails alike whatever policies there are. And where the policies of its chain return, it either
fails so, or has sent its query once, after none but the preliminary questions, and run the chain
that its parameters list for each of the rows; what the policies of the chain fail with is
reported as errors of rows and not otherwise. -/
theorem fails_clean (invoke : Invoker) (i : Invocation) (grid : Grid) (log : List Entry) :
    (∀ e after, body invoke i grid log = (.failed e, after) → ¬e.OfRows →
      ∀ other, body other i grid log = (.failed e, after)) ∧
    ((∀ it mid, iteration i grid log = (.done it, mid) → it.Returns invoke grid) →
      Ends invoke i grid log (body invoke i grid log).1 (body invoke i grid log).2) :=
  ⟨fun _ _ h hclean => body_of_clean h hclean, body_ends⟩

/-- Two policies for every row of a query, the chain of a row stopping at its first failure, and
a row for the case that there is none. -/
def asking : Document :=
  .object
    [(defaultRowsKey, .array [.array [.text "d"], .text "e"]),
     (Key.policiesToInvoke, .array
       [.object [("policy", .text "alpha")], .object [("policy", .text "beta")]]),
     ("query_string", .text "SELECT DATA_NAME"),
     ("stop_on_error", .text "True")]

/-- The iteration that is asked for. -/
def asked : QueryIteration where
  query := "SELECT DATA_NAME"
  workers := defaultWorkers
  chain := [{ policy := "alpha" }, { policy := "beta" }]
  baseParameters := asking.fields
  stopOnError := true
  defaultRows := [["d"]]

/-- A catalog that finds nothing. -/
def emptyCatalog : Grid where
  now := 0
  answer _ call :=
    match call with
    | .query text _ _ => .error (.noRowsFound text)
    | _ => .error (.unknownResource "")

theorem iteration_asking :
    iteration ⟨name, asking, .emptyObject⟩ emptyCatalog [] = (.done asked, []) := by
  have hplain : ¬ Token.opening.toList <:+: "SELECT DATA_NAME".toList := by decide
  have hquery : asking.filledField? "query_string" = some "SELECT DATA_NAME" := by decide
  have hchain : chain ⟨name, asking, .emptyObject⟩ = pure asked.chain := rfl
  have hrow : Template.fillRow "SELECT DATA_NAME" (ownRow asking) = "SELECT DATA_NAME" := rfl
  unfold iteration
  rw [hquery]
  simp only [hchain, hrow, Template.fillNamed_of_plain hplain]
  rfl

theorem eq_asked {it : QueryIteration} {added : List Entry}
    (h : Prepares ⟨name, asking, .emptyObject⟩ emptyCatalog [] it added) :
    it = asked ∧ added = [] := by
  have hdone := iteration_asking.symm.trans h.done
  cases hdone
  exact ⟨rfl, rfl⟩

theorem returns_invoker (it : QueryIteration) (reply : Reply) (grid : Grid) :
    it.Returns reply.invoker grid := by
  intro chained hchained row log
  refine ⟨reply (it.invocation row chained), _, Prod.ext ?_ rfl⟩
  exact QueryIteration.answeredBy_invoker it reply grid chained hchained row log

/-- No policy is known. -/
def refusingAll : Reply := fun _ => .error (.unknownPolicy "gamma")

/-- The query is sent once and finds nothing, so the chain is run for the default row; it stops at
the failure of its first policy, which is reported. Without a query nothing is invoked, whatever
the policies would do. -/
theorem fails_clean_refusing :
    body refusingAll.invoker ⟨name, asking, .emptyObject⟩ emptyCatalog [] =
      (.failed (.query (.rowFailures "SELECT DATA_NAME" [QueryIteration.alphaFails 0])),
        [.call (.query "SELECT DATA_NAME" 0 .general)]) ∧
    ∀ other, body other ⟨name, .emptyObject, .emptyObject⟩ emptyCatalog [] =
      (.failed (.invalidInput name "empty query string"), []) := by
  refine ⟨?_, ?_⟩
  · have hends := (fails_clean refusingAll.invoker ⟨name, asking, .emptyObject⟩
      emptyCatalog []).2 fun it _ _ => returns_invoker it _ _
    generalize hbody : body refusingAll.invoker ⟨name, asking, .emptyObject⟩ emptyCatalog [] =
      ended at hends ⊢
    obtain ⟨o, after⟩ := ended
    cases hends with
    | unprepared hprepared =>
      rw [iteration_asking] at hprepared
      cases hprepared
    | unanswered hprepares hanswer =>
      obtain ⟨rfl, rfl⟩ := eq_asked hprepares
      cases hanswer
    | succeeded hprepares hanswer htaken hnone =>
      obtain ⟨rfl, rfl⟩ := eq_asked hprepares
      obtain rfl := Except.ok.inj hanswer
      cases htaken with
      | cons hrow hrest =>
        cases hrow with
        | succeeded hrun => cases hrun
        | failed => cases hnone
        | stopped => cases hnone
    | failed hprepares hanswer htaken =>
      obtain ⟨rfl, rfl⟩ := eq_asked hprepares
      obtain rfl := Except.ok.inj hanswer
      cases htaken with
      | cons hrow hrest =>
        cases hrest
        cases hrow with
        | succeeded hrun => cases hrun
        | failed hgoes => cases hgoes
        | stopped _ hrun =>
          cases hrun
          rfl
  · have hbody : body refusingAll.invoker ⟨name, .emptyObject, .emptyObject⟩ emptyCatalog [] =
        (.failed (.invalidInput name "empty query string"), []) := rfl
    exact (fails_clean _ _ _ _).1 _ _ hbody nofun

end QueryProcessor

end GridPolicy
