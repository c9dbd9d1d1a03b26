import GridPolicy.Proofs.Query.RowOrder
import GridPolicy.Proofs.Query.Workers

/-!
# The fan-out is the loop

However many workers there are, and in whatever order they take their steps and end,
they make the invocations that the loop over the rows makes, and what they did amounts
to the result of the loop: every row has one worker, and the errors are sorted by row
with those of one row in the order of the chain.
-/
namespace GridPolicy

namespace QueryIteration

section

variable (it : QueryIteration) (reply : Reply)

/-- The turns for a run of rows, which comes with the index of its first row. -/
def turnsOf (run : Nat × List Row) : List RowTurn := it.turns reply run.1 run.2

/-- What comes of runs of rows, one by one. -/
def portions (runs : List (Nat × List Row)) : List WorkerOutcome :=
  runs.map fun run => it.outcomeOf reply (it.turnsOf reply run)

/-- The runs of rows that the workers take, each with the index of its first row. -/
def shares (rows : List Row) : List (Nat × List Row) :=
  numbered (chunkSize rows.length it.workers) (it.divided rows)

end

variable {it : QueryIteration} {reply : Reply}

/-- Where each run begins where the one before it ends, their turns are those of the loop. -/
theorem flatMap_turnsOf_consecutive (index : Nat) (runs : List (List Row)) :
    (consecutive index runs).flatMap (it.turnsOf reply) = it.turns reply index runs.flatten := by
  induction runs generalizing index with
  | nil => rfl
  | cons rows runs ih =>
    rw [consecutive, List.flatMap_cons, ih, List.flatten_cons, turns_append]
    rfl

theorem flatMap_turnsOf_shares (rows : List Row) :
    (it.shares rows).flatMap (it.turnsOf reply) = it.turns reply 0 rows := by
  rw [shares, numbered_divided, flatMap_turnsOf_consecutive, flatten_divided]

theorem total_portions (runs : List (Nat × List Row)) :
    WorkerOutcome.total (it.portions reply runs) =
      it.outcomeOf reply (runs.flatMap (it.turnsOf reply)) := by
  induction runs with
  | nil => rfl
  | cons run runs ih =>
    rw [List.flatMap_cons, outcomeOf_append, ← ih]
    rfl

/-- What comes of later rows has errors of later rows only. -/
theorem le_rowIndex_of_mem_portions {index : Nat} {runs : List (List Row)}
    {outcome : WorkerOutcome} {e : RowError}
    (h : outcome ∈ it.portions reply (consecutive index runs))
    (he : e ∈ outcome.errors) : index ≤ e.rowIndex := by
  induction runs generalizing index with
  | nil => cases h
  | cons rows runs ih =>
    rcases List.mem_cons.mp h with rfl | h
    · obtain ⟨turn, hturn, hrow⟩ := index_of_mem_errors he
      exact hrow ▸ (index_of_mem_turns hturn).1
    · exact Nat.le_trans (Nat.le_add_right ..) (ih h)

theorem pairwise_portions (index : Nat) (runs : List (List Row)) :
    ((it.portions reply (consecutive index runs)).map (·.errors)).Pairwise fun a b =>
      ∀ e ∈ a, ∀ e' ∈ b, e.rowIndex ≠ e'.rowIndex := by
  induction runs generalizing index with
  | nil => exact .nil
  | cons rows runs ih =>
    rw [consecutive, portions, List.map_cons, List.map_cons, List.pairwise_cons]
    refine ⟨?_, ih _⟩
    intro errors herrors e he e' he'
    obtain ⟨outcome, houtcome, rfl⟩ := List.mem_map.mp herrors
    obtain ⟨turn, hturn, hrow⟩ := index_of_mem_errors he
    have hlater := le_rowIndex_of_mem_portions houtcome he'
    have hearlier : turn.index < index + rows.length := (index_of_mem_turns hturn).2
    omega

/-- In whatever order the outcomes are put together, they amount to the result of the
loop. -/
theorem conclude_of_perm {rows : List Row} {outcomes : List WorkerOutcome}
    (hperm : outcomes.Perm (it.portions reply (it.shares rows))) (usedDefaultRows : Bool) :
    it.conclude rows.length usedDefaultRows outcomes =
      it.loopResult reply rows usedDefaultRows := by
  have htotal : WorkerOutcome.total (it.portions reply (it.shares rows)) =
      it.outcomeOf reply (it.turns reply 0 rows) := by
    rw [total_portions, flatMap_turnsOf_shares]
  have hinvocations : (WorkerOutcome.total outcomes).invocations =
      (it.turns reply 0 rows).countP (it.succeeds reply) := by
    rw [WorkerOutcome.invocations_total, (hperm.map _).sum_nat,
      ← WorkerOutcome.invocations_total, htotal]
    rfl
  have hflatten : ((it.portions reply (it.shares rows)).map (·.errors)).flatten =
      (it.turns reply 0 rows).filterMap (it.failure? reply) := by
    rw [← List.flatMap_def, ← WorkerOutcome.errors_total, htotal]
    rfl
  have hsorted : sortByRow (WorkerOutcome.total outcomes).errors =
      (it.turns reply 0 rows).filterMap (it.failure? reply) := by
    rw [WorkerOutcome.errors_total, List.flatMap_def, ← hflatten]
    refine sortByRow_flatten_of_perm (hperm.map _).symm ?_ ?_
    · rw [hflatten]
      exact pairwise_errors (pairwise_turns _ _)
    · rw [shares, numbered_divided]
      exact pairwise_portions _ _
  have hempty : (WorkerOutcome.total outcomes).errors.isEmpty =
      ((it.turns reply 0 rows).filterMap (it.failure? reply)).isEmpty := by
    rw [← hsorted]
    exact (List.mergeSort_perm _ _).isEmpty_eq.symm
  unfold conclude loopResult
  dsimp only
  rw [hempty, hsorted, hinvocations]
  cases (it.turns reply 0 rows).filterMap (it.failure? reply) <;> rfl

end QueryIteration

/-- The worker for a run of rows, which comes with the index of its first row. -/
def Worker.start (run : Nat × List Row) : Worker := { index := run.1, rows := run.2 }

section

variable {it : QueryIteration} {reply : Reply}

theorem Worker.final_start (run : Nat × List Row) :
    (start run).final it reply = it.outcomeOf reply (it.turnsOf reply run) :=
  WorkerOutcome.empty_append _

namespace Pool

/-- The pool for rows, before the first step. -/
def start (it : QueryIteration) (rows : List Row) : Pool :=
  ⟨(it.shares rows).map Worker.start, [], []⟩

variable {rows : List Row} {pool : Pool}

/-- What the workers are going to invoke is what the loop invokes. -/
theorem invocations_start (rows : List Row) :
    (start it rows).invocations it reply = it.loopInvocations reply rows := by
  rw [QueryIteration.loopInvocations, ← QueryIteration.flatMap_turnsOf_shares,
    List.map_flatMap, invocations, start, List.nil_append, List.flatMap_map]
  rfl

theorem outcomes_start (rows : List Row) :
    (start it rows).outcomes it reply = it.portions reply (it.shares rows) := by
  rw [outcomes, start, List.nil_append, List.map_map]
  exact List.map_congr_left fun run _ => Worker.final_start run

theorem Complete.invocations_eq (it : QueryIteration) (reply : Reply) (h : pool.Complete) :
    pool.invocations it reply = pool.made := by
  rw [invocations, h, List.flatMap_nil, List.append_nil]

theorem Complete.outcomes_eq (it : QueryIteration) (reply : Reply) (h : pool.Complete) :
    pool.outcomes it reply = pool.finished := by
  rw [outcomes, h, List.map_nil, List.append_nil]

/-- When all workers were waited for, the invocations of the loop have been made. -/
theorem made_perm_of_complete (hreaches : Reaches it reply (start it rows) pool)
    (hcomplete : pool.Complete) : pool.made.Perm (it.loopInvocations reply rows) := by
  rw [← hcomplete.invocations_eq it reply, ← invocations_start]
  exact hreaches.invocations_perm

theorem finished_perm_of_complete (hreaches : Reaches it reply (start it rows) pool)
    (hcomplete : pool.Complete) :
    pool.finished.Perm (it.portions reply (it.shares rows)) := by
  rw [← hcomplete.outcomes_eq it reply, ← outcomes_start]
  exact hreaches.outcomes_perm

end Pool

end

namespace QueryIteration

variable {it : QueryIteration} {reply : Reply} {invoke : Invoker} {grid : Grid}

theorem runWorkers_of_answeredBy (hanswered : it.AnsweredBy reply invoke grid)
    (runs : List (Nat × List Row)) (log : List Entry) :
    ∃ after, Invocation.Made invoke grid log
        ((runs.flatMap (it.turnsOf reply)).map it.turnInvocation) after ∧
      it.runWorkers invoke runs grid log = (.done (it.portions reply runs), after) := by
  induction runs generalizing log with
  | nil => exact ⟨log, .nil, rfl⟩
  | cons run runs ih =>
    obtain ⟨mid, hmade, hfirst⟩ := runWorker_of_answeredBy hanswered run.1 run.2 log
    obtain ⟨after, hafter, hrest⟩ := ih mid
    refine ⟨after, ?_, ?_⟩
    · rw [List.flatMap_cons, List.map_append]
      exact hmade.append hafter
    · rw [runWorkers, Run.bind_of_done hfirst, Run.bind_of_done hrest]
      rfl

/-- Carried out one after the other, the workers make the invocations of the loop in its
order. -/
theorem run_of_answeredBy {log mid : List Entry} {fetched : List Row}
    (hanswered : it.AnsweredBy reply invoke grid)
    (hfetched : queryRows it.query it.limit it.kind grid log = (.done fetched, mid)) :
    ∃ after, Invocation.Made invoke grid mid (it.loopInvocations reply (it.rowsFor fetched))
        after ∧
      it.run invoke grid log = (Outcome.ofExcept
        (it.loopResult reply (it.rowsFor fetched) (it.fallsBack fetched)), after) := by
  unfold run
  rw [Run.bind_of_done (Run.mapError_apply_eq_done.mpr hfetched), chooseRows_eq]
  dsimp only
  by_cases hempty : it.rowsFor fetched = []
  · rw [hempty, fallsBack_of_rowsFor hempty]
    exact ⟨mid, .nil, rfl⟩
  · obtain ⟨after, hmade, hrun⟩ := runWorkers_of_answeredBy hanswered
      (it.shares (it.rowsFor fetched)) mid
    rw [flatMap_turnsOf_shares] at hmade
    rw [shares, divided] at hrun
    refine ⟨after, hmade, ?_⟩
    have hfilled : (it.rowsFor fetched).isEmpty = false := by simpa using hempty
    simp only [hfilled, Bool.false_eq_true, ↓reduceIte]
    rw [Run.bind_of_done hrun, ← divided, ← shares, conclude_of_perm (.refl _)]
    cases it.loopResult reply (it.rowsFor fetched) (it.fallsBack fetched) <;> rfl

/-- Where every policy of the chain returns an answer that depends on nothing but what it
receives, the iteration is the loop over the rows: it makes the same invocations with the
same result. So does every pool of workers on these rows, whatever steps it takes, and it
can always take them to the end. A policy of the chain receives the row, then what is its
own, then what is given for all. -/
theorem run_eq_loop {log mid : List Entry} {fetched : List Row}
    (hanswered : it.AnsweredBy reply invoke grid)
    (hfetched : queryRows it.query it.limit it.kind grid log = (.done fetched, mid)) :
    let rows := it.rowsFor fetched
    let result := it.loopResult reply rows (it.fallsBack fetched)
    (∃ after, Invocation.Made invoke grid mid (it.loopInvocations reply rows) after ∧
      it.run invoke grid log = (Outcome.ofExcept result, after)) ∧
    (∀ pool, Pool.Reaches it reply (Pool.start it rows) pool →
      (∃ last, Pool.Reaches it reply pool last ∧ last.Complete) ∧
      (pool.Complete → pool.made.Perm (it.loopInvocations reply rows) ∧
        it.conclude rows.length (it.fallsBack fetched) pool.finished = result)) ∧
    ∀ row chained,
      (it.invocation row chained).configuration =
        chained.configuration.getD it.defaultConfiguration ∧
      ∀ key, (it.invocation row chained).parameters.get? key =
        if key = Key.queryResults then some (.ofTexts row)
        else (chained.parameters.bind (·.get? key)).or (it.baseParameters.get? key) := by
  intro rows result
  refine ⟨run_of_answeredBy hanswered hfetched, ?_, ?_⟩
  · intro pool hreaches
    refine ⟨Pool.exists_complete it reply pool, fun hcomplete => ⟨?_, ?_⟩⟩
    · exact Pool.made_perm_of_complete hreaches hcomplete
    · exact conclude_of_perm (Pool.finished_perm_of_complete hreaches hcomplete) _
  · intro row chained
    exact ⟨rfl, get?_parametersFor it row chained⟩

/-- Two policies for every row, and two workers. -/
def twofold : QueryIteration where
  query := "SELECT DATA_NAME"
  workers := 2
  chain := [{ policy := "alpha" }, { policy := "beta" }]

/-- The policy of this name fails, and no other. -/
def refusing (name : String) : Reply := fun i =>
  if i.policy == name then .error (.unknownPolicy "gamma") else .ok .null

/-- A catalog that finds three rows. -/
def threeRows : Grid where
  now := 0
  answer _ call :=
    match call with
    | .query _ _ _ => .ok [["a"], ["b"], ["c"]]
    | _ => .error (.unknownResource "")

/-- The failure of `alpha` for a row. -/
def alphaFails (row : Nat) : RowError where
  rowIndex := row
  policy := "alpha"
  code := -130000
  message := "policy [gamma] is not registered"

/-- Three rows for two workers, who take the first two and the last: where `alpha` fails the
failures are those of the loop, and where nothing fails all invocations are counted. -/
theorem run_eq_loop_twofold :
    let failures : QueryError := .rowFailures "SELECT DATA_NAME" ([0, 1, 2].map alphaFails)
    (twofold.run (refusing "alpha").invoker threeRows []).1 = .failed failures ∧
    (∃ last, Pool.Reaches twofold (refusing "alpha")
        (Pool.start twofold [["a"], ["b"], ["c"]]) last ∧ last.Complete ∧
      last.made.length = 6 ∧ twofold.conclude 3 false last.finished = .error failures) ∧
    (twofold.run (refusing "gamma").invoker threeRows []).1 = .done ⟨3, 6, false⟩ ∧
    ∃ last, Pool.Reaches twofold (refusing "gamma")
        (Pool.start twofold [["a"], ["b"], ["c"]]) last ∧ last.Complete ∧
      twofold.conclude 3 false last.finished = .ok ⟨3, 6, false⟩ := by
  intro failures
  have hfetched : queryRows twofold.query twofold.limit twofold.kind threeRows [] =
      (.done [["a"], ["b"], ["c"]], _) := rfl
  have hends (name : String) : ∃ last, Pool.Reaches twofold (refusing name)
      (Pool.start twofold [["a"], ["b"], ["c"]]) last ∧ last.Complete ∧
      last.made.length = (twofold.loopInvocations (refusing name) [["a"], ["b"], ["c"]]).length ∧
      twofold.conclude 3 false last.finished =
        twofold.loopResult (refusing name) [["a"], ["b"], ["c"]] false ∧
      (twofold.run (refusing name).invoker threeRows []).1 = Outcome.ofExcept
        (twofold.loopResult (refusing name) [["a"], ["b"], ["c"]] false) := by
    obtain ⟨⟨after, -, hrun⟩, hpools, -⟩ :=
      run_eq_loop (answeredBy_invoker twofold (refusing name) threeRows) hfetched
    obtain ⟨⟨last, hreaches, hcomplete⟩, -⟩ := hpools _ .refl
    obtain ⟨-, hlast⟩ := hpools last hreaches
    obtain ⟨hmade, hconclude⟩ := hlast hcomplete
    exact ⟨last, hreaches, hcomplete, hmade.length_eq, hconclude, congrArg Prod.fst hrun⟩
  obtain ⟨failing, hreaches, hcomplete, hmade, hconclude, hrun⟩ := hends "alpha"
  obtain ⟨last, hreaches', hcomplete', -, hconclude', hrun'⟩ := hends "gamma"
  have hfailures : twofold.loopResult (refusing "alpha") [["a"], ["b"], ["c"]] false =
      .error failures := rfl
  have hcounts : twofold.loopResult (refusing "gamma") [["a"], ["b"], ["c"]] false =
      .ok ⟨3, 6, false⟩ := rfl
  rw [hfailures] at hconclude hrun
  rw [hcounts] at hconclude' hrun'
  exact ⟨hrun, ⟨failing, hreaches, hcomplete, hmade, hconclude⟩, hrun', last, hreaches',
    hcomplete', hconclude'⟩

end QueryIteration

end GridPolicy
