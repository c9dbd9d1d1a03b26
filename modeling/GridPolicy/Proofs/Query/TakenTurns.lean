import GridPolicy.Proofs.Query.FanOut
import GridPolicy.Proofs.Run.Errors

/-!
# Turns that were taken

Policies that return may answer alike inputs differently, as the grid changes. What an
iteration does with them is then no list that can be written down in advance, but each turn
is taken from the log that the turns before it have left: the whole chain for one row after
the other, where the chain of a row may end at its first failure. What the iteration comes
to are the failures of these turns, or their number if there are none.
-/
namespace GridPolicy

namespace QueryIteration

/-- The query of the iteration, as it is sent. -/
abbrev mainCall (it : QueryIteration) : Call := .query it.query it.limit it.kind

/-- On this grid every policy of the chain gives an answer. -/
def Returns (it : QueryIteration) (invoke : Invoker) (grid : Grid) : Prop :=
  ∀ chained ∈ it.chain, ∀ row log, ∃ answer after,
    invoke chained.policy (it.parametersFor row chained) (it.configurationFor chained) grid log =
      (Outcome.ofExcept answer, after)

/-- A turn that was taken, and its answer. -/
abbrev TakenTurn := RowTurn × Except PolicyError Document

/-- The failure of a turn, if it failed: the row by its index, the policy by its name, and the
error by its code and its message. -/
def TakenTurn.failure? : TakenTurn → Option RowError
  | (_, .ok _) => none
  | (turn, .error e) => some {
      rowIndex := turn.index
      policy := turn.chained.policy
      code := e.status.code
      message := e.message }

section

variable (it : QueryIteration) (invoke : Invoker) (grid : Grid)

/-- For a row these turns of a chain are taken from this log on, and the log is left as it is
then. After a failure the others have their turns only if the iteration does not stop. -/
inductive ChainTaken (index : Nat) (row : Row) :
    List ChainedPolicy → List Entry → List TakenTurn → List Entry → Prop
  | nil {log : List Entry} : ChainTaken index row [] log [] log
  | succeeded {chained : ChainedPolicy} {rest : List ChainedPolicy} {log mid after : List Entry}
      {output : Document} {taken : List TakenTurn}
      (hrun : invoke chained.policy (it.parametersFor row chained) (it.configurationFor chained)
        grid log = (.done output, mid))
      (hrest : ChainTaken index row rest mid taken after) :
      ChainTaken index row (chained :: rest) log ((⟨index, row, chained⟩, .ok output) :: taken)
        after
  | failed {chained : ChainedPolicy} {rest : List ChainedPolicy} {log mid after : List Entry}
      {e : PolicyError} {taken : List TakenTurn} (hgoes : it.stopOnError = false)
      (hrun : invoke chained.policy (it.parametersFor row chained) (it.configurationFor chained)
        grid log = (.failed e, mid))
      (hrest : ChainTaken index row rest mid taken after) :
      ChainTaken index row (chained :: rest) log ((⟨index, row, chained⟩, .error e) :: taken)
        after
  | stopped {chained : ChainedPolicy} {rest : List ChainedPolicy} {log mid : List Entry}
      {e : PolicyError} (hstops : it.stopOnError = true)
      (hrun : invoke chained.policy (it.parametersFor row chained) (it.configurationFor chained)
        grid log = (.failed e, mid)) :
      ChainTaken index row (chained :: rest) log [(⟨index, row, chained⟩, .error e)] mid

/-- The whole chain has its turns for each of the rows, the first of which has this index. -/
inductive RowsTaken : Nat → List Row → List Entry → List TakenTurn → List Entry → Prop
  | nil {index : Nat} {log : List Entry} : RowsTaken index [] log [] log
  | cons {index : Nat} {row : Row} {rows : List Row} {log mid after : List Entry}
      {taken more : List TakenTurn}
      (hrow : it.ChainTaken invoke grid index row it.chain log taken mid)
      (hrest : RowsTaken (index + 1) rows mid more after) :
      RowsTaken index (row :: rows) log (taken ++ more) after

end

/-- The failures of turns, in order. -/
def failures (taken : List TakenTurn) : List RowError := taken.filterMap TakenTurn.failure?

/-- What the turns come to. -/
def tally (taken : List TakenTurn) : WorkerOutcome :=
  ⟨taken.countP fun turn => turn.2.isOk, failures taken⟩

variable {it : QueryIteration} {invoke : Invoker} {grid : Grid}

@[simp] theorem tally_nil : tally [] = {} := rfl

theorem tally_append (taken more : List TakenTurn) :
    tally (taken ++ more) = (tally taken).append (tally more) := by
  simp [tally, failures, WorkerOutcome.append]

theorem tally_cons_ok (turn : RowTurn) (output : Document) (taken : List TakenTurn) :
    tally ((turn, .ok output) :: taken) = WorkerOutcome.success.append (tally taken) :=
  tally_append [(turn, .ok output)] taken

theorem tally_cons_error (turn : RowTurn) (e : PolicyError) (taken : List TakenTurn) :
    tally ((turn, .error e) :: taken) =
      (WorkerOutcome.failure (rowError turn.index turn.chained.policy e)).append (tally taken) :=
  tally_append [(turn, .error e)] taken

/-- Where no turn failed, all of them succeeded. -/
theorem invocations_tally {taken : List TakenTurn} (h : failures taken = []) :
    (tally taken).invocations = taken.length := by
  refine List.countP_eq_length.mpr ?_
  rintro ⟨turn, answer⟩ hturn
  cases answer with
  | ok output => rfl
  | error e => exact absurd (List.filterMap_eq_nil_iff.mp h _ hturn) nofun

theorem RowsTaken.append {index : Nat} {rows more : List Row} {log mid after : List Entry}
    {taken taken' : List TakenTurn} (hfirst : it.RowsTaken invoke grid index rows log taken mid)
    (hrest : it.RowsTaken invoke grid (index + rows.length) more mid taken' after) :
    it.RowsTaken invoke grid index (rows ++ more) log (taken ++ taken') after := by
  induction hfirst with
  | nil => exact hrest
  | cons hrow _ ih =>
    rw [List.length_cons, ← Nat.add_assoc, Nat.add_right_comm] at hrest
    rw [List.cons_append, List.append_assoc]
    exact .cons hrow (ih hrest)

theorem ChainTaken.index_eq {index : Nat} {row : Row} {chain : List ChainedPolicy}
    {log after : List Entry} {taken : List TakenTurn}
    (h : it.ChainTaken invoke grid index row chain log taken after) :
    ∀ turn ∈ taken, turn.1.index = index := by
  induction h with
  | nil => simp
  | succeeded _ _ ih => simpa using ih
  | failed _ _ _ ih => simpa using ih
  | stopped => simp

theorem RowsTaken.le_index {index : Nat} {rows : List Row} {log after : List Entry}
    {taken : List TakenTurn} (h : it.RowsTaken invoke grid index rows log taken after) :
    ∀ turn ∈ taken, index ≤ turn.1.index := by
  induction h with
  | nil => simp
  | cons hrow _ ih =>
    intro turn hturn
    rcases List.mem_append.mp hturn with hturn | hturn
    · exact Nat.le_of_eq (hrow.index_eq turn hturn).symm
    · exact Nat.le_of_succ_le (ih turn hturn)

/-- The rows have their turns in order. -/
theorem RowsTaken.pairwise {index : Nat} {rows : List Row} {log after : List Entry}
    {taken : List TakenTurn} (h : it.RowsTaken invoke grid index rows log taken after) :
    taken.Pairwise fun a b => a.1.index ≤ b.1.index := by
  induction h with
  | nil => exact .nil
  | cons hrow hrest ih =>
    rw [List.pairwise_append]
    refine ⟨List.pairwise_of_forall_mem_list ?_, ih, ?_⟩
    · intro a ha b hb
      exact Nat.le_of_eq ((hrow.index_eq a ha).trans (hrow.index_eq b hb).symm)
    · intro a ha b hb
      rw [hrow.index_eq a ha]
      exact Nat.le_of_succ_le (hrest.le_index b hb)

/-- So the errors need no sorting. -/
theorem RowsTaken.sortByRow_failures {index : Nat} {rows : List Row} {log after : List Entry}
    {taken : List TakenTurn} (h : it.RowsTaken invoke grid index rows log taken after) :
    sortByRow (failures taken) = failures taken := by
  have hindex {turn : TakenTurn} {e : RowError} (he : turn.failure? = some e) :
      e.rowIndex = turn.1.index := by
    obtain ⟨turn, answer⟩ := turn
    cases answer with
    | ok output => cases he
    | error cause =>
      rw [← Option.some.inj he]
  have hsorted : (failures taken).Pairwise fun a b => a.rowIndex ≤ b.rowIndex := by
    refine h.pairwise.filterMap _ ?_
    intro a b hab e he e' he'
    rwa [hindex he, hindex he']
  exact eq_of_errorsOf (pairwise_sortByRow _) hsorted fun row => errorsOf_sortByRow row _

/-! The loop as it is run -/

section

variable (hreturns : it.Returns invoke grid)

include hreturns

theorem runChain_taken (index : Nat) (row : Row) {chain : List ChainedPolicy}
    (hchain : ∀ chained ∈ chain, chained ∈ it.chain) (log : List Entry) :
    ∃ taken after, it.ChainTaken invoke grid index row chain log taken after ∧
      it.runChain invoke index row chain grid log = (.done (tally taken), after) := by
  induction chain generalizing log with
  | nil => exact ⟨[], log, .nil, rfl⟩
  | cons chained rest ih =>
    obtain ⟨hfirst, hrest⟩ := List.forall_mem_cons.mp hchain
    obtain ⟨answer, mid, hrun⟩ := hreturns chained hfirst row log
    obtain ⟨taken, after, htaken, hlater⟩ := ih hrest mid
    rw [runChain, Run.bind_of_done (Run.attempt_of_answer hrun)]
    cases answer with
    | ok output =>
      refine ⟨_, after, .succeeded hrun htaken, ?_⟩
      rw [tally_cons_ok]
      exact Run.bind_of_done hlater
    | error e =>
      dsimp only
      cases hstops : it.stopOnError with
      | true =>
        refine ⟨_, mid, .stopped hstops hrun, ?_⟩
        rw [tally_cons_error, tally_nil, WorkerOutcome.append_empty]
        rfl
      | false =>
        refine ⟨_, after, .failed hstops hrun htaken, ?_⟩
        rw [tally_cons_error]
        exact Run.bind_of_done hlater

theorem runRows_taken (index : Nat) (rows : List Row) (log : List Entry) :
    ∃ taken after, it.RowsTaken invoke grid index rows log taken after ∧
      it.runRows invoke index rows grid log = (.done (tally taken), after) := by
  induction rows generalizing index log with
  | nil => exact ⟨[], log, .nil, rfl⟩
  | cons row rows ih =>
    obtain ⟨taken, mid, htaken, hfirst⟩ :=
      runChain_taken hreturns index row (fun _ h => h) log
    obtain ⟨more, after, hmore, hrest⟩ := ih (index + 1) mid
    refine ⟨taken ++ more, after, .cons htaken hmore, ?_⟩
    rw [runRows, Run.bind_of_done hfirst, Run.bind_of_done hrest, tally_append]
    rfl

/-- Workers that do not crash take the rows one run after the other. -/
theorem runWorkers_taken (index : Nat) (runs : List (List Row)) (log : List Entry) :
    ∃ taken outcomes after, it.RowsTaken invoke grid index runs.flatten log taken after ∧
      WorkerOutcome.total outcomes = tally taken ∧
      it.runWorkers invoke (consecutive index runs) grid log = (.done outcomes, after) := by
  induction runs generalizing index log with
  | nil => exact ⟨[], [], log, .nil, rfl, rfl⟩
  | cons rows runs ih =>
    obtain ⟨taken, mid, htaken, hrows⟩ := runRows_taken hreturns index rows log
    obtain ⟨more, outcomes, after, hmore, htotal, hrest⟩ := ih (index + rows.length) mid
    have hcatch : (it.runRows invoke index rows).catchCrash grid log =
        (.done (.ok (tally taken)), mid) := by rw [Run.catchCrash, hrows]
    have hworker : it.runWorker invoke index rows grid log = (.done (tally taken), mid) :=
      Run.bind_of_done hcatch
    refine ⟨taken ++ more, tally taken :: outcomes, after, ?_, ?_, ?_⟩
    · rw [List.flatten_cons]
      exact htaken.append hmore
    · rw [WorkerOutcome.total_cons, htotal, tally_append]
    · rw [consecutive, runWorkers, Run.bind_of_done hworker, Run.bind_of_done hrest]
      rfl

/-- What the iteration comes to once its query was answered: the counts where no turn failed,
and otherwise the failures of those that did. -/
theorem run_taken {log mid : List Entry} {fetched : List Row}
    (hfetched : queryRows it.query it.limit it.kind grid log = (.done fetched, mid)) :
    ∃ taken after, it.RowsTaken invoke grid 0 (it.rowsFor fetched) mid taken after ∧
      it.run invoke grid log =
        (if failures taken = [] then
            .done ⟨(it.rowsFor fetched).length, taken.length, it.fallsBack fetched⟩
          else .failed (.rowFailures it.query (failures taken)), after) := by
  unfold run
  rw [Run.bind_of_done (Run.mapError_apply_eq_done.mpr hfetched), chooseRows_eq]
  dsimp only
  by_cases hempty : it.rowsFor fetched = []
  · rw [hempty, fallsBack_of_rowsFor hempty]
    exact ⟨[], mid, .nil, rfl⟩
  · obtain ⟨taken, outcomes, after, htaken, htotal, hrun⟩ := runWorkers_taken hreturns 0
      (it.divided (it.rowsFor fetched)) mid
    rw [flatten_divided] at htaken
    rw [← numbered_divided, divided] at hrun
    refine ⟨taken, after, htaken, ?_⟩
    -- Only here is it used that the errors need no sorting: the workers are joined in the order
    -- of their runs, and the rows of each are in order.
    have hfilled : (it.rowsFor fetched).isEmpty = false := by simpa using hempty
    simp only [hfilled, Bool.false_eq_true, ↓reduceIte]
    rw [Run.bind_of_done hrun]
    unfold conclude
    dsimp only
    rw [htotal]
    have herrors : (tally taken).errors = failures taken := rfl
    rw [herrors, htaken.sortByRow_failures]
    by_cases hnone : failures taken = []
    · rw [if_pos hnone, if_pos (by simp [hnone]), invocations_tally hnone]
      rfl
    · rw [if_neg hnone, if_neg (by simpa using hnone)]
      rfl

end

/-! No error of the chain is one of the loop, whatever the policies do. -/

theorem runChain_failsIn (it : QueryIteration) (invoke : Invoker) (index : Nat) (row : Row)
    (chain : List ChainedPolicy) : (it.runChain invoke index row chain).FailsIn fun _ => False := by
  induction chain with
  | nil => exact .pure _
  | cons chained rest ih =>
    refine .bind (.attempt _) fun result => ?_
    cases result with
    | ok output => exact .bind ih fun _ => .pure _
    | error e =>
      dsimp only
      split
      · exact .pure _
      · exact .bind ih fun _ => .pure _

theorem runRows_failsIn (it : QueryIteration) (invoke : Invoker) (index : Nat)
    (rows : List Row) : (it.runRows invoke index rows).FailsIn fun _ => False := by
  induction rows generalizing index with
  | nil => exact .pure _
  | cons row rest ih =>
    exact .bind (runChain_failsIn it invoke index row it.chain) fun _ => .bind (ih _) fun _ =>
      .pure _

theorem runWorkers_failsIn (it : QueryIteration) (invoke : Invoker)
    (runs : List (Nat × List Row)) : (it.runWorkers invoke runs).FailsIn fun _ => False := by
  induction runs with
  | nil => exact .pure _
  | cons run rest ih =>
    obtain ⟨index, rows⟩ := run
    refine .bind (.bind (.catchCrash (runRows_failsIn it invoke index rows)) fun result => ?_)
      fun _ => .bind ih fun _ => .pure _
    cases result with
    | ok outcome => exact .pure _
    | error detail => exact .pure _

/-- An iteration fails with the error of its query, and then whatever its policies would do, or
with the errors of its rows. -/
theorem run_failed {log after : List Entry} {e : QueryError}
    (h : it.run invoke grid log = (.failed e, after)) :
    (∀ other, it.run other grid log = (.failed e, after)) ∨
      ∃ query errors, e = .rowFailures query errors := by
  rcases Run.failed_of_bind h with hquery | ⟨fetched, mid, -, hrest⟩
  · exact .inl fun other => Run.bind_of_stop hquery rfl
  · right
    refine (?_ : Run.FailsIn (fun e => ∃ query errors, e = .rowFailures query errors) _)
      grid mid e after hrest
    dsimp only
    split
    · exact .pure _
    refine .bind ((runWorkers_failsIn it invoke _).mono fun _ => False.elim) fun outcomes => ?_
    refine .ofExcept fun e he => ?_
    unfold conclude at he
    dsimp only at he
    split at he
    · cases he
    · exact ⟨_, _, (Except.error.inj he).symm⟩

end QueryIteration

end GridPolicy
