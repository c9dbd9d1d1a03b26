import GridPolicy.Proofs.Query.RowRuns
import GridPolicy.Proofs.Run.Additions
import GridPolicy.Proofs.Run.Sequence
import Mathlib.Algebra.Ring.Nat

/-!
# The loop over rows

For each row in order and each policy of the chain in order there is one invocation,
but the chain of a row ends at its first failure if the iteration stops on errors.
Where the answers depend on nothing but what the policies receive, the invocations of
this loop are a list that can be written down in advance, and what the loop amounts to
follows from it.
-/
namespace GridPolicy

/-- Answers that depend on nothing but what the policies receive. -/
abbrev Reply := Invocation → Except PolicyError Document

/-- An invoker that gives these answers and does nothing else. -/
def Reply.invoker (reply : Reply) : Invoker := fun policy parameters configuration =>
  Run.ofExcept (reply ⟨policy, parameters, configuration⟩)

/-- A policy of the chain in its turn for a row. -/
structure RowTurn where
  index : Nat
  row : Row
  chained : ChainedPolicy

/-- From this log the invocations are made one after the other, whatever they answer, and
the log is left as it is then. -/
inductive Invocation.Made (invoke : Invoker) (grid : Grid) :
    List Entry → List Invocation → List Entry → Prop
  | nil {log : List Entry} : Made invoke grid log [] log
  | cons {log mid after : List Entry} {i : Invocation} {rest : List Invocation}
      {answer : Outcome PolicyError Document}
      (hrun : invoke i.policy i.parameters i.configuration grid log = (answer, mid))
      (hrest : Made invoke grid mid rest after) : Made invoke grid log (i :: rest) after

theorem Invocation.Made.append {invoke : Invoker} {grid : Grid} {log mid after : List Entry}
    {invocations more : List Invocation} (hfirst : Made invoke grid log invocations mid)
    (hrest : Made invoke grid mid more after) :
    Made invoke grid log (invocations ++ more) after := by
  induction hfirst with
  | nil => exact hrest
  | cons hrun _ ih => exact .cons hrun (ih hrest)

namespace Fields

/-- Only a key that is missing is looked up among the spare fields. -/
theorem get?_fillMissing (target spare : Fields) (key : String) :
    (target.fillMissing spare).get? key = (target.get? key).or (spare.get? key) := by
  induction spare generalizing target with
  | nil => simp [fillMissing]
  | cons field rest ih =>
    obtain ⟨k, v⟩ := field
    have hrest : fillMissing target ((k, v) :: rest) =
        fillMissing (if target.has k then target else target.insert k v) rest := rfl
    rw [hrest, ih]
    by_cases hkey : k = key
    · subst hkey
      cases hvalue : target.get? k with
      | none => simp [has, hvalue, get?]
      | some value => simp [has, hvalue]
    · have hother : get? key (if target.has k then target else target.insert k v) =
          target.get? key := by
        split
        · rfl
        · exact get?_insert_of_ne (Ne.symm hkey) v target
      rw [hother, get?, if_neg hkey]

end Fields

namespace WorkerOutcome

@[simp] theorem empty_append (a : WorkerOutcome) : append {} a = a := by simp [append]

@[simp] theorem append_empty (a : WorkerOutcome) : a.append {} = a := by simp [append]

theorem append_assoc (a b c : WorkerOutcome) :
    (a.append b).append c = a.append (b.append c) := by
  simp [append, Nat.add_assoc]

@[simp] theorem total_nil : total [] = {} := rfl

@[simp] theorem total_cons (a : WorkerOutcome) (outcomes : List WorkerOutcome) :
    total (a :: outcomes) = a.append (total outcomes) := rfl

theorem errors_total (outcomes : List WorkerOutcome) :
    (total outcomes).errors = outcomes.flatMap (·.errors) := by
  induction outcomes with
  | nil => rfl
  | cons a outcomes ih => simp [append, ih]

theorem invocations_total (outcomes : List WorkerOutcome) :
    (total outcomes).invocations = (outcomes.map (·.invocations)).sum := by
  induction outcomes with
  | nil => rfl
  | cons a outcomes ih => simp [append, ih]

end WorkerOutcome

namespace QueryIteration

section

variable (it : QueryIteration) (reply : Reply)

/-- What a policy of the chain receives for a row. -/
def invocation (row : Row) (chained : ChainedPolicy) : Invocation :=
  ⟨chained.policy, it.parametersFor row chained, it.configurationFor chained⟩

/-- The invocation of a turn. -/
def turnInvocation (turn : RowTurn) : Invocation := it.invocation turn.row turn.chained

/-- Whether the invocation of a turn succeeds. -/
def succeeds (turn : RowTurn) : Bool := (reply (it.turnInvocation turn)).isOk

/-- The failure of a turn, if it fails: the row by its index, the policy by its name, and the
error by its code and its message. -/
def failure? (turn : RowTurn) : Option RowError :=
  match reply (it.turnInvocation turn) with
  | .ok _ => none
  | .error e => some {
      rowIndex := turn.index
      policy := turn.chained.policy
      code := e.status.code
      message := e.message }

/-- Whether a turn is the last of its row. -/
def endsAt (turn : RowTurn) : Bool :=
  match reply (it.turnInvocation turn) with
  | .ok _ => false
  | .error _ => it.stopOnError

/-- Those turns of a row that come. -/
def taken : List RowTurn → List RowTurn
  | [] => []
  | turn :: r => turn :: if it.endsAt reply turn then [] else taken r

/-- All turns that there could be for a row. -/
def rowTurns (index : Nat) (row : Row) : List RowTurn := it.chain.map (⟨index, row, ·⟩)

/-- The turns that come for rows, the first of which has this index. -/
def turns (index : Nat) : List Row → List RowTurn
  | [] => []
  | row :: r => it.taken reply (it.rowTurns index row) ++ turns (index + 1) r

/-- What turns come to: how many succeed, and the failures of the others as they come. -/
def outcomeOf (turns : List RowTurn) : WorkerOutcome :=
  ⟨turns.countP (it.succeeds reply), turns.filterMap (it.failure? reply)⟩

/-- The invocations that the loop over the rows makes. -/
def loopInvocations (rows : List Row) : List Invocation :=
  (it.turns reply 0 rows).map it.turnInvocation

/-- The result of the loop over the rows: how many rows there were and how many invocations
succeeded, or else the failures as they came. -/
def loopResult (rows : List Row) (usedDefaultRows : Bool) : Except QueryError IterationSummary :=
  let turns := it.turns reply 0 rows
  match turns.filterMap (it.failure? reply) with
  | [] => .ok {
      rows := rows.length
      invocations := turns.countP (it.succeeds reply)
      usedDefaultRows }
  | failures => .error (.rowFailures it.query failures)

/-- The rows to go through: those that the query finds, and the default rows if it finds
none. -/
def rowsFor (fetched : List Row) : List Row :=
  if fetched = [] then it.defaultRows else fetched

/-- Whether these are default rows. -/
def fallsBack (fetched : List Row) : Bool := fetched = [] ∧ it.defaultRows ≠ []

/-- On this grid an invoker answers the chain with these replies. -/
def AnsweredBy (invoke : Invoker) (grid : Grid) : Prop :=
  ∀ chained ∈ it.chain, ∀ row log, (invoke chained.policy (it.parametersFor row chained)
    (it.configurationFor chained) grid log).1 =
      Outcome.ofExcept (reply (it.invocation row chained))

end

variable {it : QueryIteration} {reply : Reply}

section

variable {turn : RowTurn} {output : Document} {e : PolicyError}

theorem outcomeOf_of_ok (h : reply (it.turnInvocation turn) = .ok output) :
    it.outcomeOf reply [turn] = .success := by
  simp [outcomeOf, succeeds, failure?, h, Except.isOk, Except.toBool, WorkerOutcome.success]

theorem outcomeOf_of_error (h : reply (it.turnInvocation turn) = .error e) :
    it.outcomeOf reply [turn] = .failure (rowError turn.index turn.chained.policy e) := by
  simp [outcomeOf, succeeds, failure?, h, Except.isOk, Except.toBool, WorkerOutcome.failure,
    rowError]

theorem endsAt_of_ok (h : reply (it.turnInvocation turn) = .ok output) :
    it.endsAt reply turn = false := by rw [endsAt, h]

theorem endsAt_of_error (h : reply (it.turnInvocation turn) = .error e) :
    it.endsAt reply turn = it.stopOnError := by rw [endsAt, h]

end

@[simp] theorem outcomeOf_nil : it.outcomeOf reply [] = {} := rfl

@[simp] theorem outcomeOf_append (first rest : List RowTurn) :
    it.outcomeOf reply (first ++ rest) =
      (it.outcomeOf reply first).append (it.outcomeOf reply rest) := by
  simp [outcomeOf, WorkerOutcome.append]

theorem outcomeOf_cons (turn : RowTurn) (rest : List RowTurn) :
    it.outcomeOf reply (turn :: rest) =
      (it.outcomeOf reply [turn]).append (it.outcomeOf reply rest) :=
  outcomeOf_append [turn] rest

theorem turns_append (index : Nat) (rows more : List Row) :
    it.turns reply index (rows ++ more) =
      it.turns reply index rows ++ it.turns reply (index + rows.length) more := by
  induction rows generalizing index with
  | nil => rfl
  | cons row rows ih =>
    rw [List.cons_append, turns, ih, turns, List.append_assoc, List.length_cons,
      Nat.add_assoc, Nat.add_comm 1]

theorem mem_of_taken {turns : List RowTurn} {turn : RowTurn} (h : turn ∈ it.taken reply turns) :
    turn ∈ turns := by
  induction turns with
  | nil => exact h
  | cons first rest ih =>
    rw [taken, List.mem_cons] at h
    rcases h with rfl | h
    · exact List.mem_cons_self ..
    · split at h
      · cases h
      · exact List.mem_cons_of_mem _ (ih h)

/-- The rows are numbered one after the other. -/
theorem index_of_mem_turns {index : Nat} {rows : List Row} {turn : RowTurn}
    (h : turn ∈ it.turns reply index rows) :
    index ≤ turn.index ∧ turn.index < index + rows.length := by
  induction rows generalizing index with
  | nil => cases h
  | cons row rows ih =>
    rw [turns, List.mem_append] at h
    rw [List.length_cons]
    rcases h with hrow | hrest
    · obtain ⟨chained, -, rfl⟩ := List.mem_map.mp (mem_of_taken hrow)
      dsimp only
      omega
    · obtain ⟨hle, hlt⟩ := ih hrest
      omega

/-- In the loop the rows come in order. -/
theorem pairwise_turns (index : Nat) (rows : List Row) :
    (it.turns reply index rows).Pairwise fun a b => a.index ≤ b.index := by
  have hindex : ∀ {index row} {turn : RowTurn},
      turn ∈ it.taken reply (it.rowTurns index row) → turn.index = index := by
    intro index row turn h
    obtain ⟨chained, -, rfl⟩ := List.mem_map.mp (mem_of_taken h)
    rfl
  induction rows generalizing index with
  | nil => exact .nil
  | cons row rows ih =>
    rw [turns, List.pairwise_append]
    refine ⟨List.pairwise_of_forall_mem_list ?_, ih (index + 1), ?_⟩
    · intro a ha b hb
      exact Nat.le_of_eq ((hindex ha).trans (hindex hb).symm)
    · intro a ha b hb
      rw [hindex ha]
      exact Nat.le_of_succ_le (index_of_mem_turns hb).1

theorem chooseRows_eq (it : QueryIteration) (fetched : List Row) :
    it.chooseRows fetched = (it.rowsFor fetched, it.fallsBack fetched) := by
  unfold chooseRows rowsFor fallsBack
  by_cases hfetched : fetched = []
  · by_cases hdefault : it.defaultRows = []
    · simp [hfetched, hdefault]
    · simp [hfetched, hdefault]
  · simp [hfetched]

/-- Where there is no row at all, there is no default row either. -/
theorem fallsBack_of_rowsFor {fetched : List Row} (h : it.rowsFor fetched = []) :
    it.fallsBack fetched = false := by
  unfold rowsFor at h
  unfold fallsBack
  split at h
  · simp [h]
  · next hfetched => simp [hfetched]

theorem rowIndex_of_failure? {turn : RowTurn} {e : RowError}
    (h : it.failure? reply turn = some e) : e.rowIndex = turn.index := by
  unfold failure? at h
  split at h
  · cases h
  · rw [← Option.some.inj h]

theorem index_of_mem_errors {turns : List RowTurn} {e : RowError}
    (h : e ∈ (it.outcomeOf reply turns).errors) : ∃ turn ∈ turns, e.rowIndex = turn.index := by
  obtain ⟨turn, hturn, he⟩ := List.mem_filterMap.mp h
  exact ⟨turn, hturn, rowIndex_of_failure? he⟩

/-- So do the errors. -/
theorem pairwise_errors {turns : List RowTurn}
    (h : turns.Pairwise fun a b => a.index ≤ b.index) :
    (it.outcomeOf reply turns).errors.Pairwise fun a b => a.rowIndex ≤ b.rowIndex := by
  refine h.filterMap _ ?_
  intro first second hle a ha b hb
  rwa [rowIndex_of_failure? ha, rowIndex_of_failure? hb]

/-- A policy of the chain has its own parameters before those of the iteration, and the row
before both. -/
theorem get?_parametersFor (it : QueryIteration) (row : Row) (chained : ChainedPolicy)
    (key : String) :
    (it.parametersFor row chained).get? key =
      if key = Key.queryResults then some (.ofTexts row)
      else (chained.parameters.bind (·.get? key)).or (it.baseParameters.get? key) := by
  unfold parametersFor
  rw [Document.get?, Document.fields, Fields.get?_insert, Fields.get?_fillMissing]
  cases chained.parameters <;> rfl

/-! The loop as it is run -/

section

variable {invoke : Invoker} {grid : Grid}

theorem answeredBy_invoker (it : QueryIteration) (reply : Reply) (grid : Grid) :
    it.AnsweredBy reply reply.invoker grid := by
  intro chained _ row log
  change (Run.ofExcept (reply (it.invocation row chained)) grid log).1 = _
  cases reply (it.invocation row chained) <;> rfl

/-- A policy in its turn is invoked, and gives the reply. -/
theorem attempt_of_answeredBy (hanswered : it.AnsweredBy reply invoke grid) (log : List Entry)
    (turn : RowTurn) (hturn : turn.chained ∈ it.chain) :
    ∃ after, Invocation.Made invoke grid log [it.turnInvocation turn] after ∧
      ((invoke turn.chained.policy (it.parametersFor turn.row turn.chained)
        (it.configurationFor turn.chained)).attempt : Run QueryError _) grid log =
          (.done (reply (it.turnInvocation turn)), after) := by
  rcases hrun : invoke turn.chained.policy (it.parametersFor turn.row turn.chained)
    (it.configurationFor turn.chained) grid log with ⟨answer, after⟩
  have hanswer := hanswered turn.chained hturn turn.row log
  rw [hrun] at hanswer
  dsimp only at hanswer
  subst hanswer
  exact ⟨after, .cons hrun .nil, Run.attempt_of_answer hrun⟩

/-- For a row the turns of the chain come that are expected to. -/
theorem runChain_of_answeredBy (hanswered : it.AnsweredBy reply invoke grid) (index : Nat)
    (row : Row) {chain : List ChainedPolicy} (hchain : ∀ chained ∈ chain, chained ∈ it.chain)
    (log : List Entry) :
    let turns := it.taken reply (chain.map (⟨index, row, ·⟩))
    ∃ after, Invocation.Made invoke grid log (turns.map it.turnInvocation) after ∧
      it.runChain invoke index row chain grid log = (.done (it.outcomeOf reply turns), after) := by
  induction chain generalizing log with
  | nil => exact ⟨log, .nil, rfl⟩
  | cons chained rest ih =>
    obtain ⟨hfirst, hrest⟩ := List.forall_mem_cons.mp hchain
    obtain ⟨mid, hmade, hattempt⟩ :=
      attempt_of_answeredBy hanswered log ⟨index, row, chained⟩ hfirst
    obtain ⟨after, hafter, hrun⟩ := ih hrest mid
    dsimp only at hafter hrun ⊢
    rw [runChain, Run.bind_of_done hattempt, List.map_cons, taken]
    cases hreply : reply (it.turnInvocation ⟨index, row, chained⟩) with
    | ok output =>
      refine ⟨after, ?_, ?_⟩
      · rw [endsAt_of_ok hreply]
        exact hmade.append hafter
      · rw [endsAt_of_ok hreply, outcomeOf_cons, outcomeOf_of_ok hreply]
        exact Run.bind_of_done hrun
    | error e =>
      rw [endsAt_of_error hreply, outcomeOf_cons, outcomeOf_of_error hreply]
      dsimp only
      cases it.stopOnError with
      | true =>
        refine ⟨mid, hmade, ?_⟩
        simp
      | false =>
        refine ⟨after, hmade.append hafter, ?_⟩
        exact Run.bind_of_done hrun

theorem runRows_of_answeredBy (hanswered : it.AnsweredBy reply invoke grid) (index : Nat)
    (rows : List Row) (log : List Entry) :
    ∃ after, Invocation.Made invoke grid log ((it.turns reply index rows).map it.turnInvocation)
        after ∧
      it.runRows invoke index rows grid log =
        (.done (it.outcomeOf reply (it.turns reply index rows)), after) := by
  induction rows generalizing index log with
  | nil => exact ⟨log, .nil, rfl⟩
  | cons row rows ih =>
    obtain ⟨mid, hmade, hfirst⟩ :=
      runChain_of_answeredBy hanswered index row (fun _ h => h) log
    obtain ⟨after, hafter, hrest⟩ := ih (index + 1) mid
    refine ⟨after, ?_, ?_⟩
    · rw [turns, List.map_append]
      exact hmade.append hafter
    · rw [runRows, Run.bind_of_done hfirst, Run.bind_of_done hrest, turns, outcomeOf_append]
      rfl

/-- A worker whose invocations all return does not crash. -/
theorem runWorker_of_answeredBy (hanswered : it.AnsweredBy reply invoke grid) (index : Nat)
    (rows : List Row) (log : List Entry) :
    ∃ after, Invocation.Made invoke grid log ((it.turns reply index rows).map it.turnInvocation)
        after ∧
      it.runWorker invoke index rows grid log =
        (.done (it.outcomeOf reply (it.turns reply index rows)), after) := by
  obtain ⟨after, hmade, hrun⟩ := runRows_of_answeredBy hanswered index rows log
  refine ⟨after, hmade, ?_⟩
  have hcatch : (it.runRows invoke index rows).catchCrash grid log =
      (.done (.ok (it.outcomeOf reply (it.turns reply index rows))), after) := by
    rw [Run.catchCrash, hrun]
  exact Run.bind_of_done hcatch

end

end QueryIteration

end GridPolicy
