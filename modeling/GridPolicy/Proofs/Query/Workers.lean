import GridPolicy.Proofs.Query.Loop
import Mathlib.Logic.Relation

/-!
# Workers side by side

The workers of an iteration take their steps in any order, and an invocation of one may
be under way while others take theirs. When a worker has ended, its outcome is put to
those of the workers that were waited for before. A step of the pool takes nothing from
the invocations that were and will be made, and nothing from the outcomes that were and
will be put together, so whichever steps are taken these are the same in the end.
-/
namespace GridPolicy

/-- A worker on its rows. -/
structure Worker where
  /-- The turn whose invocation is under way. -/
  asked : Option RowTurn := none
  /-- What is left of the chain for the row at hand. -/
  chain : List RowTurn := []
  /-- The index of the first of the rows that are left. -/
  index : Nat
  rows : List Row
  outcome : WorkerOutcome := {}

namespace Worker

section

variable (it : QueryIteration) (reply : Reply)

/-- A step of a worker, with the invocation that begins with it. -/
inductive Step : Worker → Option Invocation → Worker → Prop
  | next {index : Nat} {row : Row} {rows : List Row} {outcome : WorkerOutcome} :
      Step ⟨none, [], index, row :: rows, outcome⟩ none
        ⟨none, it.rowTurns index row, index + 1, rows, outcome⟩
  | invoke {turn : RowTurn} {chain : List RowTurn} {index : Nat} {rows : List Row}
      {outcome : WorkerOutcome} :
      Step ⟨none, turn :: chain, index, rows, outcome⟩ (some (it.turnInvocation turn))
        ⟨some turn, chain, index, rows, outcome⟩
  | succeed {turn : RowTurn} {chain : List RowTurn} {index : Nat} {rows : List Row}
      {outcome : WorkerOutcome} {output : Document}
      (hreply : reply (it.turnInvocation turn) = .ok output) :
      Step ⟨some turn, chain, index, rows, outcome⟩ none
        ⟨none, chain, index, rows, outcome.append .success⟩
  | fail {turn : RowTurn} {chain : List RowTurn} {index : Nat} {rows : List Row}
      {outcome : WorkerOutcome} {e : PolicyError}
      (hreply : reply (it.turnInvocation turn) = .error e) :
      Step ⟨some turn, chain, index, rows, outcome⟩ none
        ⟨none, if it.stopOnError then [] else chain, index, rows,
          outcome.append (.failure (QueryIteration.rowError turn.index turn.chained.policy e))⟩

/-- Nothing is left to do. -/
structure Ended (w : Worker) : Prop where
  asked : w.asked = none
  chain : w.chain = []
  rows : w.rows = []

/-- What comes of the row at hand after the invocation that is under way. -/
def rest (w : Worker) : List RowTurn :=
  match w.asked with
  | none => it.taken reply w.chain
  | some turn => if it.endsAt reply turn then [] else it.taken reply w.chain

/-- The turns whose invocations are still to come. -/
def ahead (w : Worker) : List RowTurn := w.rest it reply ++ it.turns reply w.index w.rows

/-- What the worker will have done in the end. -/
def final (w : Worker) : WorkerOutcome :=
  w.outcome.append (it.outcomeOf reply (w.asked.toList ++ w.ahead it reply))

/-- How many steps are left at most. -/
def size (w : Worker) : Nat :=
  w.asked.toList.length + 2 * w.chain.length + w.rows.length * (2 * it.chain.length + 1)

end

variable {it : QueryIteration} {reply : Reply} {w w' : Worker} {invocation : Option Invocation}

/-- An invocation that begins was the next to come. -/
theorem Step.ahead_eq (h : Step it reply w invocation w') :
    (w.ahead it reply).map it.turnInvocation =
      invocation.toList ++ (w'.ahead it reply).map it.turnInvocation := by
  cases h with
  | next => rfl
  | invoke => rfl
  | succeed hreply => simp [ahead, rest, QueryIteration.endsAt_of_ok hreply]
  | fail hreply =>
    simp only [ahead, rest, QueryIteration.endsAt_of_error hreply, Option.toList_none,
      List.nil_append]
    cases it.stopOnError <;> rfl

/-- What will have been done in the end stays the same. -/
theorem Step.final_eq (h : Step it reply w invocation w') :
    w'.final it reply = w.final it reply := by
  cases h with
  | next => rfl
  | invoke => rfl
  | succeed hreply =>
    simp only [final, ahead, rest, QueryIteration.endsAt_of_ok hreply, Option.toList_none,
      Option.toList_some, List.nil_append, QueryIteration.outcomeOf_append,
      QueryIteration.outcomeOf_of_ok hreply, WorkerOutcome.append_assoc]
    rfl
  | fail hreply =>
    simp only [final, ahead, rest, QueryIteration.endsAt_of_error hreply, Option.toList_none,
      Option.toList_some, List.nil_append, QueryIteration.outcomeOf_append,
      QueryIteration.outcomeOf_of_error hreply, WorkerOutcome.append_assoc]
    cases it.stopOnError <;> rfl

theorem Step.size_lt (h : Step it reply w invocation w') : w'.size it < w.size it := by
  cases h with
  | next =>
    simp only [size, QueryIteration.rowTurns, List.length_map, List.length_cons, Nat.succ_mul,
      Option.toList_none, List.length_nil]
    omega
  | invoke => simp [size]; omega
  | succeed => simp [size]
  | fail =>
    simp only [size, Option.toList_none, Option.toList_some, List.length_nil, List.length_cons]
    split
    · simp only [List.length_nil]
      omega
    · omega

theorem Ended.ahead_eq (h : w.Ended) : w.ahead it reply = [] := by
  rw [ahead, rest, h.asked, h.chain, h.rows]
  rfl

theorem Ended.final_eq (h : w.Ended) : w.final it reply = w.outcome := by
  rw [final, h.ahead_eq, h.asked]
  exact WorkerOutcome.append_empty _

theorem ended_or_step (it : QueryIteration) (reply : Reply) (w : Worker) :
    w.Ended ∨ ∃ invocation w', Step it reply w invocation w' := by
  obtain ⟨asked, chain, index, rows, outcome⟩ := w
  cases asked with
  | some turn =>
    cases hreply : reply (it.turnInvocation turn) with
    | ok output => exact .inr ⟨_, _, .succeed hreply⟩
    | error e => exact .inr ⟨_, _, .fail hreply⟩
  | none =>
    cases chain with
    | cons turn chain => exact .inr ⟨_, _, .invoke⟩
    | nil =>
      cases rows with
      | cons row rows => exact .inr ⟨_, _, .next⟩
      | nil => exact .inl ⟨rfl, rfl, rfl⟩

end Worker

/-- The workers of an iteration, as far as they have come. -/
structure Pool where
  working : List Worker
  /-- The outcomes of those that were waited for, in the order in which they ended. -/
  finished : List WorkerOutcome := []
  /-- The invocations that have begun, in order. -/
  made : List Invocation := []

namespace Pool

section

variable (it : QueryIteration) (reply : Reply)

/-- A step of any one worker, or the end of the wait for one that has ended. -/
inductive Step : Pool → Pool → Prop
  | work {before after : List Worker} {w w' : Worker} {invocation : Option Invocation}
      {finished : List WorkerOutcome} {made : List Invocation}
      (hstep : w.Step it reply invocation w') :
      Step ⟨before ++ w :: after, finished, made⟩
        ⟨before ++ w' :: after, finished, made ++ invocation.toList⟩
  | join {before after : List Worker} {w : Worker} {finished : List WorkerOutcome}
      {made : List Invocation} (hended : w.Ended) :
      Step ⟨before ++ w :: after, finished, made⟩
        ⟨before ++ after, finished ++ [w.outcome], made⟩

/-- Any number of steps. -/
abbrev Reaches : Pool → Pool → Prop := Relation.ReflTransGen (Step it reply)

/-- The invocations that were made and will be made. -/
def invocations (pool : Pool) : List Invocation :=
  pool.made ++ pool.working.flatMap fun w => (w.ahead it reply).map it.turnInvocation

/-- The outcomes that were and will be put together. -/
def outcomes (pool : Pool) : List WorkerOutcome :=
  pool.finished ++ pool.working.map fun w => w.final it reply

/-- How many steps are left at most. -/
def size (pool : Pool) : Nat := (pool.working.map fun w => w.size it + 1).sum

end

/-- All workers were waited for. -/
def Complete (pool : Pool) : Prop := pool.working = []

variable {it : QueryIteration} {reply : Reply} {pool pool' : Pool}

theorem Step.invocations_perm (h : Step it reply pool pool') :
    (pool'.invocations it reply).Perm (pool.invocations it reply) := by
  cases h with
  | work hstep =>
    simp only [invocations, List.flatMap_append, List.flatMap_cons, hstep.ahead_eq,
      List.append_assoc]
    exact (List.perm_append_comm_assoc ..).append_left _
  | join hended =>
    simp only [invocations, List.flatMap_append, List.flatMap_cons, hended.ahead_eq,
      List.map_nil, List.nil_append]
    exact .refl _

theorem Step.outcomes_perm (h : Step it reply pool pool') :
    (pool'.outcomes it reply).Perm (pool.outcomes it reply) := by
  cases h with
  | work hstep =>
    simp only [outcomes, List.map_append, List.map_cons, hstep.final_eq]
    exact .refl _
  | join hended =>
    simp only [outcomes, List.map_append, List.map_cons, hended.final_eq, List.append_assoc,
      List.singleton_append]
    exact List.perm_middle.symm.append_left _

theorem Step.size_lt (h : Step it reply pool pool') : pool'.size it < pool.size it := by
  cases h with
  | work hstep =>
    have hlt := hstep.size_lt
    simp only [size, List.map_append, List.map_cons, List.sum_append, List.sum_cons]
    omega
  | join hended =>
    simp only [size, List.map_append, List.map_cons, List.sum_append, List.sum_cons]
    omega

theorem Reaches.invocations_perm (h : Reaches it reply pool pool') :
    (pool'.invocations it reply).Perm (pool.invocations it reply) := by
  induction h with
  | refl => exact .refl _
  | tail _ hstep ih => exact hstep.invocations_perm.trans ih

theorem Reaches.outcomes_perm (h : Reaches it reply pool pool') :
    (pool'.outcomes it reply).Perm (pool.outcomes it reply) := by
  induction h with
  | refl => exact .refl _
  | tail _ hstep ih => exact hstep.outcomes_perm.trans ih

theorem complete_or_step (it : QueryIteration) (reply : Reply) (pool : Pool) :
    pool.Complete ∨ ∃ pool', Step it reply pool pool' := by
  obtain ⟨working, finished, made⟩ := pool
  cases working with
  | nil => exact .inl rfl
  | cons w rest =>
    rcases w.ended_or_step it reply with hended | ⟨invocation, w', hstep⟩
    · have hjoin : Step it reply ⟨[] ++ w :: rest, finished, made⟩ _ := .join hended
      exact .inr ⟨_, hjoin⟩
    · have hwork : Step it reply ⟨[] ++ w :: rest, finished, made⟩ _ := .work hstep
      exact .inr ⟨_, hwork⟩

/-- Nobody can go on taking steps without end. -/
theorem wellFounded_step (it : QueryIteration) (reply : Reply) :
    WellFounded fun pool' pool => Step it reply pool pool' :=
  Subrelation.wf Step.size_lt (measure (size it)).wf

/-- Whatever steps were taken, some last ones are left. -/
theorem exists_complete (it : QueryIteration) (reply : Reply) (pool : Pool) :
    ∃ last, Reaches it reply pool last ∧ last.Complete := by
  induction pool using (wellFounded_step it reply).induction with
  | _ pool ih =>
    rcases complete_or_step it reply pool with hcomplete | ⟨next, hstep⟩
    · exact ⟨pool, .refl, hcomplete⟩
    · obtain ⟨last, hreaches, hcomplete⟩ := ih next hstep
      exact ⟨last, .head hstep hreaches, hcomplete⟩

end Pool

end GridPolicy
