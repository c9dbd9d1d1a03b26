import GridPolicy.Proofs.Policy.Interrupted
import GridPolicy.Proofs.Policy.Invocation
import GridPolicy.Proofs.Policy.Leaves
import GridPolicy.Proofs.Query.Prepared
import GridPolicy.Proofs.Run.RunsOut

/-!
# Invocations at a greater depth

The body of a built-in policy does what its loops do, and they what is invoked in their turns.
So where one invoker approximates another one, the bodies do as well, and an invocation among
the built-in policies that does not run out of its depth does the same at a greater one.
-/
namespace GridPolicy

/-- Whatever is invoked, there is an answer unless the depth runs out, and then the other
invoker gives the same. -/
def Invoker.Approximates (invoke invoke' : Invoker) : Prop :=
  ∀ policy parameters configuration,
    (invoke policy parameters configuration).Approximates (invoke' policy parameters configuration)

variable {invoke invoke' : Invoker} {i : Invocation}

namespace Movement

theorem loop_runSteps (invoke : Invoker) (parameters configuration : Document) :
    Run.Loop () (fun _ _ => ()) (fun _ => runSteps invoke parameters configuration)
      fun _ policy => invoke policy parameters configuration where
  nil _ := rfl
  cons _ _ _ := bind_congr fun _ => (bind_pure _).symm

theorem body_approximates (h : invoke.Approximates invoke') :
    (body invoke i).Approximates (body invoke' i) := by
  unfold body
  dsimp only
  split
  · exact .fail _
  · exact .pure _
  · refine .bind ?_ fun _ => .pure _
    exact (loop_runSteps ..).approximates (loop_runSteps ..) (fun _ policy => h policy _ _) 0 _

end Movement

namespace QueryIteration

variable (it : QueryIteration)

theorem runChain_approximates (h : invoke.Approximates invoke') (index : Nat) (row : Row)
    (chain : List ChainedPolicy) :
    (it.runChain invoke index row chain).Approximates (it.runChain invoke' index row chain) := by
  induction chain with
  | nil => exact .pure _
  | cons chained rest ih =>
    refine .bind (.attempt (h _ _ _)) fun result => ?_
    cases result with
    | ok output => exact .bind ih fun _ => .pure _
    | error e =>
      dsimp only
      split
      · exact .pure _
      · exact .bind ih fun _ => .pure _

theorem loop_runRows (invoke : Invoker) :
    Run.Loop {} WorkerOutcome.append (it.runRows invoke)
      fun index row => it.runChain invoke index row it.chain where
  nil _ := rfl
  cons _ _ _ := rfl

theorem runRows_approximates (h : invoke.Approximates invoke') (index : Nat) (rows : List Row) :
    (it.runRows invoke index rows).Approximates (it.runRows invoke' index rows) :=
  (it.loop_runRows invoke).approximates (it.loop_runRows invoke')
    (fun index row => it.runChain_approximates h index row it.chain) index rows

theorem loop_runWorkers (invoke : Invoker) :
    Run.Loop [] List.cons (fun _ => it.runWorkers invoke)
      fun _ run => it.runWorker invoke run.1 run.2 where
  nil _ := rfl
  cons _ _ _ := rfl

theorem run_approximates (h : invoke.Approximates invoke') :
    (it.run invoke).Approximates (it.run invoke') := by
  have hworker (index : Nat) (rows : List Row) :
      (it.runWorker invoke index rows).Approximates (it.runWorker invoke' index rows) := by
    refine .bind (.catchCrash (it.runRows_approximates h index rows)) fun result => ?_
    cases result with
    | ok outcome => exact .pure _
    | error detail => exact .pure _
  have hfetched : (queryRows it.query it.limit it.kind).AnswersIn fun _ => True :=
    .queryRows (fun _ => trivial) _ _ _
  refine .bind (.mapError (.of_answersIn hfetched)) fun fetched => ?_
  dsimp only
  split
  · exact .pure _
  · refine .bind ?_ fun outcomes => .ofExcept _
    exact (it.loop_runWorkers invoke).approximates (it.loop_runWorkers invoke')
      (fun _ run => hworker run.1 run.2) 0 _

end QueryIteration

theorem QueryProcessor.body_approximates (h : invoke.Approximates invoke') :
    (body invoke i).Approximates (body invoke' i) :=
  .bind (.of_answersIn (iteration_answersIn i)) fun it =>
    .bind (.mapError (it.run_approximates h)) fun _ => .pure _

namespace Delegation

theorem loop_takeAll (invoke : Invoker) (i : Invocation) (start : ObjectKind) :
    Run.Loop [] (· ++ ·) (fun _ => takeAll invoke i start)
      fun _ turn => turn.run invoke i start where
  nil _ := rfl
  cons _ _ _ := rfl

theorem Trial.kind_answersIn (t : Trial) (start : ObjectKind) :
    (t.kind start).AnswersIn fun _ => True := by
  unfold Trial.kind
  split
  · exact .pure start
  · exact .mapError (objectKind_answersIn (fun _ => trivial) t.path)

theorem Turn.run_approximates (h : invoke.Approximates invoke') (start : ObjectKind)
    (turn : Turn) : (turn.run invoke i start).Approximates (turn.run invoke' i start) := by
  cases turn with
  | refusal d cause => exact .fail _
  | trial t =>
    have hmatch : (matchOn t.delegate.constraints t.path).AnswersIn fun _ => True :=
      .bind (.mapError (.ask (fun _ => trivial) _)) fun _ => .pure _
    refine .bind (.of_answersIn (t.kind_answersIn start)) fun kind => ?_
    split
    · exact .pure _
    · refine .bind (.of_answersIn hmatch) fun found => ?_
      cases found with
      | none => exact .pure _
      | some avu =>
        refine .bind (.attempt (h _ _ _)) fun result => ?_
        cases result with
        | ok output => exact .pure _
        | error e => exact .pure _

theorem body_approximates (h : invoke.Approximates invoke') :
    (body invoke i).Approximates (body invoke' i) := by
  by_cases hentries : chainEntries i.configuration = []
  · exact .of_settled fun grid log =>
      .of_failed (body_of_no_entries hentries log) (body_of_no_entries hentries log)
  by_cases hpath : eventPath i = ""
  · exact .of_settled fun grid log =>
      .of_failed (body_of_unnamed hentries hpath log) (body_of_unnamed hentries hpath log)
  rw [body_eq_takeAll hentries hpath, body_eq_takeAll hentries hpath]
  have hstart : (objectKind (eventPath i)).AnswersIn fun _ => True :=
    objectKind_answersIn (fun _ => trivial) (eventPath i)
  refine .bind (.mapError (.of_answersIn hstart)) fun start => ?_
  refine .bind ?_ fun failures => .bind (.ofExcept _) fun _ => .pure _
  exact (loop_takeAll ..).approximates (loop_takeAll ..)
    (fun _ turn => turn.run_approximates h start) 0 _

end Delegation

namespace ResourcePairs

/-- The failures with the one that there is if this is an error. -/
def noting (policy : String) (result : Except PolicyError Document)
    (failures : List InvocationFailure) : List InvocationFailure :=
  match result with
  | .ok _ => failures
  | .error e => PolicyError.failureOf policy e :: failures

theorem loop_runPairs (invoke : Invoker) (policy : String) (base : Fields)
    (configuration : Document) :
    Run.Loop [] (noting policy) (fun _ => runPairs invoke policy base configuration)
      fun _ pair => (invoke policy (pairParameters base pair.1 pair.2) configuration).attempt where
  nil _ := rfl
  cons _ pair rest := by
    obtain ⟨source, destination⟩ := pair
    rw [runPairs]
    refine bind_congr fun result => bind_congr fun failures => ?_
    cases result <;> rfl

/-- What is done for an entry of the list. -/
def runEntry (invoke : Invoker) (i : Invocation) (pairs : List (String × String))
    (entry : Document) : Run PolicyError (List InvocationFailure) :=
  match entryName? entry with
  | none => pure []
  | some policy =>
    runPairs invoke policy i.parameters.fields
      ((entry.get? Key.configuration).getD i.configuration) pairs

theorem loop_runEntries (invoke : Invoker) (i : Invocation) (pairs : List (String × String)) :
    Run.Loop [] (· ++ ·) (fun _ => runEntries invoke i pairs)
      fun _ entry => runEntry invoke i pairs entry where
  nil _ := rfl
  cons _ entry _ := by
    rw [runEntries, runEntry]
    cases entryName? entry <;> rfl

theorem runPairs_approximates (h : invoke.Approximates invoke') (policy : String) (base : Fields)
    (configuration : Document) (pairs : List (String × String)) :
    (runPairs invoke policy base configuration pairs).Approximates
      (runPairs invoke' policy base configuration pairs) :=
  (loop_runPairs ..).approximates (loop_runPairs ..) (fun _ _ => .attempt (h _ _ _)) 0 pairs

theorem runEntry_approximates (h : invoke.Approximates invoke')
    (pairs : List (String × String)) (entry : Document) :
    (runEntry invoke i pairs entry).Approximates (runEntry invoke' i pairs entry) := by
  unfold runEntry
  split
  · exact .pure _
  · exact runPairs_approximates h _ _ _ _

theorem wantedMetadata_answersIn (i : Invocation) (configured : Document) :
    (wantedMetadata i configured).AnswersIn fun _ => True := by
  unfold wantedMetadata
  split
  · split
    · exact .pure _
    · exact .fail trivial
  · exact .pure _

theorem body_approximates (h : invoke.Approximates invoke') :
    (body invoke i).Approximates (body invoke' i) := by
  unfold body
  dsimp only
  split
  · exact .fail _
  split
  · exact .fail _
  refine .bind (.of_answersIn (wantedMetadata_answersIn i _)) fun metadata => ?_
  have hrows : (queryRows (resourceQuery metadata) 0 .general).AnswersIn fun _ => True :=
    .queryRows (fun _ => trivial) _ _ _
  refine .bind (.mapError (.of_answersIn hrows)) fun rows => ?_
  refine .bind ?_ fun failures => .bind (.ofExcept _) fun _ => .pure _
  exact (loop_runEntries ..).approximates (loop_runEntries ..)
    (fun _ entry => runEntry_approximates h _ entry) 0 _

end ResourcePairs

theorem body_approximates_of_mem {p : Policy} (hp : p ∈ builtinPolicies)
    (h : invoke.Approximates invoke') : (p.body invoke i).Approximates (p.body invoke' i) := by
  rcases mem_callers_or_settled hp with hcaller | hsettled
  · simp only [callers, List.mem_cons, List.not_mem_nil, or_false] at hcaller
    rcases hcaller with rfl | rfl | rfl | rfl
    · exact QueryProcessor.body_approximates h
    · exact Movement.body_approximates h
    · exact Delegation.body_approximates h
    · exact ResourcePairs.body_approximates h
  · exact .of_settled (hsettled invoke invoke' i)

/-- Where an invocation does not run out of its depth, it does the same at a greater one. -/
theorem Registry.invoke_approximates {depth depth' : Nat} (h : depth ≤ depth') :
    Invoker.Approximates (builtin.invoke depth) (builtin.invoke depth') := by
  induction depth generalizing depth' with
  | zero => exact fun _ _ _ => .outOfDepth
  | succ depth ih =>
    obtain ⟨depth', rfl⟩ := Nat.exists_eq_add_one_of_ne_zero (Nat.ne_zero_of_lt h)
    intro name parameters configuration
    unfold invoke
    cases hfind : builtin.find? name with
    | none => exact .fail _
    | some p =>
      obtain ⟨hp, -⟩ := mem_of_find?_builtin hfind
      exact body_approximates_of_mem hp (ih (Nat.le_of_succ_le_succ h))

end GridPolicy
