import GridPolicy.Proofs.Movement.Steps
import GridPolicy.Proofs.Policy.Approximation
import GridPolicy.Proofs.Policy.VisitedPairs
import GridPolicy.Proofs.Query.Loop

/-!
# Nested invocations

What a built-in policy invokes, and when, is read off its text: it is asked for what has to be
known, the invocations before this one are made, and none of them keeps it from its turn. An
invocation is out of depth just where one of those is that are nested in it.
-/
namespace GridPolicy

/-- A query processor without parameters for its chain passes its own, the list of policies
among them, to a policy whose entry does not list any of its own. -/
def QueryProcessor.HandsOn (i child : Invocation) (chained : ChainedPolicy) : Prop :=
  (∀ fields, i.parameters.get? Key.parameters ≠ some (.object fields)) ∧
    chainEntries child.parameters ≠ chainEntries (chained.parameters.getD .emptyObject)

/-- From this log an invocation makes another one, and the log is this when it is that one's
turn. With it goes whether the chain of the first is handed on to the other: by a query
processor, or by a generator to itself. -/
inductive Nested (invoke : Invoker) (grid : Grid) (i : Invocation) (log : List Entry) :
    Bool → Invocation → List Entry → Prop
  | step {destination policy : String} {others before later : List String} {mid : List Entry}
      (hname : i.policy = Movement.name)
      (hdestinations : destinations? (Capture.ofParameters i.parameters .root) i.configuration =
        some (destination :: others))
      (hsteps : Movement.steps = before ++ policy :: later)
      (hbefore : Movement.runSteps invoke (Movement.stepParameters
        (Capture.ofParameters i.parameters .root) destination) i.configuration before grid log =
          (.done (), mid)) :
      Nested invoke grid i log false ⟨policy, Movement.stepParameters
        (Capture.ofParameters i.parameters .root) destination, i.configuration⟩ mid
  /-- The rows before this one are through, and so is the chain up to the policy. -/
  | row {it : QueryIteration} {fetched earlier later : List Row} {row : Row}
      {first others : List ChainedPolicy} {chained : ChainedPolicy} {outcome own : WorkerOutcome}
      {asked answered between mid : List Entry} {handed : Bool}
      (hname : i.policy = QueryProcessor.name)
      (hiteration : QueryProcessor.iteration i grid log = (.done it, asked))
      (hfetched : queryRows it.query it.limit it.kind grid asked = (.done fetched, answered))
      (hrows : it.rowsFor fetched = earlier ++ row :: later)
      (hearlier : it.runRows invoke 0 earlier grid answered = (.done outcome, between))
      (hchain : it.chain = first ++ chained :: others)
      (hfirst : it.runChain invoke earlier.length row first grid between = (.done own, mid))
      (hgoesOn : it.stopOnError = true → own.errors = [])
      (hhanded : handed = true ↔
        QueryProcessor.HandsOn i (it.invocation row chained) chained) :
      Nested invoke grid i log handed (it.invocation row chained) mid
  | found {start : ObjectKind} {before later : List Delegation.Turn} {t : Delegation.Trial}
      {failures : List InvocationFailure} {child : Invocation} {asked between mid : List Entry}
      (hname : i.policy = Delegation.name) (hentries : chainEntries i.configuration ≠ [])
      (hpath : Delegation.eventPath i ≠ "")
      (hstart : objectKind (Delegation.eventPath i) grid log = (.done start, asked))
      (hturns : Delegation.turns i = before ++ .trial t :: later)
      (hbefore : Delegation.takeAll invoke i start before grid asked = (.done failures, between))
      (hleads : Delegation.Leads i start grid t between child mid) :
      Nested invoke grid i log false child mid
  /-- The entries before this one are through, and so are the pairs before this one. -/
  | pair {metadata entry : Document} {resources : List String} {before later : List Document}
      {policy source destination : String} {earlier more : List (String × String)}
      {failures own : List InvocationFailure} {between mid : List Entry} {handed : Bool}
      (hname : i.policy = ResourcePairs.name)
      (hfound : ResourcePairs.Found i grid log metadata resources)
      (hentries : chainEntries i.configuration = before ++ entry :: later)
      (hbefore : ResourcePairs.runEntries invoke i (ResourcePairs.neighbours resources) before
        grid (log ++ [.call (ResourcePairs.resourceCall metadata)]) = (.done failures, between))
      (hpolicy : entryName? entry = some policy)
      (hpairs : ResourcePairs.neighbours resources = earlier ++ (source, destination) :: more)
      (hearlier : ResourcePairs.runPairs invoke policy i.parameters.fields
        ((entry.get? Key.configuration).getD i.configuration) earlier grid between =
          (.done own, mid))
      (hhanded : handed = true ↔
        policy = ResourcePairs.name ∧ entry.get? Key.configuration = none) :
      Nested invoke grid i log handed ⟨policy,
        ResourcePairs.pairParameters i.parameters.fields source destination,
        (entry.get? Key.configuration).getD i.configuration⟩ mid

/-- From this log something runs out of depth that the invocation makes. -/
def Exhausts (invoke : Invoker) (grid : Grid) (i : Invocation) (log : List Entry) : Prop :=
  ∃ handed child mid, Nested invoke grid i log handed child mid ∧
    (child.runBy invoke).RunsOut grid mid

variable {invoke invoke' : Invoker} {i child : Invocation} {grid : Grid}
  {log mid : List Entry}

namespace Movement

theorem exhausts_of_runsOut (hname : i.policy = name) (h : (body invoke i).RunsOut grid log) :
    Exhausts invoke grid i log := by
  unfold body at h
  dsimp only at h
  split at h
  · cases h
  · cases h
  · next destination others hdestinations =>
    obtain ⟨before, policy, later, _, mid, hsteps, hbefore, hout⟩ :=
      (loop_runSteps ..).exists_of_runsOut (k := 0) h.of_bind_pure
    exact ⟨false, _, mid, .step hname hdestinations hsteps hbefore, hout⟩

theorem runsOut_of_step (h : invoke.Approximates invoke') {destination policy : String}
    {others before later : List String}
    (hdestinations : destinations? (Capture.ofParameters i.parameters .root) i.configuration =
      some (destination :: others))
    (hsteps : steps = before ++ policy :: later)
    (hbefore : runSteps invoke' (stepParameters (Capture.ofParameters i.parameters .root)
      destination) i.configuration before grid log = (.done (), mid))
    (hout : (invoke policy (stepParameters (Capture.ofParameters i.parameters .root) destination)
      i.configuration).RunsOut grid mid) :
    (body invoke i).RunsOut grid log := by
  unfold body
  dsimp only
  rw [hdestinations, hsteps]
  refine .bind ?_ _
  exact (loop_runSteps invoke _ _).runsOut_of_turn (k := 0) (loop_runSteps invoke' _ _)
    (fun _ policy => h policy _ _) hbefore hout

end Movement

namespace QueryIteration

variable {it : QueryIteration} {index : Nat} {row : Row} {first others : List ChainedPolicy}
  {chained : ChainedPolicy}

/-- The chain of a row runs out with one of its policies, after the policies before it. -/
theorem exists_of_runChain_runsOut {chain : List ChainedPolicy}
    (h : (it.runChain invoke index row chain).RunsOut grid log) :
    ∃ first chained others own mid, chain = first ++ chained :: others ∧
      it.runChain invoke index row first grid log = (.done own, mid) ∧
      (it.stopOnError = true → own.errors = []) ∧
      ((it.invocation row chained).runBy invoke).RunsOut grid mid := by
  induction chain generalizing log with
  | nil => cases h
  | cons chained rest ih =>
    rcases Run.RunsOut.of_bind h with hout | ⟨result, next, hanswer, hrest⟩
    · exact ⟨[], chained, rest, {}, log, rfl, rfl, fun _ => rfl, Run.RunsOut.attempt_iff.mp hout⟩
    cases result with
    | ok output =>
      obtain ⟨first, chained', others, own, mid, rfl, hfirst, hgoesOn, hout⟩ :=
        ih hrest.of_bind_pure
      refine ⟨chained :: first, chained', others, WorkerOutcome.success.append own, mid, rfl, ?_,
        hgoesOn, hout⟩
      rw [runChain, Run.bind_of_done hanswer]
      dsimp only
      rw [Run.bind_of_done hfirst]
      rfl
    | error e =>
      dsimp only at hrest
      split at hrest
      · cases hrest
      next hstop =>
      obtain ⟨first, chained', others, own, mid, rfl, hfirst, -, hout⟩ := ih hrest.of_bind_pure
      refine ⟨chained :: first, chained', others,
        (WorkerOutcome.failure (rowError index chained.policy e)).append own, mid, rfl, ?_,
        (absurd · hstop), hout⟩
      rw [runChain, Run.bind_of_done hanswer]
      dsimp only
      rw [if_neg hstop, Run.bind_of_done hfirst]
      rfl

theorem runChain_runsOut (h : invoke.Approximates invoke') {own : WorkerOutcome}
    (hfirst : it.runChain invoke' index row first grid log = (.done own, mid))
    (hgoesOn : it.stopOnError = true → own.errors = [])
    (hout : ((it.invocation row chained).runBy invoke).RunsOut grid mid) :
    (it.runChain invoke index row (first ++ chained :: others)).RunsOut grid log := by
  induction first generalizing log own with
  | nil =>
    cases hfirst
    exact (Run.RunsOut.attempt_iff.mpr hout).bind _
  | cons before first ih =>
    obtain ⟨result, next, hanswer, hrest⟩ := Run.done_of_bind hfirst
    refine (h before.policy _ _).attempt.runsOut_bind hanswer ?_
    cases result with
    | ok output =>
      obtain ⟨own', last, hfirst', hpure⟩ := Run.done_of_bind hrest
      cases hpure
      exact (ih hfirst' hgoesOn).bind _
    | error e =>
      dsimp only at hrest ⊢
      split at hrest
      · next hstop =>
        cases hrest
        cases hgoesOn hstop
      next hstop =>
      obtain ⟨own', last, hfirst', hpure⟩ := Run.done_of_bind hrest
      cases hpure
      rw [if_neg hstop]
      exact (ih hfirst' (absurd · hstop)).bind _

theorem runRows_append (index : Nat) (rows more : List Row) :
    it.runRows invoke index (rows ++ more) = (do
      let outcome ← it.runRows invoke index rows
      return outcome.append (← it.runRows invoke (index + rows.length) more)) := by
  induction rows generalizing index with
  | nil => simp only [List.nil_append, runRows, pure_bind, List.length_nil, Nat.add_zero,
      WorkerOutcome.empty_append, bind_pure]
  | cons row rows ih =>
    simp only [List.cons_append, runRows, ih, bind_assoc, pure_bind, List.length_cons,
      WorkerOutcome.append_assoc, Nat.add_assoc, Nat.add_comm 1]

/-- Workers that do not crash do together what one does that has all rows. -/
theorem total_runWorkers (h : invoke.Approximates invoke') (index : Nat)
    (runs : List (List Row)) :
    (do return WorkerOutcome.total (← it.runWorkers invoke (consecutive index runs))) =
      it.runRows invoke index runs.flatten := by
  -- All that a worker did would be lost if it crashed; but none crashes among such policies.
  have hworker (index : Nat) (rows : List Row) :
      it.runWorker invoke index rows = it.runRows invoke index rows :=
    (it.runRows_approximates h index rows).catchCrash_bind fun _ => rfl
  induction runs generalizing index with
  | nil => simp [consecutive, runWorkers, runRows]
  | cons rows rest ih =>
    rw [List.flatten_cons, runRows_append, ← ih, consecutive, runWorkers, hworker]
    simp only [bind_assoc, pure_bind, WorkerOutcome.total_cons]

/-- An iteration runs out of depth with one of the rows that it goes through. -/
theorem run_runsOut_iff (h : invoke.Approximates invoke') :
    (it.run invoke).RunsOut grid log ↔
      ∃ fetched answered, queryRows it.query it.limit it.kind grid log = (.done fetched, answered) ∧
        (it.runRows invoke 0 (it.rowsFor fetched)).RunsOut grid answered := by
  have hqueried : ((queryRows it.query it.limit it.kind).mapError QueryError.service).AnswersIn
      fun _ => True := .mapError (.queryRows (fun _ => trivial) _ _ _)
  have hworkers (rows : List Row) (mid : List Entry) :
      (it.runWorkers invoke (numbered (chunkSize rows.length it.workers)
        (it.divided rows))).RunsOut grid mid ↔ (it.runRows invoke 0 rows).RunsOut grid mid := by
    have htotal := it.total_runWorkers h 0 (it.divided rows)
    rw [flatten_divided] at htotal
    rw [numbered_divided, ← htotal]
    exact ⟨fun hout => hout.bind _, Run.RunsOut.of_bind_pure⟩
  unfold run
  simp only [chooseRows_eq]
  constructor
  · intro hout
    obtain ⟨fetched, answered, hfetched, hout⟩ := hout.of_bind_of_answersIn hqueried
    refine ⟨fetched, answered, Run.mapError_apply_eq_done.mp hfetched, ?_⟩
    split at hout
    · cases hout
    exact (hworkers _ _).mp (hout.of_answersIn_bind (P := fun _ => True)
      fun _ => .ofExcept fun _ => trivial)
  · rintro ⟨fetched, answered, hfetched, hout⟩
    refine .bind_of_done (Run.mapError_apply_eq_done.mpr hfetched) ?_
    split
    · next hnone =>
      rw [List.isEmpty_iff.mp hnone] at hout
      cases hout
    · exact ((hworkers _ _).mpr hout).bind _

end QueryIteration

namespace QueryProcessor

theorem mem_builtin : ⟨name, body⟩ ∈ builtinPolicies := by simp [builtinPolicies]

theorem exhausts_of_runsOut (happrox : invoke.Approximates invoke') (hname : i.policy = name)
    (h : (body invoke i).RunsOut grid log) : Exhausts invoke grid i log := by
  classical
  obtain ⟨it, asked, hiteration, hout⟩ := h.of_bind_of_answersIn (iteration_answersIn i)
  obtain ⟨fetched, answered, hfetched, hout⟩ := (QueryIteration.run_runsOut_iff happrox).mp
    (Run.RunsOut.mapError_iff.mp hout.of_bind_pure)
  obtain ⟨earlier, row, later, outcome, between, hrows, hearlier, hout⟩ :=
    (it.loop_runRows invoke).exists_of_runsOut hout
  obtain ⟨first, chained, others, own, mid, hchain, hfirst, hgoesOn, hout⟩ :=
    QueryIteration.exists_of_runChain_runsOut hout
  rw [Nat.zero_add] at hfirst
  exact ⟨decide (HandsOn i (it.invocation row chained) chained), _, mid,
    .row hname hiteration hfetched hrows hearlier hchain hfirst hgoesOn (by simp), hout⟩

theorem runsOut_of_row (h : invoke.Approximates invoke') {it : QueryIteration}
    {fetched earlier later : List Row} {row : Row} {first others : List ChainedPolicy}
    {chained : ChainedPolicy} {outcome own : WorkerOutcome} {asked answered between : List Entry}
    (hiteration : iteration i grid log = (.done it, asked))
    (hfetched : queryRows it.query it.limit it.kind grid asked = (.done fetched, answered))
    (hrows : it.rowsFor fetched = earlier ++ row :: later)
    (hearlier : it.runRows invoke' 0 earlier grid answered = (.done outcome, between))
    (hchain : it.chain = first ++ chained :: others)
    (hfirst : it.runChain invoke' earlier.length row first grid between = (.done own, mid))
    (hgoesOn : it.stopOnError = true → own.errors = [])
    (hout : ((it.invocation row chained).runBy invoke).RunsOut grid mid) :
    (body invoke i).RunsOut grid log := by
  refine .bind_of_done hiteration (.bind (Run.RunsOut.mapError_iff.mpr ?_) _)
  refine (QueryIteration.run_runsOut_iff h).mpr ⟨fetched, answered, hfetched, ?_⟩
  rw [hrows]
  refine (it.loop_runRows invoke).runsOut_of_turn (it.loop_runRows invoke')
    (fun index row => it.runChain_approximates h index row it.chain) hearlier ?_
  rw [hchain, Nat.zero_add]
  exact QueryIteration.runChain_runsOut h hfirst hgoesOn hout

end QueryProcessor

/-- A report on failures needs no depth. -/
theorem Run.RunsOut.of_report {run : Run PolicyError (List InvocationFailure)}
    (h : (do
      let failures ← run
      Run.ofExcept (PolicyError.ofFailures failures)
      return .null : Run PolicyError Document).RunsOut grid log) : run.RunsOut grid log :=
  of_answersIn_bind (P := fun _ => True) h fun _ =>
    .bind (.ofExcept fun _ => trivial) fun _ => .pure _

namespace Delegation

theorem mem_builtin : ⟨name, body⟩ ∈ builtinPolicies := by simp [builtinPolicies]

/-- A turn runs out with the invocation that it leads to. -/
theorem Turn.leads_of_runsOut {start : ObjectKind} {turn : Turn}
    (h : (turn.run invoke i start).RunsOut grid log) :
    ∃ t child mid, turn = .trial t ∧ Leads i start grid t log child mid ∧
      (child.runBy invoke).RunsOut grid mid := by
  cases turn with
  | refusal d cause => cases h
  | trial t =>
    unfold Run.RunsOut at h
    rcases passes_leads_or_breaks i start grid t log with
      ⟨mid, hpasses⟩ | ⟨child, mid, hleads⟩ | ⟨e, after, hbreaks⟩
    · rw [Turn.run, Trial.run_of_passes hpasses] at h
      cases h
    · rw [Turn.run, Trial.run_of_leads hleads] at h
      exact ⟨t, child, mid, rfl, hleads,
        Run.RunsOut.attempt_iff.mp (Run.RunsOut.of_bind_pure h)⟩
    · rw [Turn.run_of_breaks hbreaks] at h
      cases h

theorem Trial.runsOut_of_leads {start : ObjectKind} {t : Trial}
    (hleads : Leads i start grid t log child mid) (hout : (child.runBy invoke).RunsOut grid mid) :
    (t.run invoke i start).RunsOut grid log := by
  unfold Run.RunsOut
  rw [Trial.run_of_leads hleads]
  exact (Run.RunsOut.attempt_iff.mpr hout).bind _

theorem exhausts_of_runsOut (hname : i.policy = name) (h : (body invoke i).RunsOut grid log) :
    Exhausts invoke grid i log := by
  by_cases hentries : chainEntries i.configuration = []
  · unfold Run.RunsOut at h
    rw [body_of_no_entries hentries] at h
    cases h
  by_cases hpath : eventPath i = ""
  · unfold Run.RunsOut at h
    rw [body_of_unnamed hentries hpath] at h
    cases h
  rw [body_eq_takeAll hentries hpath] at h
  have hkind : ((objectKind (eventPath i)).mapError PolicyError.service).AnswersIn fun _ => True :=
    .mapError (objectKind_answersIn (fun _ => trivial) (eventPath i))
  obtain ⟨start, asked, hstart, hout⟩ := h.of_bind_of_answersIn hkind
  rw [Run.mapError_apply_eq_done] at hstart
  obtain ⟨before, turn, later, failures, between, hturns, hbefore, hout⟩ :=
    (loop_takeAll invoke i start).exists_of_runsOut (k := 0) hout.of_report
  obtain ⟨t, child, mid, rfl, hleads, hout⟩ := turn.leads_of_runsOut hout
  exact ⟨false, child, mid, .found hname hentries hpath hstart hturns hbefore hleads, hout⟩

theorem runsOut_of_found (h : invoke.Approximates invoke') {start : ObjectKind}
    {before later : List Turn} {t : Trial} {failures : List InvocationFailure}
    {asked between : List Entry} (hentries : chainEntries i.configuration ≠ [])
    (hpath : eventPath i ≠ "")
    (hstart : objectKind (eventPath i) grid log = (.done start, asked))
    (hturns : turns i = before ++ .trial t :: later)
    (hbefore : takeAll invoke' i start before grid asked = (.done failures, between))
    (hleads : Leads i start grid t between child mid)
    (hout : (child.runBy invoke).RunsOut grid mid) : (body invoke i).RunsOut grid log := by
  rw [body_eq_takeAll hentries hpath, hturns]
  refine .bind_of_done (Run.mapError_apply_eq_done.mpr hstart) (.bind ?_ _)
  exact (loop_takeAll invoke i start).runsOut_of_turn (k := 0) (loop_takeAll invoke' i start)
    (fun _ turn => turn.run_approximates h start) hbefore (Trial.runsOut_of_leads hleads hout)

end Delegation

namespace ResourcePairs

theorem mem_builtin : ⟨name, body⟩ ∈ builtinPolicies := by simp [builtinPolicies]

theorem exhausts_of_runsOut (hname : i.policy = name) (h : (body invoke i).RunsOut grid log) :
    Exhausts invoke grid i log := by
  classical
  unfold body at h
  dsimp only at h
  split at h
  · cases h
  next hfilled =>
  split at h
  · cases h
  next configured hconfigured =>
  obtain ⟨metadata, last, hwanted, hout⟩ :=
    h.of_bind_of_answersIn (wantedMetadata_answersIn i configured)
  have hrows : ((queryRows (resourceQuery metadata) 0 .general).mapError
      PolicyError.service).AnswersIn fun _ => True :=
    .mapError (.queryRows (fun _ => trivial) _ _ _)
  obtain ⟨rows, asked, hasked, hout⟩ := hout.of_bind_of_answersIn hrows
  obtain ⟨hread, rfl⟩ := Run.rows_of_queryRows (Run.mapError_apply_eq_done.mp hasked)
  have hread' : wantedMetadata i configured = pure metadata ∧ last = log := by
    rcases wantedMetadata_cases i configured with ⟨metadata', hpure⟩ | ⟨row, hrow, hnone⟩
    · rw [hpure] at hwanted ⊢
      cases hwanted
      exact ⟨rfl, rfl⟩
    · simp only [wantedMetadata, hrow, hnone] at hwanted
      cases hwanted
  obtain ⟨hpure, rfl⟩ := hread'
  have hfound : Found i grid last metadata (rows.filterMap List.head?) :=
    ⟨⟨by simpa using hfilled, configured, hconfigured, hpure⟩, rows, hread, rfl⟩
  obtain ⟨before, entry, later, failures, between, hentries, hbefore, hout⟩ :=
    (loop_runEntries invoke i _).exists_of_runsOut (k := 0) hout.of_report
  unfold runEntry at hout
  cases hpolicy : entryName? entry with
  | none =>
    rw [hpolicy] at hout
    cases hout
  | some policy =>
    rw [hpolicy] at hout
    obtain ⟨earlier, ⟨source, destination⟩, more, own, mid, hpairs, hearlier, hout⟩ :=
      (loop_runPairs invoke policy _ _).exists_of_runsOut (k := 0) hout
    exact ⟨decide (policy = name ∧ entry.get? Key.configuration = none), _, mid,
      .pair hname hfound hentries hbefore hpolicy hpairs hearlier (by simp),
      Run.RunsOut.attempt_iff.mp hout⟩

theorem runsOut_of_pair (h : invoke.Approximates invoke') {metadata entry : Document}
    {resources : List String} {before later : List Document}
    {policy source destination : String} {earlier more : List (String × String)}
    {failures own : List InvocationFailure} {between : List Entry}
    (hfound : Found i grid log metadata resources)
    (hentries : chainEntries i.configuration = before ++ entry :: later)
    (hbefore : runEntries invoke' i (neighbours resources) before
      grid (log ++ [.call (resourceCall metadata)]) = (.done failures, between))
    (hpolicy : entryName? entry = some policy)
    (hpairs : neighbours resources = earlier ++ (source, destination) :: more)
    (hearlier : runPairs invoke' policy i.parameters.fields
      ((entry.get? Key.configuration).getD i.configuration) earlier grid between =
        (.done own, mid))
    (hout : (invoke policy (pairParameters i.parameters.fields source destination)
      ((entry.get? Key.configuration).getD i.configuration)).RunsOut grid mid) :
    (body invoke i).RunsOut grid log := by
  obtain ⟨⟨hfilled, configured, hconfigured, hwanted⟩, rows, hrows, rfl⟩ := hfound
  rw [body_eq_pairsOf hfilled hconfigured hwanted]
  refine .bind_of_done (Run.mapError_apply_eq_done.mpr (Run.queryRows_of_rows hrows)) ?_
  unfold pairsOf
  rw [hentries]
  refine .bind ?_ _
  refine (loop_runEntries invoke i _).runsOut_of_turn (k := 0) (loop_runEntries invoke' i _)
    (fun _ entry => runEntry_approximates h _ entry) hbefore ?_
  unfold runEntry
  rw [hpolicy, hpairs]
  exact (loop_runPairs invoke policy _ _).runsOut_of_turn (k := 0)
    (loop_runPairs invoke' policy _ _) (fun _ _ => .attempt (h _ _ _)) hearlier
    (Run.RunsOut.attempt_iff.mpr hout)

end ResourcePairs

/-- The body of a built-in policy runs out of depth only with what it invokes. -/
theorem exhausts_of_mem {p : Policy} (hp : p ∈ builtinPolicies) (hname : i.policy = p.name)
    (happrox : invoke.Approximates invoke') (h : (p.body invoke i).RunsOut grid log) :
    Exhausts invoke grid i log := by
  rcases mem_callers_or_settled hp with hcaller | hsettled
  · simp only [callers, List.mem_cons, List.not_mem_nil, or_false] at hcaller
    rcases hcaller with rfl | rfl | rfl | rfl
    · exact QueryProcessor.exhausts_of_runsOut happrox hname h
    · exact Movement.exhausts_of_runsOut hname h
    · exact Delegation.exhausts_of_runsOut hname h
    · exact ResourcePairs.exhausts_of_runsOut hname h
  · exact absurd h (hsettled invoke invoke i grid log).ends

end GridPolicy
