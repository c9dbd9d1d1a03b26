import GridPolicy.Proofs.Policy.Delegated
import GridPolicy.Proofs.Run.Errors

/-!
# What interrupts a delegation

A delegated invocation that fails is noted and does not keep the others from their turns. An
error of the delegation itself does: metadata of an entry that is not in order, a path whose
kind cannot be found out, a collection whose metadata cannot be read. Then the turns that are
left are not taken, and the error takes the place of the failures that were noted before.
-/
namespace GridPolicy.Delegation

/-- What there is to do for an entry: the trials, or to refuse its metadata. -/
inductive Turn where
  | trial (trial : Trial)
  | refusal (delegate : Delegate) (cause : ConditionalError)

/-- The error for an entry with metadata that is not in order. -/
def refused (i : Invocation) (d : Delegate) (cause : ConditionalError) : PolicyError :=
  .invalidInput i.policy ("conditional for [" ++ d.policy ++ "]: " ++ cause.message)

def Turn.run (invoke : Invoker) (i : Invocation) (start : ObjectKind) :
    Turn → Run PolicyError (List InvocationFailure)
  | trial t => t.run invoke i start
  | refusal d cause => Run.fail (refused i d cause)

/-- The metadata of an entry is read before anything is tried for it. -/
def Delegate.turns (d : Delegate) (paths : List String) : List Turn :=
  match Conditional.parse (.object [(Key.metadata, d.metadata)]) with
  | .ok _ => (d.trials paths).map .trial
  | .error cause => [.refusal d cause]

/-- All turns that there are for an event, in order. -/
def turns (i : Invocation) : List Turn :=
  (delegates i).flatMap (·.turns (LogicalPath.ancestors (eventPath i)))

/-- Takes turns in order. -/
def takeAll (invoke : Invoker) (i : Invocation) (start : ObjectKind) :
    List Turn → Run PolicyError (List InvocationFailure)
  | [] => pure []
  | turn :: r => do
    let failures ← turn.run invoke i start
    return failures ++ (← takeAll invoke i start r)

section

variable {invoke : Invoker} {i : Invocation} {start : ObjectKind}

theorem takeAll_append (first rest : List Turn) :
    takeAll invoke i start (first ++ rest) = (do
      let failures ← takeAll invoke i start first
      return failures ++ (← takeAll invoke i start rest)) := by
  induction first with
  | nil => simp [takeAll]
  | cons turn first ih => simp only [List.cons_append, takeAll, ih, bind_assoc, pure_bind,
      List.append_assoc]

theorem takeAll_map_trial (trials : List Trial) :
    takeAll invoke i start (trials.map .trial) = tryAll invoke i start trials := by
  induction trials with
  | nil => rfl
  | cons t rest ih =>
    rw [List.map_cons, takeAll, ih]
    rfl

theorem tryEntry_eq_takeAll (d : Delegate) (path : String) :
    tryEntry invoke i path start d =
      takeAll invoke i start (d.turns (LogicalPath.ancestors path)) := by
  unfold Delegate.turns
  cases hparse : Conditional.parse (.object [(Key.metadata, d.metadata)]) with
  | ok conditional =>
    have hcompiles : d.Compiles := ⟨conditional, hparse⟩
    rw [tryEntry_eq hcompiles, takeAll_map_trial]
  | error cause =>
    unfold tryEntry Delegate.pattern
    rw [hparse]
    rfl

theorem tryDelegates_eq_takeAll (path : String) (ds : List Delegate) :
    tryDelegates invoke i start path ds =
      takeAll invoke i start (ds.flatMap (·.turns (LogicalPath.ancestors path))) := by
  induction ds with
  | nil => rfl
  | cons d rest ih =>
    rw [tryDelegates, List.flatMap_cons, takeAll_append, tryEntry_eq_takeAll, ih]

end

/-! The walk -/

/-- How a walk ends: with all turns taken, with an error while there are turns left, or
without any answer. -/
inductive Ending where
  | completed
  | interrupted (error : PolicyError) (rest : List Turn)
  | lost (loss : Loss)

/-- What comes of the invocations that were made when the walk ends. -/
def Ending.outcome (made : List Answered) : Ending → Outcome PolicyError (List InvocationFailure)
  | completed => .done (made.filterMap Answered.failure?)
  | interrupted e _ => .failed e
  | lost loss => Outcome.ofLoss loss

section

variable (i : Invocation) (start : ObjectKind) (grid : Grid)

/-- From this log a turn ends the walk with an error of the delegation, and the log is left
as it is then. -/
inductive Breaks : Turn → List Entry → PolicyError → List Entry → Prop
  | refusal {d : Delegate} {cause : ConditionalError} {log : List Entry} :
      Breaks (.refusal d cause) log (refused i d cause) log
  | unknown {t : Trial} {log mid : List Entry} {cause : ServiceError}
      (hkind : t.kind start grid log = (.failed (.service cause), mid)) :
      Breaks (.trial t) log (.service cause) mid
  | unread {t : Trial} {log mid : List Entry} {kind : ObjectKind} {cause : ServiceError}
      (hkind : t.kind start grid log = (.done kind, mid)) (hne : kind ≠ .dataObject)
      (hread : grid.answer mid (.metadataOf .collection t.path) = .error cause) :
      Breaks (.trial t) log (.service cause) (mid ++ [.call (.metadataOf .collection t.path)])

variable (invoke : Invoker)

/-- From this log turns are taken one after the other, with these invocations and answers,
until the walk ends; the log is left as it is then. -/
inductive Walks : List Turn → List Entry → List Answered → Ending → List Entry → Prop
  | completed {log : List Entry} : Walks [] log [] .completed log
  | passed {t : Trial} {rest : List Turn} {log mid after : List Entry} {made : List Answered}
      {ending : Ending} (hpasses : Passes start grid t log mid)
      (hrest : Walks rest mid made ending after) :
      Walks (.trial t :: rest) log made ending after
  | invoked {t : Trial} {rest : List Turn} {log mid last after : List Entry} {j : Invocation}
      {answer : Except PolicyError Document} {made : List Answered} {ending : Ending}
      (hleads : Leads i start grid t log j mid)
      (hrun : invoke j.policy j.parameters j.configuration grid mid =
        (Outcome.ofExcept answer, last))
      (hrest : Walks rest last made ending after) :
      Walks (.trial t :: rest) log ((j, answer) :: made) ending after
  | interrupted {turn : Turn} {rest : List Turn} {log after : List Entry} {e : PolicyError}
      (hbreaks : Breaks i start grid turn log e after) :
      Walks (turn :: rest) log [] (.interrupted e rest) after
  | lost {t : Trial} {rest : List Turn} {log mid after : List Entry} {j : Invocation} {loss : Loss}
      (hleads : Leads i start grid t log j mid)
      (hrun : invoke j.policy j.parameters j.configuration grid mid =
        (Outcome.ofLoss loss, after)) :
      Walks (.trial t :: rest) log [] (.lost loss) after

end

section

variable {invoke : Invoker} {i j : Invocation} {start : ObjectKind} {grid : Grid}
  {log mid after : List Entry} {t : Trial} {made : List Answered}

/-- The error of the delegation is no list of failures. -/
theorem Breaks.ne_aggregated {turn : Turn} {e : PolicyError}
    (h : Breaks i start grid turn log e after) (failures : List InvocationFailure) :
    e ≠ .aggregated failures := by
  cases h <;> nofun

theorem Turn.run_of_breaks {turn : Turn} {e : PolicyError}
    (h : Breaks i start grid turn log e after) :
    turn.run invoke i start grid log = (.failed e, after) := by
  cases h with
  | refusal => rfl
  | unknown hkind => exact Run.bind_of_stop hkind rfl
  | @unread t _ mid _ cause hkind hne hread =>
    have hmatch : matchOn t.delegate.constraints t.path grid mid =
        (.failed (.service cause), mid ++ [.call (.metadataOf .collection t.path)]) := by
      unfold matchOn
      rw [Run.bind_apply, Run.mapError_ask_apply, hread]
      rfl
    unfold Turn.run Trial.run tryPath
    dsimp only
    rw [Run.bind_of_done hkind]
    simp only [beq_iff_eq, hne, ↓reduceIte]
    exact Run.bind_of_stop hmatch rfl

/-- A trial passes, leads to an invocation or ends the walk. -/
theorem passes_leads_or_breaks (i : Invocation) (start : ObjectKind) (grid : Grid) (t : Trial)
    (log : List Entry) :
    (∃ mid, Passes start grid t log mid) ∨ (∃ j mid, Leads i start grid t log j mid) ∨
      ∃ e after, Breaks i start grid (.trial t) log e after := by
  have hanswers : (t.kind start).AnswersIn fun e => ∃ cause, e = .service cause := by
    unfold Trial.kind
    split
    · exact .pure start
    · exact .mapError (objectKind_answersIn (fun cause => ⟨cause, rfl⟩) t.path)
  obtain ⟨answer, mid, hkind, hservice⟩ := hanswers grid log
  cases answer with
  | error e =>
    obtain ⟨cause, rfl⟩ := hservice e rfl
    exact .inr (.inr ⟨_, mid, .unknown hkind⟩)
  | ok kind =>
    by_cases hobject : kind = .dataObject
    · subst hobject
      exact .inl ⟨mid, .object hkind⟩
    cases hread : grid.answer mid (.metadataOf .collection t.path) with
    | error cause => exact .inr (.inr ⟨_, _, .unread hkind hobject hread⟩)
    | ok avus =>
      rcases passes_or_leads_of_read i hkind hobject hread with ⟨mid, hpasses⟩ | ⟨j, mid, hleads⟩
      · exact .inl ⟨mid, hpasses⟩
      · exact .inr (.inl ⟨j, mid, hleads⟩)

/-- The failures of an invocation that was made before count only if the walk is completed. -/
theorem Ending.outcome_append {ending : Ending} {run : Run PolicyError (List InvocationFailure)}
    (first : List Answered) (h : run grid log = (ending.outcome made, after)) :
    (do
      let failures ← run
      return first.filterMap Answered.failure? ++ failures :
        Run PolicyError (List InvocationFailure)) grid log =
      (ending.outcome (first ++ made), after) := by
  cases ending with
  | completed =>
    rw [Run.bind_of_done h, Ending.outcome, List.filterMap_append]
    rfl
  | interrupted e rest => exact Run.bind_of_stop h rfl
  | lost loss => exact Run.bind_of_loss h

theorem takeAll_of_walks {turns : List Turn} {ending : Ending}
    (h : Walks i start grid invoke turns log made ending after) :
    takeAll invoke i start turns grid log = (ending.outcome made, after) := by
  induction h with
  | completed => rfl
  | passed hpasses _ ih =>
    rw [takeAll, Turn.run, Run.bind_of_done (Trial.run_of_passes hpasses)]
    exact Ending.outcome_append [] ih
  | @invoked _ _ _ _ _ _ j answer _ _ hleads hrun _ ih =>
    have hfailure : (Answered.failure? (j, answer)).toList =
        [(j, answer)].filterMap Answered.failure? := by cases answer <;> rfl
    rw [takeAll, Turn.run, Run.bind_of_done (Trial.run_of_answer hleads hrun), hfailure]
    exact Ending.outcome_append [(j, answer)] ih
  | interrupted hbreaks =>
    rw [takeAll]
    exact Run.bind_of_stop (Turn.run_of_breaks hbreaks) rfl
  | lost hleads hrun =>
    rw [takeAll]
    exact Run.bind_of_loss (Trial.run_of_loss hleads hrun)

/-- Every walk ends in one of these ways. -/
theorem exists_walks (invoke : Invoker) (i : Invocation) (start : ObjectKind) (grid : Grid)
    (turns : List Turn) (log : List Entry) :
    ∃ made ending after, Walks i start grid invoke turns log made ending after := by
  induction turns generalizing log with
  | nil => exact ⟨[], .completed, log, .completed⟩
  | cons turn rest ih =>
    cases turn with
    | refusal d cause => exact ⟨[], _, log, .interrupted .refusal⟩
    | trial t =>
      rcases passes_leads_or_breaks i start grid t log with
        ⟨mid, hpasses⟩ | ⟨j, mid, hleads⟩ | ⟨e, after, hbreaks⟩
      · obtain ⟨made, ending, after, hwalks⟩ := ih mid
        exact ⟨made, ending, after, .passed hpasses hwalks⟩
      · rcases hrun : invoke j.policy j.parameters j.configuration grid mid with ⟨o, last⟩
        rcases o.answered_or_lost with ⟨answer, rfl⟩ | ⟨loss, rfl⟩
        · obtain ⟨made, ending, after, hwalks⟩ := ih last
          exact ⟨(j, answer) :: made, ending, after, .invoked hleads hrun hwalks⟩
        · exact ⟨[], .lost loss, last, .lost hleads hrun⟩
      · exact ⟨[], _, after, .interrupted hbreaks⟩

end

/-- How the handing on of an event may go on whatever grid, and the log that it leaves. -/
inductive Handled (invoke : Invoker) (i : Invocation) (grid : Grid) (log : List Entry) :
    Outcome PolicyError Document × List Entry → Prop
  | unlisted (hentries : chainEntries i.configuration = []) :
      Handled invoke i grid log
        (.failed (.invalidInput i.policy "policies_to_invoke is empty for event delegate"), log)
  | unnamed (hentries : chainEntries i.configuration ≠ []) (hpath : eventPath i = "") :
      Handled invoke i grid log (.failed (.invalidInput i.policy "logical_path is empty"), log)
  | unknown {cause : ServiceError} {after : List Entry}
      (hentries : chainEntries i.configuration ≠ []) (hpath : eventPath i ≠ "")
      (hstart : objectKind (eventPath i) grid log = (.failed cause, after)) :
      Handled invoke i grid log (.failed (.service cause), after)
  /-- All turns are taken, and no invocation fails. -/
  | succeeded {start : ObjectKind} {mid after : List Entry} {made : List Answered}
      (hentries : chainEntries i.configuration ≠ []) (hpath : eventPath i ≠ "")
      (hstart : objectKind (eventPath i) grid log = (.done start, mid))
      (hwalks : Walks i start grid invoke (turns i) mid made .completed after)
      (hnone : made.filterMap Answered.failure? = []) :
      Handled invoke i grid log (.done .null, after)
  /-- All turns are taken, and each invocation that failed is reported. -/
  | failed {start : ObjectKind} {mid after : List Entry} {made : List Answered}
      (hentries : chainEntries i.configuration ≠ []) (hpath : eventPath i ≠ "")
      (hstart : objectKind (eventPath i) grid log = (.done start, mid))
      (hwalks : Walks i start grid invoke (turns i) mid made .completed after)
      (hsome : made.filterMap Answered.failure? ≠ []) :
      Handled invoke i grid log
        (.failed (.aggregated (made.filterMap Answered.failure?)), after)
  /-- The turns that are left are not taken, and what failed before is not reported. -/
  | interrupted {start : ObjectKind} {mid after : List Entry} {made : List Answered}
      {e : PolicyError} {rest : List Turn}
      (hentries : chainEntries i.configuration ≠ []) (hpath : eventPath i ≠ "")
      (hstart : objectKind (eventPath i) grid log = (.done start, mid))
      (hwalks : Walks i start grid invoke (turns i) mid made (.interrupted e rest) after)
      (hother : ∀ failures, e ≠ .aggregated failures) :
      Handled invoke i grid log (.failed e, after)
  | lost {start : ObjectKind} {mid after : List Entry} {made : List Answered} {loss : Loss}
      (hentries : chainEntries i.configuration ≠ []) (hpath : eventPath i ≠ "")
      (hstart : objectKind (eventPath i) grid log = (.done start, mid))
      (hwalks : Walks i start grid invoke (turns i) mid made (.lost loss) after) :
      Handled invoke i grid log (Outcome.ofLoss loss, after)

section

variable {invoke : Invoker} {i : Invocation} {start : ObjectKind} {grid : Grid}
  {log after : List Entry} {made : List Answered}

/-- The error that interrupts a walk is one of the delegation. -/
theorem Walks.ne_aggregated {turns rest : List Turn} {e : PolicyError}
    (h : Walks i start grid invoke turns log made (.interrupted e rest) after)
    (failures : List InvocationFailure) : e ≠ .aggregated failures := by
  generalize hending : Ending.interrupted e rest = ending at h
  induction h with
  | completed => cases hending
  | passed _ _ ih => exact ih hending
  | invoked _ _ _ ih => exact ih hending
  | interrupted hbreaks =>
    cases hending
    exact hbreaks.ne_aggregated failures
  | lost => cases hending

theorem body_of_unnamed (hentries : chainEntries i.configuration ≠ []) (hpath : eventPath i = "")
    (log : List Entry) :
    body invoke i grid log = (.failed (.invalidInput i.policy "logical_path is empty"), log) := by
  unfold body
  rw [eventPath] at hpath
  simp only [List.isEmpty_iff, hentries, hpath, beq_iff_eq, ↓reduceIte]
  rfl

theorem body_eq_takeAll (hentries : chainEntries i.configuration ≠ []) (hpath : eventPath i ≠ "") :
    body invoke i = (do
      let start ← (objectKind (eventPath i)).mapError .service
      let failures ← takeAll invoke i start (turns i)
      Run.ofExcept (PolicyError.ofFailures failures)
      return .null) := by
  rw [body_eq_tryDelegates hentries hpath]
  simp only [tryDelegates_eq_takeAll, turns]

/-- An event is handed on as far as the first turn that the delegation cannot take. Where it can
take all of them every invocation that fails is reported. Otherwise the failures of the
invocations that were made are not reported, and those of the turns that are left are not
made. -/
theorem event_handled (invoke : Invoker) (i : Invocation) (grid : Grid) (log : List Entry) :
    Handled invoke i grid log (body invoke i grid log) := by
  by_cases hentries : chainEntries i.configuration = []
  · rw [body_of_no_entries hentries]
    exact .unlisted hentries
  by_cases hpath : eventPath i = ""
  · rw [body_of_unnamed hentries hpath]
    exact .unnamed hentries hpath
  rw [body_eq_takeAll hentries hpath]
  obtain ⟨kind, mid, hstart, -⟩ := objectKind_answersIn (P := fun _ => True) (fun _ => trivial)
    (eventPath i) grid log
  cases kind with
  | error cause =>
    rw [Run.bind_of_stop (Run.mapError_of_failed hstart) rfl]
    exact .unknown hentries hpath hstart
  | ok start =>
    rw [Run.bind_of_done (Run.mapError_apply_eq_done.mpr hstart)]
    obtain ⟨made, ending, after, hwalks⟩ := exists_walks invoke i start grid (turns i) mid
    have htaken := takeAll_of_walks hwalks
    cases ending with
    | completed =>
      rw [Run.bind_of_done htaken]
      cases hfailures : made.filterMap Answered.failure? with
      | nil => exact .succeeded hentries hpath hstart hwalks hfailures
      | cons failure failures =>
        have hfailed := Handled.failed hentries hpath hstart hwalks (by simp [hfailures])
        rwa [hfailures] at hfailed
    | interrupted e rest =>
      rw [Run.bind_of_stop htaken rfl]
      exact .interrupted hentries hpath hstart hwalks hwalks.ne_aggregated
    | lost loss =>
      rw [Run.bind_of_loss htaken]
      exact .lost hentries hpath hstart hwalks

end

/-- An entry for a policy that is interested in collections with such an attribute. -/
def interested (policy wanted : String) : Document :=
  .ofFields
    [("policy", .text policy),
     (Key.conditional, .ofFields [(Key.metadata, .ofFields [("attribute", .text wanted)])])]

/-- The metadata of the second of three entries is no pattern. -/
def interrupting : Invocation where
  policy := name
  parameters := archiving.parameters
  configuration := .ofFields [(Key.policiesToInvoke, .array
    [interested "keep" "archive", interested "second" "(", interested "later" "archive"])]

/-- A policy of every name, which fails. -/
def failing : Invoker := fun policy parameters configuration => do
  Run.note (.invocation policy parameters configuration)
  Run.fail (.unknownPolicy policy)

/-- The same grid, but the metadata of one collection cannot be read. -/
def sealing (path : String) : Grid where
  now := 0
  answer
    | log, .metadataOf entity target =>
      if target = path then .error (.metadataFailed path "sealed")
      else marked.answer log (.metadataOf entity target)
    | log, call => marked.answer log call

/-- The names of the policies that were invoked. -/
def invokedIn (log : List Entry) : List String :=
  log.filterMap fun
    | .invocation policy _ _ => some policy
    | .call _ => none

/-- A policy was invoked and failed, and its failure is not reported: the next entry is not in
order, or a collection further up cannot be read. The entry behind that one has no turn. -/
theorem event_handled_interrupted :
    (∃ after, Handled failing interrupting marked []
        (.failed (.invalidInput name ("conditional for [second]: invalid pattern [(] " ++
          "for conditional field [attribute]: not a pattern")), after) ∧
      invokedIn after = ["keep"]) ∧
    ∃ after, Handled failing archiving (sealing "/zone") []
        (.failed (.service (.metadataFailed "/zone" "sealed")), after) ∧
      invokedIn after = ["keep"] := by
  have hrefused : (body failing interrupting marked []).1.error? =
      some (.invalidInput name ("conditional for [second]: invalid pattern [(] " ++
        "for conditional field [attribute]: not a pattern")) ∧
      invokedIn (body failing interrupting marked []).2 = ["keep"] := by decide +kernel
  have hsealed : (body failing archiving (sealing "/zone") []).1.error? =
      some (.service (.metadataFailed "/zone" "sealed")) ∧
      invokedIn (body failing archiving (sealing "/zone") []).2 = ["keep"] := by decide +kernel
  constructor
  · have hhandled := event_handled failing interrupting marked []
    rcases hbody : body failing interrupting marked [] with ⟨o, after⟩
    rw [hbody] at hhandled hrefused
    obtain rfl := Outcome.error?_eq_some.mp hrefused.1
    exact ⟨after, hhandled, hrefused.2⟩
  · have hhandled := event_handled failing archiving (sealing "/zone") []
    rcases hbody : body failing archiving (sealing "/zone") [] with ⟨o, after⟩
    rw [hbody] at hhandled hsealed
    obtain rfl := Outcome.error?_eq_some.mp hsealed.1
    exact ⟨after, hhandled, hsealed.2⟩

end GridPolicy.Delegation
