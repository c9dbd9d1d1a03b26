import GridPolicy.Policy.Delegation
import GridPolicy.Proofs.LogicalPath.Parts
import GridPolicy.Proofs.Run.Answers

/-!
# What is delegated

The entries that concern an event are tried in order, each on the path of the event and on
the collections above it. A trial leads to one invocation, unless the path is that of a data
object or nothing that is looked for is found there. Here the trials are listed, and to
delegate is shown to be to make them one after the other: each has its turn whatever came of
the invocations before it, and every failure is kept.
-/
namespace GridPolicy

/-- The catalog answers every query, with rows or without, and metadata can be read. -/
structure Grid.Readable (grid : Grid) : Prop where
  rows : ∀ log text limit kind, ∃ rows,
    rowsFound (grid.answer log (.query text limit kind)) = .ok rows
  avus : ∀ log path, ∃ avus, grid.answer log (.metadataOf .collection path) = .ok avus

/-- On such a grid every path is of some kind. -/
theorem objectKind_completes {grid : Grid} (h : grid.Readable) (path : String) :
    (objectKind path).Completes grid := by
  have hquery (text : String) : (queryRows text 1 .general).Completes grid :=
    .queryRows fun log => h.rows log text 1 .general
  rw [objectKind_eq]
  refine .bind ?_ fun objects => ?_
  · unfold objectsOf
    split
    · exact .pure []
    · exact hquery _
  · unfold kindBehind
    split
    · exact .pure _
    · refine .bind (hquery _) fun collections => ?_
      split
      · exact .pure _
      · exact .pure _

namespace Delegation

/-! What is handed on -/

/-- The triple that was found, with the kind of entity of the event. -/
def described (entity : EntityType) (avu : Avu) : Document :=
  .ofFields
    [(Key.entityType, .text entity.name),
     ("attribute", .text avu.name),
     ("value", .text avu.value),
     ("units", .text avu.units)]

/-- The parameters are handed on as they are but for the metadata of the conditional. A
conditional that is no object counts as one without fields. -/
structure Forwards (parameters : Document) (entity : EntityType) (avu : Avu)
    (handed : Document) : Prop where
  others : ∀ key, key ≠ Key.conditional → handed.get? key = parameters.get? key
  conditional : ∃ fields, handed.get? Key.conditional = some (.object fields) ∧
    Fields.get? Key.metadata fields = some (described entity avu) ∧
    ∀ key, key ≠ Key.metadata →
      Fields.get? key fields = (parameters.objectField Key.conditional).get? key

theorem forwards_forwarded (parameters : Document) (entity : EntityType) (avu : Avu) :
    Forwards parameters entity avu (forwarded parameters entity avu) where
  others _ hkey := Fields.get?_insert_of_ne hkey _ _
  conditional := by
    refine ⟨(parameters.objectField Key.conditional).insert Key.metadata (described entity avu),
      Fields.get?_insert_self .., Fields.get?_insert_self .., ?_⟩
    intro key hkey
    exact Fields.get?_insert_of_ne hkey _ _

/-! The trials -/

/-- An entry in its turn on a path of the walk. -/
structure Trial where
  delegate : Delegate
  path : String
  /-- The event's own path, whose kind is asked for once and for all. -/
  own : Bool

namespace Delegate

/-- The constraints of an entry on the triples that it looks for. -/
def constraints (d : Delegate) : MetadataPattern :=
  match Conditional.parse (.object [(Key.metadata, d.metadata)]) with
  | .ok conditional => conditional.metadata
  | .error _ => {}

/-- The metadata of the entry is in order. -/
def Compiles (d : Delegate) : Prop :=
  ∃ conditional, Conditional.parse (.object [(Key.metadata, d.metadata)]) = .ok conditional

instance : DecidablePred Compiles := fun d =>
  match h : Conditional.parse (.object [(Key.metadata, d.metadata)]) with
  | .ok conditional => isTrue ⟨conditional, h⟩
  | .error _ => isFalse fun ⟨_, hok⟩ => nomatch h.symm.trans hok

theorem pattern_eq {d : Delegate} (h : d.Compiles) (i : Invocation) :
    d.pattern i = pure d.constraints := by
  obtain ⟨conditional, hparse⟩ := h
  unfold pattern constraints
  rw [hparse]

/-- An entry that can be tried and that concerns an event about this kind of entity. -/
def forEvent? (event : String) (entry : Document) : Option Delegate :=
  Option.filter (·.concerns event) (Delegate.ofEntry? entry)

/-- An entry on the paths of the walk. -/
def trials (d : Delegate) : List String → List Trial
  | [] => []
  | first :: above => ⟨d, first, true⟩ :: above.map fun path => ⟨d, path, false⟩

end Delegate

/-- The path of the event. -/
def eventPath (i : Invocation) : String := (Capture.ofParameters i.parameters .root).logicalPath

/-- The entries that can be tried and that concern the event. -/
def delegates (i : Invocation) : List Delegate :=
  (chainEntries i.configuration).filterMap (Delegate.forEvent? (eventEntity i.parameters))

/-- Every one of them on every path of the walk. -/
def trials (i : Invocation) : List Trial :=
  (delegates i).flatMap (·.trials (LogicalPath.ancestors (eventPath i)))

/-- The kind of entity that the event is about. -/
def entityOf (start : ObjectKind) : EntityType :=
  if start == .dataObject then .dataObject else .collection

/-- What there is at the path of a trial. -/
def Trial.kind (t : Trial) (start : ObjectKind) : Run PolicyError ObjectKind :=
  if t.own then pure start else (objectKind t.path).mapError .service

section

variable (invoke : Invoker) (i : Invocation) (start : ObjectKind)

def Trial.run (t : Trial) : Run PolicyError (List InvocationFailure) :=
  tryPath invoke i (entityOf start) t.delegate t.delegate.constraints t.path (t.kind start)

/-- Tries entries in order. -/
def tryDelegates (path : String) : List Delegate → Run PolicyError (List InvocationFailure)
  | [] => pure []
  | d :: r => do
    let failures ← tryEntry invoke i path start d
    return failures ++ (← tryDelegates path r)

/-- Makes trials in order. -/
def tryAll : List Trial → Run PolicyError (List InvocationFailure)
  | [] => pure []
  | t :: r => do
    let failures ← t.run invoke i start
    return failures ++ (← tryAll r)

variable {invoke i start}

theorem tryAll_append (first rest : List Trial) :
    tryAll invoke i start (first ++ rest) = (do
      let failures ← tryAll invoke i start first
      return failures ++ (← tryAll invoke i start rest)) := by
  induction first with
  | nil => simp [tryAll]
  | cons t first ih => simp only [List.cons_append, tryAll, ih, bind_assoc, pure_bind,
      List.append_assoc]

theorem tryAbove_eq (d : Delegate) (paths : List String) :
    tryAbove invoke i (entityOf start) d d.constraints paths =
      tryAll invoke i start (paths.map fun path => ⟨d, path, false⟩) := by
  induction paths with
  | nil => rfl
  | cons path rest ih =>
    rw [tryAbove, ih]
    rfl

theorem tryEntry_eq {d : Delegate} (h : d.Compiles) (path : String) :
    tryEntry invoke i path start d =
      tryAll invoke i start (d.trials (LogicalPath.ancestors path)) := by
  unfold tryEntry
  rw [Delegate.pattern_eq h, pure_bind]
  dsimp only
  cases LogicalPath.ancestors path with
  | nil => rfl
  | cons first above =>
    dsimp only
    rw [← entityOf, tryAbove_eq]
    rfl

/-- To try the entries is to try those that concern the event. -/
theorem tryEntries_eq_tryDelegates (event path : String) (entries : List Document) :
    tryEntries invoke i path start event entries =
      tryDelegates invoke i start path (entries.filterMap (Delegate.forEvent? event)) := by
  induction entries with
  | nil => rfl
  | cons entry rest ih =>
    unfold tryEntries
    cases hentry : Delegate.ofEntry? entry with
    | none =>
      have hnone : Delegate.forEvent? event entry = none := by rw [Delegate.forEvent?, hentry]; rfl
      rw [List.filterMap_cons_none hnone]
      simp [ih]
    | some d =>
      by_cases hconcerns : d.concerns event = true
      · have hsome : Delegate.forEvent? event entry = some d := by
          rw [Delegate.forEvent?, hentry, Option.filter_some, if_pos hconcerns]
        rw [List.filterMap_cons_some hsome, tryDelegates, ← ih]
        simp [hconcerns]
      · have hnone : Delegate.forEvent? event entry = none := by
          rw [Delegate.forEvent?, hentry, Option.filter_some, if_neg hconcerns]
        rw [List.filterMap_cons_none hnone]
        simp [hconcerns, ih]

theorem tryDelegates_eq {path : String} {ds : List Delegate} (h : ∀ d ∈ ds, d.Compiles) :
    tryDelegates invoke i start path ds =
      tryAll invoke i start (ds.flatMap (·.trials (LogicalPath.ancestors path))) := by
  induction ds with
  | nil => rfl
  | cons d rest ih =>
    obtain ⟨hd, hrest⟩ := List.forall_mem_cons.mp h
    rw [tryDelegates, List.flatMap_cons, tryAll_append, tryEntry_eq hd, ih hrest]

end

/-! What the trials come to -/

/-- An invocation that was made, and its answer. -/
abbrev Answered := Invocation × Except PolicyError Document

/-- How a failure is reported: by the name of the policy, and code and message of its
error. -/
def Answered.failure? : Answered → Option InvocationFailure
  | (_, .ok _) => none
  | (j, .error e) => some (PolicyError.failureOf j.policy e)

/-- A run that has collected the failures ends well if there are none, and else with them. -/
theorem Answered.reported (made : List Answered) (grid : Grid) (log : List Entry) :
    let report : Run PolicyError Document := do
      Run.ofExcept (PolicyError.ofFailures (made.filterMap Answered.failure?))
      return .null
    (∀ m ∈ made, m.failure? = none) ∧ report grid log = (.done .null, log) ∨
    (∃ m ∈ made, m.failure? ≠ none) ∧
      report grid log = (.failed (.aggregated (made.filterMap Answered.failure?)), log) := by
  intro report
  by_cases hnone : ∀ m ∈ made, m.failure? = none
  · refine .inl ⟨hnone, ?_⟩
    simp only [report, List.filterMap_eq_nil_iff.mpr hnone]
    rfl
  · have hsome : made.filterMap Answered.failure? ≠ [] := mt List.filterMap_eq_nil_iff.mp hnone
    obtain ⟨failure, failures, hfailures⟩ := List.exists_cons_of_ne_nil hsome
    refine .inr ⟨by push Not at hnone; exact hnone, ?_⟩
    simp only [report, hfailures]
    rfl

section

variable (i : Invocation) (start : ObjectKind) (grid : Grid)

/-- From this log a trial leads to nothing, and leaves the log as it is then. -/
inductive Passes (t : Trial) : List Entry → List Entry → Prop
  | object {log mid : List Entry} (hkind : t.kind start grid log = (.done .dataObject, mid)) :
      Passes t log mid
  /-- Nothing that is looked for is stored. -/
  | unmatched {log mid : List Entry} {kind : ObjectKind} {avus : List Avu}
      (hkind : t.kind start grid log = (.done kind, mid)) (hne : kind ≠ .dataObject)
      (hread : grid.answer mid (.metadataOf .collection t.path) = .ok avus)
      (hnone : ∀ avu ∈ avus, t.delegate.constraints.matchesAvu avu = false) :
      Passes t log (mid ++ [.call (.metadataOf .collection t.path)])

/-- From this log a trial leads to an invocation: of the policy of the entry, with the first
triple that is looked for. -/
inductive Leads (t : Trial) : List Entry → Invocation → List Entry → Prop
  | matched {log mid : List Entry} {kind : ObjectKind} {before rest : List Avu} {avu : Avu}
      (hkind : t.kind start grid log = (.done kind, mid)) (hne : kind ≠ .dataObject)
      (hread : grid.answer mid (.metadataOf .collection t.path) = .ok (before ++ avu :: rest))
      (hbefore : ∀ other ∈ before, t.delegate.constraints.matchesAvu other = false)
      (hmatch : t.delegate.constraints.matchesAvu avu = true) :
      Leads t log
        ⟨t.delegate.policy, forwarded i.parameters (entityOf start) avu, t.delegate.configuration⟩
        (mid ++ [.call (.metadataOf .collection t.path)])

variable (invoke : Invoker)

/-- From this log the trials are made one after the other, with these invocations and
answers, and the log is left as it is then. -/
inductive Walked : List Entry → List Trial → List Answered → List Entry → Prop
  | nil {log : List Entry} : Walked log [] [] log
  | passed {log mid after : List Entry} {t : Trial} {rest : List Trial} {made : List Answered}
      (hpasses : Passes start grid t log mid) (hrest : Walked mid rest made after) :
      Walked log (t :: rest) made after
  | invoked {log mid last after : List Entry} {t : Trial} {rest : List Trial}
      {made : List Answered} {j : Invocation} {answer : Except PolicyError Document}
      (hleads : Leads i start grid t log j mid)
      (hrun : invoke j.policy j.parameters j.configuration grid mid =
        (Outcome.ofExcept answer, last))
      (hrest : Walked last rest made after) :
      Walked log (t :: rest) ((j, answer) :: made) after

end

section

variable {invoke : Invoker} {i j : Invocation} {start : ObjectKind} {grid : Grid}
  {log mid last after : List Entry} {t : Trial} {made : List Answered}

/-- Where the metadata on a path was read, a trial does one or the other. -/
theorem passes_or_leads_of_read {kind : ObjectKind} {avus : List Avu} (i : Invocation)
    (hkind : t.kind start grid log = (.done kind, mid)) (hne : kind ≠ .dataObject)
    (hread : grid.answer mid (.metadataOf .collection t.path) = .ok avus) :
    (∃ mid, Passes start grid t log mid) ∨ ∃ j mid, Leads i start grid t log j mid := by
  cases hfind : avus.find? t.delegate.constraints.matchesAvu with
  | none =>
    refine .inl ⟨_, .unmatched hkind hne hread ?_⟩
    simpa using hfind
  | some avu =>
    obtain ⟨hmatch, before, rest, rfl, hbefore⟩ := List.find?_eq_some_iff_append.mp hfind
    exact .inr ⟨_, _, .matched hkind hne hread (by simpa using hbefore) hmatch⟩

/-- On a grid that can be read a trial does one or the other. -/
theorem passes_or_leads (hgrid : grid.Readable) (i : Invocation) (start : ObjectKind)
    (t : Trial) (log : List Entry) :
    (∃ mid, Passes start grid t log mid) ∨ ∃ j mid, Leads i start grid t log j mid := by
  have hcompletes : (t.kind start).Completes grid := by
    unfold Trial.kind
    split
    · exact .pure start
    · exact .mapError (objectKind_completes hgrid t.path)
  obtain ⟨kind, mid, hkind⟩ := hcompletes log
  by_cases hobject : kind = .dataObject
  · subst hobject
    exact .inl ⟨mid, .object hkind⟩
  obtain ⟨avus, hread⟩ := hgrid.avus mid t.path
  exact passes_or_leads_of_read i hkind hobject hread

theorem matchOn_apply {pattern : MetadataPattern} {path : String} {avus : List Avu}
    (hread : grid.answer log (.metadataOf .collection path) = .ok avus) :
    matchOn pattern path grid log =
      (.done (avus.find? pattern.matchesAvu), log ++ [.call (.metadataOf .collection path)]) := by
  unfold matchOn
  rw [Run.bind_apply, Run.mapError_ask_apply, hread]
  rfl

theorem Trial.run_of_passes (h : Passes start grid t log mid) :
    t.run invoke i start grid log = (.done [], mid) := by
  unfold Trial.run tryPath
  cases h with
  | object hkind =>
    rw [Run.bind_of_done hkind]
    rfl
  | @unmatched _ _ avus hkind hne hread hnone =>
    have hfind : avus.find? t.delegate.constraints.matchesAvu = none :=
      List.find?_eq_none.mpr fun avu havu => by simp [hnone avu havu]
    rw [Run.bind_of_done hkind]
    simp only [beq_iff_eq, hne, ↓reduceIte]
    rw [Run.bind_of_done (matchOn_apply hread), hfind]
    rfl

/-- The run of a trial that leads to an invocation goes on with that. -/
theorem Trial.run_of_leads (h : Leads i start grid t log j mid) :
    t.run invoke i start grid log = (do
      let answer ← (invoke j.policy j.parameters j.configuration).attempt
      return (Answered.failure? (j, answer)).toList :
        Run PolicyError (List InvocationFailure)) grid mid := by
  unfold Trial.run tryPath
  cases h with
  | @matched _ _ before rest avu hkind hne hread hbefore hmatch =>
    have hfind : (before ++ avu :: rest).find? t.delegate.constraints.matchesAvu = some avu :=
      List.find?_eq_some_iff_append.mpr
        ⟨hmatch, before, rest, rfl, fun other hother => by simp [hbefore other hother]⟩
    rw [Run.bind_of_done hkind]
    simp only [beq_iff_eq, hne, ↓reduceIte]
    rw [Run.bind_of_done (matchOn_apply hread), hfind]
    refine congrArg (fun next : Except PolicyError Document →
      Run PolicyError (List InvocationFailure) => (_ >>= next) grid _) (funext fun answer => ?_)
    cases answer <;> rfl

theorem Trial.run_of_answer {answer : Except PolicyError Document}
    (hleads : Leads i start grid t log j mid)
    (hrun : invoke j.policy j.parameters j.configuration grid mid =
      (Outcome.ofExcept answer, after)) :
    t.run invoke i start grid log =
      (.done (Answered.failure? (j, answer)).toList, after) := by
  rw [Trial.run_of_leads hleads, Run.bind_of_done (Run.attempt_of_answer hrun)]
  rfl

theorem Trial.run_of_loss {loss : Loss} (hleads : Leads i start grid t log j mid)
    (hrun : invoke j.policy j.parameters j.configuration grid mid =
      (Outcome.ofLoss loss, after)) :
    t.run invoke i start grid log = (Outcome.ofLoss loss, after) := by
  rw [Trial.run_of_leads hleads]
  exact Run.bind_of_loss (Run.attempt_of_loss hrun)

theorem tryAll_of_walked {attempted : List Trial}
    (h : Walked i start grid invoke log attempted made after) :
    tryAll invoke i start attempted grid log =
      (.done (made.filterMap Answered.failure?), after) := by
  induction h with
  | nil => rfl
  | passed hpasses _ ih =>
    rw [tryAll, Run.bind_of_done (Trial.run_of_passes hpasses), Run.bind_of_done ih]
    rfl
  | @invoked _ _ _ _ _ _ made j answer hleads hrun _ ih =>
    rw [tryAll, Run.bind_of_done (Trial.run_of_answer hleads hrun), Run.bind_of_done ih]
    cases answer <;> rfl

/-- A trial whose invocation gives no answer is the last that is made. -/
theorem tryAll_of_loss {attempted : List Trial} {loss : Loss} (rest : List Trial)
    (hwalked : Walked i start grid invoke log attempted made mid)
    (hleads : Leads i start grid t mid j last)
    (hrun : invoke j.policy j.parameters j.configuration grid last =
      (Outcome.ofLoss loss, after)) :
    tryAll invoke i start (attempted ++ t :: rest) grid log = (Outcome.ofLoss loss, after) := by
  rw [tryAll_append, Run.bind_of_done (tryAll_of_walked hwalked)]
  refine Run.bind_of_loss ?_
  rw [tryAll]
  exact Run.bind_of_loss (Trial.run_of_loss hleads hrun)

/-- All trials are made, or those up to one whose invocation gives no answer. -/
theorem walked_or_lost (hgrid : grid.Readable) (invoke : Invoker) (i : Invocation)
    (start : ObjectKind) (attempts : List Trial) (log : List Entry) :
    (∃ made after, Walked i start grid invoke log attempts made after) ∨
    ∃ attempted t rest made mid j last loss after,
      attempts = attempted ++ t :: rest ∧ Walked i start grid invoke log attempted made mid ∧
      Leads i start grid t mid j last ∧
      invoke j.policy j.parameters j.configuration grid last = (Outcome.ofLoss loss, after) := by
  induction attempts generalizing log with
  | nil => exact .inl ⟨[], log, .nil⟩
  | cons t attempts ih =>
    rcases passes_or_leads hgrid i start t log with ⟨mid, hpasses⟩ | ⟨j, mid, hleads⟩
    · rcases ih mid with ⟨made, after, hwalked⟩ |
        ⟨attempted, u, rest, made, mid', j, last, loss, after, rfl, hwalked, hleads, hrun⟩
      · exact .inl ⟨made, after, .passed hpasses hwalked⟩
      · exact .inr ⟨t :: attempted, u, rest, made, mid', j, last, loss, after, rfl,
          .passed hpasses hwalked, hleads, hrun⟩
    · rcases hinvoke : invoke j.policy j.parameters j.configuration grid mid with ⟨o, last⟩
      rcases o.answered_or_lost with ⟨answer, rfl⟩ | ⟨loss, rfl⟩
      · rcases ih last with ⟨made, after, hwalked⟩ |
          ⟨attempted, u, rest, made, mid', k, last', loss, after, rfl, hwalked, hleads', hrun⟩
        · exact .inl ⟨(j, answer) :: made, after, .invoked hleads hinvoke hwalked⟩
        · exact .inr ⟨t :: attempted, u, rest, (j, answer) :: made, mid', k, last', loss, after,
            rfl, .invoked hleads hinvoke hwalked, hleads', hrun⟩
      · exact .inr ⟨[], t, attempts, [], log, j, mid, loss, last, rfl, .nil, hleads, hinvoke⟩

end

/-- How the handing on of an event may go, and the log that it leaves. -/
inductive Delegated (invoke : Invoker) (i : Invocation) (grid : Grid) (log : List Entry) :
    Outcome PolicyError Document × List Entry → Prop
  /-- Every trial is made, and no invocation fails. -/
  | succeeded {start : ObjectKind} {mid after : List Entry} {made : List Answered}
      (hstart : objectKind (eventPath i) grid log = (.done start, mid))
      (hwalked : Walked i start grid invoke mid (trials i) made after)
      (hnone : ∀ m ∈ made, m.failure? = none) : Delegated invoke i grid log (.done .null, after)
  /-- Every trial is made, and each invocation that failed is reported. -/
  | failed {start : ObjectKind} {mid after : List Entry} {made : List Answered}
      (hstart : objectKind (eventPath i) grid log = (.done start, mid))
      (hwalked : Walked i start grid invoke mid (trials i) made after)
      (hsome : ∃ m ∈ made, m.failure? ≠ none) :
      Delegated invoke i grid log
        (.failed (.aggregated (made.filterMap Answered.failure?)), after)
  /-- An invocation in its turn gives no answer at all, and so the event has none. -/
  | lost {start : ObjectKind} {mid mid' last after : List Entry} {attempted rest : List Trial}
      {t : Trial} {made : List Answered} {j : Invocation} {loss : Loss}
      (hstart : objectKind (eventPath i) grid log = (.done start, mid))
      (hsome : trials i = attempted ++ t :: rest)
      (hwalked : Walked i start grid invoke mid attempted made mid')
      (hleads : Leads i start grid t mid' j last)
      (hrun : invoke j.policy j.parameters j.configuration grid last =
        (Outcome.ofLoss loss, after)) :
      Delegated invoke i grid log (Outcome.ofLoss loss, after)

section

variable {invoke : Invoker} {i : Invocation} {grid : Grid}

theorem body_of_no_entries (hentries : chainEntries i.configuration = []) (log : List Entry) :
    body invoke i grid log =
      (.failed (.invalidInput i.policy "policies_to_invoke is empty for event delegate"), log) := by
  unfold body
  rw [hentries]
  rfl

/-- With entries and a path the kind of the path is asked for, and the entries that concern the
event are tried. -/
theorem body_eq_tryDelegates (hentries : chainEntries i.configuration ≠ [])
    (hpath : eventPath i ≠ "") :
    body invoke i = (do
      let start ← (objectKind (eventPath i)).mapError .service
      let failures ← tryDelegates invoke i start (eventPath i) (delegates i)
      Run.ofExcept (PolicyError.ofFailures failures)
      return .null) := by
  unfold body
  rw [eventPath] at hpath
  simp only [List.isEmpty_iff, hentries, hpath, beq_iff_eq, ↓reduceIte]
  congr 1
  funext start
  rw [tryEntries_eq_tryDelegates]
  rfl

theorem body_eq (hentries : chainEntries i.configuration ≠ []) (hpath : eventPath i ≠ "")
    (hcompiles : ∀ d ∈ delegates i, d.Compiles) :
    body invoke i = (do
      let start ← (objectKind (eventPath i)).mapError .service
      let failures ← tryAll invoke i start (trials i)
      Run.ofExcept (PolicyError.ofFailures failures)
      return .null) := by
  rw [body_eq_tryDelegates hentries hpath]
  simp only [tryDelegates_eq hcompiles, trials]

theorem body_delegated (hgrid : grid.Readable) (hentries : chainEntries i.configuration ≠ [])
    (hpath : eventPath i ≠ "") (hcompiles : ∀ d ∈ delegates i, d.Compiles) (log : List Entry) :
    Delegated invoke i grid log (body invoke i grid log) := by
  obtain ⟨start, mid, hstart⟩ := objectKind_completes hgrid (eventPath i) log
  rw [body_eq hentries hpath hcompiles, Run.bind_of_done (Run.mapError_apply_eq_done.mpr hstart)]
  rcases walked_or_lost hgrid invoke i start (trials i) mid with ⟨made, after, hwalked⟩ |
    ⟨attempted, t, rest, made, mid', j, last, loss, after, hsome, hwalked, hleads, hrun⟩
  · rw [Run.bind_of_done (tryAll_of_walked hwalked)]
    rcases Answered.reported made grid after with ⟨hnone, hreport⟩ | ⟨hsome, hreport⟩
    · rw [hreport]
      exact .succeeded hstart hwalked hnone
    · rw [hreport]
      exact .failed hstart hwalked hsome
  · rw [hsome, Run.bind_of_loss (tryAll_of_loss rest hwalked hleads hrun)]
    exact .lost hstart hsome hwalked hleads hrun

/-- An event is handed on to the entries that concern it, from its path upwards, once for
each collection with a triple that an entry looks for, whatever comes of the invocations.
Without entries it is refused. -/
theorem event_handed_on (invoke : Invoker) (hgrid : grid.Readable) (hpath : eventPath i ≠ "")
    (hcompiles : ∀ d ∈ delegates i, d.Compiles) (log : List Entry) :
    LogicalPath.Upward (LogicalPath.trimmed (eventPath i).toList)
        (LogicalPath.ancestors (eventPath i)) ∧
      (∀ entity avu, Forwards i.parameters entity avu (forwarded i.parameters entity avu)) ∧
      (chainEntries i.configuration ≠ [] →
        Delegated invoke i grid log (body invoke i grid log)) ∧
      (chainEntries i.configuration = [] → body invoke i grid log =
        (.failed (.invalidInput i.policy "policies_to_invoke is empty for event delegate"), log)) :=
  ⟨LogicalPath.upward_ancestors _, forwards_forwarded i.parameters,
    fun hentries => body_delegated hgrid hentries hpath hcompiles log,
    fun hentries => body_of_no_entries hentries log⟩

end

/-- An object in a collection that is marked for the archive. -/
def marked : Grid where
  now := 0
  answer _ call :=
    match call with
    | .query text _ _ => .ok (if text = objectQuery "/zone/a" "f" then [["1"]] else [])
    | .metadataOf _ path =>
      .ok (if path = "/zone/a" then [⟨"owner", "alice", ""⟩, ⟨"archive", "yes", ""⟩] else [])
    | _ => .error (.unknownResource "")

theorem readable_marked : marked.Readable where
  rows _ _ _ _ := ⟨_, rfl⟩
  avus _ _ := ⟨_, rfl⟩

/-- An event about the object, for a policy that is interested in such collections. -/
def archiving : Invocation where
  policy := name
  parameters := .ofFields [(Key.logicalPath, .text "/zone/a/f")]
  configuration := .ofFields
    [(Key.policiesToInvoke, .array
      [.ofFields
        [("policy", .text "keep"),
         (Key.conditional, .ofFields
           [(Key.metadata, .ofFields [("attribute", .text "archive")])])]])]

/-- The policy is missing. The one invocation that there is fails, and is reported. -/
theorem event_handed_on_missing :
    let unknown : Invoker := fun policy _ _ => Run.fail (.unknownPolicy policy)
    marked.Readable ∧ eventPath archiving ≠ "" ∧ (∀ d ∈ delegates archiving, d.Compiles) ∧
      chainEntries archiving.configuration ≠ [] ∧
      ∃ after, Delegated unknown archiving marked []
        (.failed (.aggregated [PolicyError.failureOf "keep" (.unknownPolicy "keep")]), after) := by
  intro unknown
  have hpath : eventPath archiving ≠ "" := by decide
  have hcompiles : ∀ d ∈ delegates archiving, d.Compiles := by decide +kernel
  have hentries : chainEntries archiving.configuration ≠ [] := List.cons_ne_nil _ _
  refine ⟨readable_marked, hpath, hcompiles, hentries, ?_⟩
  have hdelegated := (event_handed_on unknown readable_marked hpath hcompiles []).2.2.1 hentries
  have herror : (body unknown archiving marked []).1.error? =
      some (.aggregated [PolicyError.failureOf "keep" (.unknownPolicy "keep")]) := by
    decide +kernel
  rcases hbody : body unknown archiving marked [] with ⟨o, after⟩
  rw [hbody] at hdelegated herror
  obtain rfl := Outcome.error?_eq_some.mp herror
  exact ⟨after, hdelegated⟩

/-- Without entries there is nothing that could fail, and yet the event is refused. -/
theorem event_without_entries_refused :
    let i : Invocation :=
      ⟨name, archiving.parameters, .ofFields [(Key.policiesToInvoke, .array [])]⟩
    eventPath i ≠ "" ∧ marked.Readable ∧ (∀ d ∈ delegates i, d.Compiles) ∧ trials i = [] ∧
      ∀ invoke log, body invoke i marked log =
        (.failed (.invalidInput name "policies_to_invoke is empty for event delegate"), log) :=
  ⟨by decide, readable_marked, by decide, rfl, fun _ _ => rfl⟩

end Delegation

end GridPolicy
