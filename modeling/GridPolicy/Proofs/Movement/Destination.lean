import GridPolicy.Proofs.Movement.Order
import GridPolicy.Proofs.Run.Answers
import GridPolicy.Proofs.Run.Errors

/-!
# Where replication and movement go

Both find the same destinations for the same parameters. Replication tries a copy on each
of them, whichever of the copies fail, and movement goes to the first: its step that copies
is given that one, and finds no other.
-/
namespace GridPolicy

/-- The copies on these destinations as they stand in the log. -/
def copyEntries (captured : Capture) (destinations : List String) : List Entry :=
  destinations.map fun destination => .call (copyCall captured destination)

/-- The destinations in a list of the map: the texts in it that are not empty. -/
def listedNames (items : List Document) : List String :=
  (items.filterMap Document.text?).filter fun name => name != ""

/-- Where nothing else names a destination, a list in the map does. -/
theorem destinations?_of_listed {captured : Capture} {configuration : Document}
    {items : List Document} (hplace : captured.destinationResource = "")
    (hfield : configuration.filledField? Key.destinationResource = none)
    (hlist : (configuration.get? destinationMapKey).bind (·.get? captured.sourceResource) =
      some (.array items)) :
    destinations? captured configuration = some (listedNames items) := by
  obtain ⟨map, hmap, hitems⟩ := Option.bind_eq_some_iff.mp hlist
  simp [destinations?, mappedDestinations?, listedNames, hplace, hfield, hmap, hitems]

/-- The error is no refusal of another policy's input. -/
def PolicyError.OwnRefusal (policy : String) (e : PolicyError) : Prop :=
  ∀ other detail, e = .invalidInput other detail → other = policy

theorem Invocation.refuse_failsIn {α : Type} (i : Invocation) (detail : String) :
    (i.refuse detail : Run PolicyError α).FailsIn (PolicyError.OwnRefusal i.policy) := by
  refine .fail ?_
  rintro other _ heq
  rw [PolicyError.invalidInput.injEq] at heq
  exact heq.1.symm

namespace Replication

/-- How the copies on these destinations end: well if none is refused, with its own error if
there was but one, and otherwise with those that are refused, in order. -/
inductive Concludes (grid : Grid) (log : List Entry) (captured : Capture)
    (destinations : List String) : Outcome PolicyError Document → Prop
  | copied (hnone : grid.refusals (copyCall captured) log destinations = []) :
      Concludes grid log captured destinations (.done .null)
  | single {destination : String} {e : ServiceError} (honly : destinations = [destination])
      (hrefused : grid.refusals (copyCall captured) log destinations = [(destination, e)]) :
      Concludes grid log captured destinations (.failed (.service e))
  | several (hmany : 1 < destinations.length)
      (hsome : grid.refusals (copyCall captured) log destinations ≠ []) :
      Concludes grid log captured destinations (.failed (.aggregated
        ((grid.refusals (copyCall captured) log destinations).map fun refused =>
          failureOf name captured refused.1 refused.2)))

variable {invoke : Invoker} {i : Invocation} {grid : Grid} {captured : Capture}
  {destinations : List String}

theorem copyTo_apply (captured : Capture) (destination : String) (grid : Grid)
    (log : List Entry) :
    copyTo captured destination grid log =
      (Outcome.ofExcept (grid.answer log (copyCall captured destination)),
        log ++ [.call (copyCall captured destination)]) :=
  Run.ask_apply grid log _

/-- Every copy is tried, whatever became of those before it. -/
theorem copyToAll_apply (policy : String) (captured : Capture) (destinations : List String)
    (grid : Grid) (log : List Entry) :
    copyToAll policy captured destinations grid log =
      (.done ((grid.refusals (copyCall captured) log destinations).map fun refused =>
          failureOf policy captured refused.1 refused.2),
        log ++ copyEntries captured destinations) := by
  refine Run.tryAll_apply (copyToAll policy captured) (copyCall captured)
    (failureOf policy captured) rfl ?_ destinations grid log
  intro destination rest
  refine bind_congr fun result => bind_congr fun _ => ?_
  cases result <;> rfl

/-- With a path and destinations a copy is tried on each of them. -/
theorem body_of_destinations (invoke : Invoker) (i : Invocation) (hname : i.policy = name)
    (hcaptured : Capture.ofParameters i.parameters .root = captured)
    (hpath : captured.logicalPath ≠ "")
    (hdestinations : destinations? captured i.configuration = some destinations) (grid : Grid)
    (log : List Entry) :
    ∃ o, body invoke i grid log = (o, log ++ copyEntries captured destinations) ∧
      Concludes grid log captured destinations o := by
  unfold body
  dsimp only
  rw [hcaptured, if_neg (by simpa using hpath), hdestinations]
  match destinations with
  | [] =>
    refine ⟨.done .null, ?_, .copied rfl⟩
    rw [copyEntries, List.map_nil, List.append_nil]
    rfl
  | [destination] =>
    dsimp only
    rw [Run.bind_apply, Run.mapError_apply, copyTo_apply]
    cases hanswer : grid.answer log (copyCall captured destination) with
    | ok _ => exact ⟨.done .null, rfl, .copied (by simp [Grid.refusals, hanswer])⟩
    | error e => exact ⟨.failed (.service e), rfl, .single rfl (by simp [Grid.refusals, hanswer])⟩
  | first :: second :: rest =>
    have hall := copyToAll_apply i.policy captured (first :: second :: rest) grid log
    dsimp only
    rw [Run.bind_of_done hall]
    cases hrefused : grid.refusals (copyCall captured) log (first :: second :: rest) with
    | nil => exact ⟨.done .null, rfl, .copied hrefused⟩
    | cons refused others =>
      refine ⟨_, rfl, ?_⟩
      have hconcludes : Concludes grid log captured (first :: second :: rest) _ :=
        .several (by simp) (by simp [hrefused])
      rw [hrefused, ← hname] at hconcludes
      exact hconcludes

theorem body_of_unplaced (hpath : captured.logicalPath ≠ "")
    (hcaptured : Capture.ofParameters i.parameters .root = captured)
    (hdestinations : destinations? captured i.configuration = none) (log : List Entry) :
    body invoke i grid log = (.failed (.invalidInput i.policy noDestinationDetail), log) := by
  unfold body
  dsimp only
  rw [hcaptured, if_neg (by simpa using hpath), hdestinations]
  rfl

/-- Replication by name, to destinations. -/
theorem invoke_of_destinations {parameters configuration : Document} (depth : Nat)
    (hcaptured : Capture.ofParameters parameters .root = captured)
    (hpath : captured.logicalPath ≠ "")
    (hdestinations : destinations? captured configuration = some destinations) (grid : Grid)
    (log : List Entry) :
    ∃ o, Registry.builtin.invoke (depth + 1) name parameters configuration grid log =
        (o, log ++ copyEntries captured destinations) ∧
      Concludes grid log captured destinations o := by
  rw [Registry.invoke_builtin mem_builtin]
  refine body_of_destinations _ _ rfl hcaptured hpath ?_ grid log
  rwa [destinations?_effectiveConfiguration]

theorem invoke_of_unplaced {parameters configuration : Document} (depth : Nat)
    (hpath : captured.logicalPath ≠ "")
    (hcaptured : Capture.ofParameters parameters .root = captured)
    (hdestinations : destinations? captured configuration = none) (grid : Grid)
    (log : List Entry) :
    Registry.builtin.invoke (depth + 1) name parameters configuration grid log =
      (.failed (.invalidInput name noDestinationDetail), log) := by
  rw [Registry.invoke_builtin mem_builtin]
  refine body_of_unplaced hpath hcaptured ?_ log
  rwa [destinations?_effectiveConfiguration]

theorem Concludes.eq_done_of_nil {log : List Entry} {o : Outcome PolicyError Document}
    (h : Concludes grid log captured [] o) : o = .done .null := by
  cases h with
  | copied => rfl
  | single honly => cases honly
  | several hmany => cases hmany

theorem Concludes.ne_invalidInput {log : List Entry} {o : Outcome PolicyError Document}
    (h : Concludes grid log captured destinations o) (policy detail : String) :
    o ≠ .failed (.invalidInput policy detail) := by
  cases h <;> nofun

theorem body_failsIn : (body invoke i).FailsIn (PolicyError.OwnRefusal i.policy) := by
  unfold body
  dsimp only
  split
  · exact i.refuse_failsIn _
  split
  · exact i.refuse_failsIn _
  · exact .pure _
  · exact .bind (.mapError_of_forall _ (by nofun)) fun _ => .pure _
  · refine .bind ?_ fun failures => ?_
    · intro grid log e after hrun
      rw [copyToAll_apply] at hrun
      cases hrun
    · refine .bind (.ofExcept fun e he => ?_) fun _ => .pure _
      cases failures <;> cases he
      nofun

end Replication

theorem ReplicaVerification.body_failsIn {invoke : Invoker} {i : Invocation} :
    (body invoke i).FailsIn (PolicyError.OwnRefusal i.policy) := by
  unfold body
  dsimp only
  split
  · exact i.refuse_failsIn _
  split
  · exact i.refuse_failsIn _
  refine .bind (.mapError_of_forall _ (by nofun)) fun avus => ?_
  refine .bind (.mapError_of_forall _ (by nofun)) fun mode => ?_
  refine .bind (.mapError_of_forall _ (by nofun)) fun agrees => ?_
  cases agrees with
  | true => exact .pure _
  | false => exact .fail (by nofun)

theorem ReplicaRetention.body_failsIn {invoke : Invoker} {i : Invocation} :
    (body invoke i).FailsIn (PolicyError.OwnRefusal i.policy) := by
  have hcapture : (capture i).FailsIn (PolicyError.OwnRefusal i.policy) := by
    unfold capture
    split
    · split
      · exact .pure _
      · exact i.refuse_failsIn _
    · exact .pure _
  have hwhitelist : (whitelist i).FailsIn (PolicyError.OwnRefusal i.policy) := by
    unfold whitelist
    split
    · exact .pure _
    · exact .pure _
    · exact .pure _
    · exact i.refuse_failsIn _
  have hsource (source : String) (listed : Option (List String)) :
      (checkSource i source listed).FailsIn (PolicyError.OwnRefusal i.policy) := by
    unfold checkSource
    split
    · exact .pure _
    split
    · exact i.refuse_failsIn _
    split
    · exact i.refuse_failsIn _
    · exact .pure _
  have hmode (source : String) :
      (mode i source).FailsIn (PolicyError.OwnRefusal i.policy) := by
    unfold mode
    split
    · exact .mapError_of_forall _ (by nofun)
    · exact .pure _
  refine .bind hcapture fun captured => ?_
  refine .bind hwhitelist fun listed => ?_
  refine .bind (hsource _ _) fun _ => ?_
  refine .bind (hmode _) fun mode => ?_
  exact .bind (.mapError_of_forall _ (by nofun)) fun _ => .pure _

namespace Movement

variable {grid : Grid} {log : List Entry} {parameters configuration : Document}
  {captured : Capture} {destination : String} {others : List String}

/-- The invocation of replication inside a movement makes one copy, on the destination that
it is given. -/
theorem step_copies (invoke : Invoker) (hpath : captured.logicalPath ≠ "")
    (hnamed : destination ≠ "") (grid : Grid) (log : List Entry) :
    (Replication.body invoke (stepInvocation captured configuration destination
      Replication.name) grid log).2 = log ++ copyEntries captured [destination] := by
  have hread := ofParameters_stepParameters captured destination
  have hsingle : destinations? { captured with destinationResource := destination }
      (Policy.effectiveConfiguration configuration) = some [destination] := by
    simp [destinations?, hnamed]
  obtain ⟨o, hbody, -⟩ := Replication.body_of_destinations invoke
    (stepInvocation captured configuration destination Replication.name) rfl hread hpath hsingle
    grid log
  rw [hbody]
  rfl

/-- A movement to a resolved destination begins with that copy and makes no other. -/
theorem invoke_copies (depth : Nat) (hcaptured : Capture.ofParameters parameters .root = captured)
    (hpath : captured.logicalPath ≠ "")
    (hdestinations : destinations? captured configuration = some (destination :: others))
    (grid : Grid) (log : List Entry) :
    ∃ rest, (Registry.builtin.invoke (depth + 2) name parameters configuration grid log).2 =
      log ++ copyEntries captured [destination] ++ rest ∧ copies rest = [] := by
  have hnamed := ne_empty_of_mem_destinations? hdestinations (List.mem_cons_self ..)
  have hread := ofParameters_stepParameters captured destination
  let invoke := Registry.builtin.invoke depth
  let step := stepInvocation captured configuration destination
  have hcopies : (Replication.body invoke (step Replication.name)).Yields grid log
      fun _ added => added = copyEntries captured [destination] :=
    ⟨_, step_copies invoke hpath hnamed grid log, rfl⟩
  have hyields : (Registry.builtin.invoke (depth + 2) name parameters configuration).Yields grid
      log fun _ added => ∃ rest, added = copyEntries captured [destination] ++ rest ∧
        copies rest = [] := by
    rw [invoke_eq_steps depth hcaptured hdestinations]
    refine hcopies.bind ?_ ?_
    · rintro _ _ added rfl -
      exact ⟨[], by simp, rfl⟩
    rintro _ _ rfl -
    refine (ReplicaVerification.body_yields invoke (step ReplicaVerification.name) grid _
      hread).bind ?_ ?_
    · rintro _ _ looked ⟨hlooked, -⟩ -
      exact ⟨looked, rfl, copies_eq_nil_of_looks hlooked⟩
    rintro _ looked ⟨hlooked, -⟩ -
    have hnone {removed : List Entry} {before : List Entry} (h : removed = [] ∨ ∃ request,
        ReplicaRetention.Accepted (step ReplicaRetention.name).parameters
          (step ReplicaRetention.name).configuration request ∧
        Retention.Trace grid before request removed) : copies (looked ++ removed) = [] := by
      rw [copies_append, copies_eq_nil_of_looks hlooked, List.nil_append]
      rcases h with rfl | ⟨request, -, htrace⟩
      · rfl
      · exact htrace.copies_eq_nil
    refine (ReplicaRetention.body_yields invoke (step ReplicaRetention.name) grid _).bind ?_ ?_
    · rintro _ _ removed hremoved -
      exact ⟨looked ++ removed, rfl, hnone hremoved⟩
    · rintro _ removed hremoved -
      exact Run.Yields.pure ⟨looked ++ removed, by simp, hnone hremoved⟩
  obtain ⟨added, hlog, rest, rfl, hrest⟩ := hyields
  exact ⟨rest, by rw [hlog, List.append_assoc], hrest⟩

theorem invoke_failsIn (depth : Nat) (hcaptured : Capture.ofParameters parameters .root = captured)
    (hdestinations : destinations? captured configuration = some (destination :: others)) :
    (Registry.builtin.invoke (depth + 2) name parameters configuration).FailsIn fun e =>
      e ≠ .invalidInput name noDestinationDetail := by
  have hother (policy : String) (hne : name ≠ policy) (e : PolicyError)
      (hown : e.OwnRefusal policy) : e ≠ .invalidInput name noDestinationDetail :=
    fun heq => hne (hown name noDestinationDetail heq)
  rw [invoke_eq_steps depth hcaptured hdestinations]
  refine .bind (Replication.body_failsIn.mono (hother Replication.name (by decide)))
    fun _ => ?_
  refine .bind (ReplicaVerification.body_failsIn.mono (hother ReplicaVerification.name (by decide)))
    fun _ => ?_
  refine .bind (ReplicaRetention.body_failsIn.mono (hother ReplicaRetention.name (by decide)))
    fun _ => ?_
  exact .pure _

theorem invoke_of_unplaced (depth : Nat)
    (hcaptured : Capture.ofParameters parameters .root = captured)
    (hdestinations : destinations? captured configuration = none) (grid : Grid)
    (log : List Entry) :
    Registry.builtin.invoke (depth + 1) name parameters configuration grid log =
      (.failed (.invalidInput name noDestinationDetail), log) := by
  rw [Registry.invoke_builtin mem_builtin]
  unfold body
  simp only [destinations?_effectiveConfiguration]
  rw [hcaptured, hdestinations]
  rfl

theorem invoke_of_unmapped (depth : Nat)
    (hcaptured : Capture.ofParameters parameters .root = captured)
    (hdestinations : destinations? captured configuration = some []) (grid : Grid)
    (log : List Entry) :
    Registry.builtin.invoke (depth + 1) name parameters configuration grid log =
      (.done .null, log) := by
  rw [Registry.invoke_builtin mem_builtin]
  unfold body
  simp only [destinations?_effectiveConfiguration]
  rw [hcaptured, hdestinations]
  rfl

/-- What a movement does where replication tries its first copy on this destination: it hands
the destination to each of its steps, whatever policies stand for them, and of the steps that
are built in the one that copies makes that copy, and no other is made. -/
structure Follows (grid : Grid) (log : List Entry) (parameters configuration : Document)
    (moved : Outcome PolicyError Document × List Entry) (destination : String) : Prop where
  handed : ∀ invoke, body invoke ⟨name, parameters, Policy.effectiveConfiguration configuration⟩ =
    do
      runSteps invoke (stepParameters (Capture.ofParameters parameters .root) destination)
        (Policy.effectiveConfiguration configuration) steps
      return .null
  step : ∀ depth, (Registry.builtin.invoke (depth + 1) Replication.name
    (stepParameters (Capture.ofParameters parameters .root) destination)
    (Policy.effectiveConfiguration configuration) grid log).2 =
      log ++ copyEntries (Capture.ofParameters parameters .root) [destination]
  moves : ∃ rest, moved.2 =
    log ++ copyEntries (Capture.ofParameters parameters .root) [destination] ++ rest ∧
      copies rest = []

theorem follows (depth : Nat) (hpath : (Capture.ofParameters parameters .root).logicalPath ≠ "")
    (hdestinations : destinations? (Capture.ofParameters parameters .root) configuration =
      some (destination :: others)) (grid : Grid) (log : List Entry) :
    Follows grid log parameters configuration
      (Registry.builtin.invoke (depth + 2) name parameters configuration grid log)
      destination where
  handed := by
    intro invoke
    unfold body
    simp only [destinations?_effectiveConfiguration, hdestinations]
  step := by
    intro depth
    have hnamed := ne_empty_of_mem_destinations? hdestinations (List.mem_cons_self ..)
    rw [Registry.invoke_builtin Replication.mem_builtin, Policy.effectiveConfiguration_idem]
    exact step_copies _ hpath hnamed grid log
  moves := invoke_copies depth rfl hpath hdestinations grid log

/-- Replication and movement both refuse, or both do nothing, or both go to one place. -/
inductive Agreement (grid : Grid) (log : List Entry) (parameters configuration : Document) :
    Outcome PolicyError Document × List Entry → Outcome PolicyError Document × List Entry → Prop
  | unplaced : Agreement grid log parameters configuration
      (.failed (.invalidInput Replication.name noDestinationDetail), log)
      (.failed (.invalidInput name noDestinationDetail), log)
  | unmapped : Agreement grid log parameters configuration (.done .null, log) (.done .null, log)
  | placed {copied moved : Outcome PolicyError Document × List Entry} {destination : String}
      {others : List String}
      (hcopied : copied.1 ≠ .failed (.invalidInput Replication.name noDestinationDetail))
      (hmoved : moved.1 ≠ .failed (.invalidInput name noDestinationDetail))
      (hcopies : copied.2 = log ++
        copyEntries (Capture.ofParameters parameters .root) (destination :: others))
      (hfollows : Follows grid log parameters configuration moved destination) :
      Agreement grid log parameters configuration copied moved

theorem agreement (depth : Nat) (grid : Grid) (log : List Entry)
    (parameters configuration : Document)
    (hpath : (Capture.ofParameters parameters .root).logicalPath ≠ "") :
    Agreement grid log parameters configuration
      (Registry.builtin.invoke (depth + 1) Replication.name parameters configuration grid log)
      (Registry.builtin.invoke (depth + 2) name parameters configuration grid log) := by
  cases hdestinations : destinations? (Capture.ofParameters parameters .root) configuration with
  | none =>
    rw [invoke_of_unplaced (depth + 1) rfl hdestinations,
      Replication.invoke_of_unplaced depth hpath rfl hdestinations]
    exact .unplaced
  | some destinations =>
    obtain ⟨o, hcopied, hconcludes⟩ :=
      Replication.invoke_of_destinations depth rfl hpath hdestinations grid log
    rw [hcopied]
    cases destinations with
    | nil =>
      have hnothing : o = .done .null := hconcludes.eq_done_of_nil
      rw [invoke_of_unmapped (depth + 1) rfl hdestinations, hnothing, copyEntries, List.map_nil,
        List.append_nil]
      exact .unmapped
    | cons destination others =>
      refine .placed (hconcludes.ne_invalidInput _ _) ?_ rfl
        (follows depth hpath hdestinations grid log)
      intro hmoved
      exact invoke_failsIn depth rfl hdestinations grid log _ _ (Prod.ext hmoved rfl) rfl

/-- Where copies are tried the log is not what it was. -/
theorem ne_of_copies {log after rest : List Entry}
    (h : after = log ++ copyEntries captured (destination :: others) ++ rest) : after ≠ log := by
  intro heq
  rw [heq] at h
  simp [copyEntries] at h

/-- Of an object with a path: movement refuses for want of a destination if replication does,
and does nothing if replication does; otherwise it goes to the destination of the first copy
that replication tries. Replication tries a copy on each destination, those in a list of the
map in the list's order, and fails with those that are refused. -/
theorem destinations_agree (depth : Nat) (grid : Grid) (log : List Entry)
    (parameters configuration : Document)
    (hpath : (Capture.ofParameters parameters .root).logicalPath ≠ "") :
    let captured := Capture.ofParameters parameters .root
    let copied := Registry.builtin.invoke (depth + 1) Replication.name parameters configuration
      grid log
    let moved := Registry.builtin.invoke (depth + 2) name parameters configuration grid log
    (moved.1 = .failed (.invalidInput name noDestinationDetail) ↔
      copied.1 = .failed (.invalidInput Replication.name noDestinationDetail)) ∧
    (moved = (.done .null, log) ↔ copied = (.done .null, log)) ∧
    (copied.1 ≠ .failed (.invalidInput Replication.name noDestinationDetail) →
      copied ≠ (.done .null, log) →
      ∃ destination others, copied.2 = log ++ copyEntries captured (destination :: others) ∧
        Follows grid log parameters configuration moved destination) ∧
    (∀ destinations, destinations? captured configuration = some destinations →
      copied.2 = log ++ copyEntries captured destinations ∧
      Replication.Concludes grid log captured destinations copied.1) ∧
    ∀ items, captured.destinationResource = "" →
      configuration.filledField? Key.destinationResource = none →
      (configuration.get? destinationMapKey).bind (·.get? captured.sourceResource) =
        some (.array items) →
      destinations? captured configuration = some (listedNames items) := by
  intro captured copied moved
  have hplaced (destinations : List String)
      (h : destinations? captured configuration = some destinations) :
      copied.2 = log ++ copyEntries captured destinations ∧
        Replication.Concludes grid log captured destinations copied.1 := by
    obtain ⟨o, hcopied, hconcludes⟩ :=
      Replication.invoke_of_destinations depth rfl hpath h grid log
    unfold copied
    rw [hcopied]
    exact ⟨rfl, hconcludes⟩
  have hagreement : Agreement grid log parameters configuration copied moved :=
    agreement depth grid log parameters configuration hpath
  clear_value copied moved
  cases hagreement with
  | unplaced =>
    refine ⟨by simp, by simp, fun hrefused => absurd rfl hrefused, hplaced, ?_⟩
    exact fun items => destinations?_of_listed
  | unmapped =>
    refine ⟨by simp, by simp, fun _ hnothing => absurd rfl hnothing, hplaced, ?_⟩
    exact fun items => destinations?_of_listed
  | @placed _ _ destination others hcopied hmoved hcopies hfollows =>
    obtain ⟨rest, hrest, -⟩ := hfollows.moves
    have hcopiedLog : copied.2 ≠ log := ne_of_copies (hcopies.trans (List.append_nil _).symm)
    have hmovedLog : moved.2 ≠ log := ne_of_copies hrest
    refine ⟨iff_of_false hmoved hcopied, iff_of_false ?_ ?_, ?_, hplaced, ?_⟩
    · exact fun h => hmovedLog (congrArg Prod.snd h)
    · exact fun h => hcopiedLog (congrArg Prod.snd h)
    · exact fun _ _ => ⟨destination, others, hcopies, hfollows⟩
    · exact fun items => destinations?_of_listed

/-- An object on a resource that the map spreads. -/
def spread : Capture := ⟨"alice", "/zone/home/f", "alpha", ""⟩

/-- A map with a list that is not names throughout. -/
def spreading : Document :=
  .object [(destinationMapKey, .object [("alpha",
    .array [.text "beta", .null, .text "gamma", .text "", .text "delta"])])]

/-- A grid that makes copies on one resource and does nothing else. -/
def reluctant (resource : String) : Grid where
  now := 0
  answer
    | _, .replicate _ _ _ destination =>
      if destination = resource then .ok () else .error (.unknownResource destination)
    | _, _ => .error (.unknownResource resource)

/-- Three copies are tried though two are refused, both of which are reported; movement goes to
the first of the three. -/
theorem destinations_agree_spread :
    let parameters := stepParameters spread ""
    let copied := Registry.builtin.invoke 1 Replication.name parameters spreading
      (reluctant "gamma") []
    copied.2 = copyEntries spread ["beta", "gamma", "delta"] ∧
      copied.1 = .failed (.aggregated
        [Replication.failureOf Replication.name spread "beta" (.unknownResource "beta"),
          Replication.failureOf Replication.name spread "delta" (.unknownResource "delta")]) ∧
      Follows (reluctant "gamma") [] parameters spreading
        (Registry.builtin.invoke 2 name parameters spreading (reluctant "gamma") []) "beta" := by
  intro parameters copied
  have hcaptured : Capture.ofParameters parameters .root = spread :=
    ofParameters_stepParameters spread ""
  have hpath : (Capture.ofParameters parameters .root).logicalPath ≠ "" := by
    rw [hcaptured]
    decide
  obtain ⟨-, -, hgoes, hplaced, hlisted⟩ :=
    destinations_agree 0 (reluctant "gamma") [] parameters spreading hpath
  rw [hcaptured] at hplaced hlisted hgoes
  have hnames : listedNames [.text "beta", .null, .text "gamma", .text "", .text "delta"] =
      ["beta", "gamma", "delta"] := by decide
  have hdestinations := hlisted _ rfl rfl rfl
  rw [hnames] at hdestinations
  obtain ⟨hcopies, hconcludes⟩ := hplaced _ hdestinations
  have hrefusals : (reluctant "gamma").refusals (copyCall spread) [] ["beta", "gamma", "delta"] =
      [("beta", .unknownResource "beta"), ("delta", .unknownResource "delta")] := by decide
  have hfailed {o : Outcome PolicyError Document}
      (h : Replication.Concludes (reluctant "gamma") [] spread ["beta", "gamma", "delta"] o) :
      o = .failed (.aggregated
        [Replication.failureOf Replication.name spread "beta" (.unknownResource "beta"),
          Replication.failureOf Replication.name spread "delta" (.unknownResource "delta")]) := by
    cases h with
    | copied hnone => simp [hrefusals] at hnone
    | single honly => simp at honly
    | several => simp [hrefusals]
  have hcopied := hfailed hconcludes
  refine ⟨hcopies, hcopied, ?_⟩
  obtain ⟨destination, others, hfirst, hfollows⟩ := hgoes
    (hconcludes.ne_invalidInput _ _) (fun heq => nomatch hcopied.symm.trans (congrArg Prod.fst heq))
  rw [hcopies] at hfirst
  simp only [copyEntries, List.nil_append, List.map_cons, List.cons.injEq, Entry.call.injEq,
    Call.replicate.injEq, true_and] at hfirst
  rw [hfirst.1]
  exact hfollows

end Movement

end GridPolicy
