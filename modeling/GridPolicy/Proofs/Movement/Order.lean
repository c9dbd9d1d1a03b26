import GridPolicy.Proofs.Movement.Removal
import GridPolicy.Proofs.Run.Sequence

/-!
# The order of a movement

Nothing is removed before a good copy is proven. Whatever stands before a removal
in the log of a movement begins with its one copy, which was made, and goes on with
the calls by which verification found that the copy agrees. Each way in which the
copy or its verification fails ends the movement with the error of that step, and
nothing has been removed by then.
-/
namespace GridPolicy

/-- What stands before an entry that is not in the first part of a log has all of that
part in it. -/
theorem exists_between {α : Type} {first rest before after : List α} {a : α}
    (h : first ++ rest = before ++ a :: after) (ha : a ∉ first) :
    ∃ between, before = first ++ between ∧ rest = between ++ a :: after := by
  rcases List.append_eq_append_iff.mp h with hafter | ⟨more, hfirst, hmore⟩
  · exact hafter
  · cases more with
    | nil =>
      refine ⟨[], ?_, ?_⟩
      · rw [hfirst, List.append_nil, List.append_nil]
      · exact hmore.symm
    | cons b more =>
      rw [List.cons_append, List.cons.injEq] at hmore
      refine absurd ?_ ha
      rw [hfirst, hmore.1]
      exact List.mem_append_right _ (List.mem_cons_self ..)

/-- Retention makes no copy. -/
theorem Retention.Trace.copies_eq_nil {grid : Grid} {log added : List Entry}
    {request : RetentionRequest} (h : Trace grid log request added) : copies added = [] := by
  cases h with
  | refused => rfl
  | unfound => rfl
  | unanswered => rfl
  | carried hcarried =>
    generalize planned grid log request = decided at hcarried
    cases hcarried with
    | unlink => rfl
    | trim => simp [copies, Entry.copy?]
    | retain => rfl

namespace Replication

/-- How one copy fails, and the log that it leaves. -/
inductive Fails (grid : Grid) (log : List Entry) (captured : Capture) (destination : String) :
    PolicyError → List Entry → Prop
  | unnamed (hpath : captured.logicalPath = "") :
      Fails grid log captured destination (.invalidInput name "logical_path is empty") log
  | refused {e : ServiceError} (hpath : captured.logicalPath ≠ "")
      (hanswer : grid.answer log (copyCall captured destination) = .error e) :
      Fails grid log captured destination (.service e)
        (log ++ [.call (copyCall captured destination)])

variable {invoke : Invoker} {i : Invocation} {grid : Grid} {log : List Entry} {captured : Capture}
  {destination : String}

theorem body_eq_ask (hcaptured : Capture.ofParameters i.parameters .root = captured)
    (hdestination : destinations? captured i.configuration = some [destination])
    (hpath : captured.logicalPath ≠ "") :
    body invoke i = do
      (copyTo captured destination).mapError .service
      return .null := by
  unfold body
  dsimp only
  rw [hcaptured, hdestination, if_neg (by simpa using hpath)]

theorem body_of_copied (hcaptured : Capture.ofParameters i.parameters .root = captured)
    (hdestination : destinations? captured i.configuration = some [destination])
    (hpath : captured.logicalPath ≠ "")
    (hanswer : grid.answer log (copyCall captured destination) = .ok ()) :
    body invoke i grid log = (.done .null, log ++ [.call (copyCall captured destination)]) := by
  rw [body_eq_ask hcaptured hdestination hpath, Run.bind_apply, Run.mapError_apply]
  simp only [copyTo, Run.ask, hanswer, Outcome.mapError, Run.pure_apply]

theorem body_of_fails {e : PolicyError} {after : List Entry} (hname : i.policy = name)
    (hcaptured : Capture.ofParameters i.parameters .root = captured)
    (hdestination : destinations? captured i.configuration = some [destination])
    (h : Fails grid log captured destination e after) :
    body invoke i grid log = (.failed e, after) := by
  cases h with
  | unnamed hpath =>
    unfold body
    dsimp only
    rw [hcaptured, if_pos (by simp [hpath]), ← hname]
    rfl
  | refused hpath hanswer =>
    rw [body_eq_ask hcaptured hdestination hpath, Run.bind_apply, Run.mapError_apply]
    simp only [copyTo, Run.ask, hanswer, Outcome.mapError]

end Replication

namespace Verification

variable {grid : Grid} {log after : List Entry} {path source destination resource : String}

/-- The leaves of a resource are known, and the catalog finds no replica of the object on
any of them. -/
def Missing (grid : Grid) (log : List Entry) (path resource : String) (after : List Entry) :
    Prop :=
  ∃ leaves mid, leafBundle resource grid log = (.done leaves, mid) ∧
    queryRows (replicaQuery (LogicalPath.split path).1 (LogicalPath.split path).2 leaves) 1
      .general grid mid = (.done [], after)

/-- One of the replicas that are compared is missing. -/
inductive Lacks (grid : Grid) (log : List Entry) (path source destination : String) :
    String → List Entry → Prop
  | source {after : List Entry} (hmissing : Missing grid log path source after) :
      Lacks grid log path source destination source after
  | destination {attributes : ReplicaAttributes} {mid after : List Entry}
      (hfound : replicaAttributes path source grid log = (.done attributes, mid))
      (hmissing : Missing grid mid path destination after) :
      Lacks grid log path source destination destination after

theorem replicaAttributes_of_missing (h : Missing grid log path resource after) :
    replicaAttributes path resource grid log =
      (.failed (.replicaDoesNotExist path resource), after) := by
  obtain ⟨leaves, mid, hleaves, hrows⟩ := h
  unfold replicaAttributes
  dsimp only
  rw [Run.bind_of_done (Run.mapError_apply_eq_done.mpr hleaves),
    Run.bind_of_done (Run.mapError_apply_eq_done.mpr hrows)]
  rfl

theorem verify_of_lacks (mode : VerificationMode) (hpath : path ≠ "") (hsource : source ≠ "")
    (hdestination : destination ≠ "")
    (h : Lacks grid log path source destination resource after) :
    verify mode path source destination grid log =
      (.failed (.replicaDoesNotExist path resource), after) := by
  rw [verify_eq hpath hsource hdestination]
  cases h with
  | source hmissing =>
    exact Run.bind_of_stop (replicaAttributes_of_missing hmissing) rfl
  | destination hfound hmissing =>
    rw [Run.bind_of_done hfound]
    exact Run.bind_of_stop (replicaAttributes_of_missing hmissing) rfl

end Verification

namespace ReplicaVerification

/-- The attribute that says how a resource verifies. -/
def marker (configuration : Document) : String :=
  (configuration.filledField? "attribute").getD defaultModeAttribute

/-- The last part of verification, where the mode is known. -/
def verdict (mode : VerificationMode) (path source destination : String) :
    Run PolicyError Document := do
  let agrees ← (Verification.verify mode path source destination).mapError .verification
  if agrees then return .null
  else Run.fail (.verificationFailed path source destination mode)

/-- How the verification of a copy fails, and the log that it leaves. Only what comes after
the lookup of the mode depends on the mode. -/
inductive Fails (grid : Grid) (log : List Entry) (path source destination marker : String) :
    PolicyError → List Entry → Prop
  | unsourced (hsource : source = "") :
      Fails grid log path source destination marker
        (.invalidInput name "source_resource is not specified") log
  | unmarked {e : ServiceError} (hsource : source ≠ "")
      (hanswer : grid.answer log (.metadataOf .resource destination) = .error e) :
      Fails grid log path source destination marker (.service e)
        (log ++ [.call (.metadataOf .resource destination)])
  | unknownMode {avus : List Avu} {e : VerificationError} (hsource : source ≠ "")
      (hanswer : grid.answer log (.metadataOf .resource destination) = .ok avus)
      (hunknown : VerificationMode.parse (modeName avus marker) = .error e) :
      Fails grid log path source destination marker (.verification e)
        (log ++ [.call (.metadataOf .resource destination)])
  | missing {avus : List Avu} {mode : VerificationMode} {resource : String}
      {after : List Entry} (hsource : source ≠ "") (hpath : path ≠ "")
      (hanswer : grid.answer log (.metadataOf .resource destination) = .ok avus)
      (hmode : VerificationMode.parse (modeName avus marker) = .ok mode)
      (hlacks : Verification.Lacks grid (log ++ [.call (.metadataOf .resource destination)])
        path source destination resource after) :
      Fails grid log path source destination marker
        (.verification (.replicaDoesNotExist path resource)) after
  | unverified {avus : List Avu} {mode : VerificationMode} {e : VerificationError}
      {after : List Entry} (hsource : source ≠ "")
      (hanswer : grid.answer log (.metadataOf .resource destination) = .ok avus)
      (hmode : VerificationMode.parse (modeName avus marker) = .ok mode)
      (hverify : Verification.verify mode path source destination grid
        (log ++ [.call (.metadataOf .resource destination)]) = (.failed e, after)) :
      Fails grid log path source destination marker (.verification e) after
  | disagreed {avus : List Avu} {mode : VerificationMode} {after : List Entry}
      (hsource : source ≠ "")
      (hanswer : grid.answer log (.metadataOf .resource destination) = .ok avus)
      (hmode : VerificationMode.parse (modeName avus marker) = .ok mode)
      (hverify : Verification.verify mode path source destination grid
        (log ++ [.call (.metadataOf .resource destination)]) = (.done false, after)) :
      Fails grid log path source destination marker
        (.verificationFailed path source destination mode) after

section

variable {invoke : Invoker} {i : Invocation} {grid : Grid} {log after : List Entry}
  {captured : Capture} {source destination : String}

/-- With a source and a destination the body comes to the lookup of the mode. -/
theorem body_eq_lookup (hcaptured : Capture.ofParameters i.parameters .root = captured)
    (hnamed : (i.configuration.filledField? Key.sourceResource).getD captured.sourceResource =
      source)
    (hplace : captured.destinationResource = destination)
    (hsource : source ≠ "") (hdestination : destination ≠ "") :
    body invoke i = (do
      let avus ← (Run.ask (.metadataOf .resource destination)).mapError .service
      let word := modeName avus (marker i.configuration)
      let mode ← (Run.ofExcept (VerificationMode.parse word)).mapError .verification
      verdict mode captured.logicalPath source destination) := by
  unfold body marker verdict
  dsimp only
  rw [hcaptured, hnamed, hplace, if_neg (by simpa using hsource),
    if_neg (by simpa using hdestination)]

/-- Where the mode is known, the comparison decides. -/
theorem body_of_mode {avus : List Avu} {mode : VerificationMode}
    (hcaptured : Capture.ofParameters i.parameters .root = captured)
    (hnamed : (i.configuration.filledField? Key.sourceResource).getD captured.sourceResource =
      source)
    (hplace : captured.destinationResource = destination)
    (hsource : source ≠ "") (hdestination : destination ≠ "")
    (hanswer : grid.answer log (.metadataOf .resource destination) = .ok avus)
    (hmode : VerificationMode.parse (modeName avus (marker i.configuration)) = .ok mode) :
    body invoke i grid log = verdict mode captured.logicalPath source destination grid
      (log ++ [.call (.metadataOf .resource destination)]) := by
  have hlookup : ((Run.ask (.metadataOf .resource destination)).mapError PolicyError.service) grid
      log = (.done avus, log ++ [.call (.metadataOf .resource destination)]) := by
    rw [Run.mapError_apply_eq_done]
    simp only [Run.ask, hanswer]
  rw [body_eq_lookup hcaptured hnamed hplace hsource hdestination, Run.bind_of_done hlookup]
  simp only [hmode]
  have hmode : ((Run.ofExcept (.ok mode)).mapError PolicyError.verification) grid
      (log ++ [.call (.metadataOf .resource destination)]) = (.done mode, _) := rfl
  exact Run.bind_of_done hmode

theorem body_of_fails {e : PolicyError} (hname : i.policy = name)
    (hcaptured : Capture.ofParameters i.parameters .root = captured)
    (hnamed : (i.configuration.filledField? Key.sourceResource).getD captured.sourceResource =
      source)
    (hplace : captured.destinationResource = destination) (hdestination : destination ≠ "")
    (h : Fails grid log captured.logicalPath source destination (marker i.configuration) e
      after) :
    body invoke i grid log = (.failed e, after) := by
  cases h with
  | unsourced hsource =>
    unfold body
    dsimp only
    rw [hcaptured, hnamed, if_pos (by simp [hsource]), ← hname]
    rfl
  | unmarked hsource hanswer =>
    rw [body_eq_lookup hcaptured hnamed hplace hsource hdestination, Run.bind_apply,
      Run.mapError_apply]
    simp only [Run.ask, hanswer, Outcome.mapError]
  | unknownMode hsource hanswer hunknown =>
    rw [body_eq_lookup hcaptured hnamed hplace hsource hdestination, Run.bind_apply,
      Run.mapError_apply]
    simp only [Run.ask, hanswer, Outcome.mapError, hunknown]
    rfl
  | @missing _ mode _ _ hsource hpath hanswer hmode hlacks =>
    have hverify := Verification.verify_of_lacks mode hpath hsource hdestination hlacks
    rw [body_of_mode hcaptured hnamed hplace hsource hdestination hanswer hmode]
    exact Run.bind_of_stop (Run.mapError_of_failed hverify) rfl
  | unverified hsource hanswer hmode hverify =>
    rw [body_of_mode hcaptured hnamed hplace hsource hdestination hanswer hmode]
    exact Run.bind_of_stop (Run.mapError_of_failed hverify) rfl
  | disagreed hsource hanswer hmode hverify =>
    rw [body_of_mode hcaptured hnamed hplace hsource hdestination hanswer hmode]
    exact Run.bind_of_done (Run.mapError_apply_eq_done.mpr hverify)

end

end ReplicaVerification

namespace Movement

variable {grid : Grid} {parameters configuration : Document} {captured : Capture}
  {destination : String}

/-- What stands in the log before a removal: the one copy, which was made, and then the
calls by which it was found to agree. -/
inductive Cleared (grid : Grid) (captured : Capture) (configuration : Document)
    (destination : String) : List Entry → Prop
  | intro {looked between : List Entry}
      (hcopied : grid.answer [] (copyCall captured destination) = .ok ())
      (hagreed : Agreed grid captured configuration destination
        [.call (copyCall captured destination)] looked)
      (honly : copies (.call (copyCall captured destination) :: (looked ++ between)) =
        [copyCall captured destination]) :
      Cleared grid captured configuration destination
        (.call (copyCall captured destination) :: (looked ++ between))

/-- How the steps before retention fail, and the log that they leave. -/
inductive Fails (grid : Grid) (captured : Capture) (configuration : Document)
    (destination : String) : PolicyError → List Entry → Prop
  | replication {e : PolicyError} {log : List Entry}
      (h : Replication.Fails grid [] captured destination e log) :
      Fails grid captured configuration destination e log
  | verification {e : PolicyError} {log : List Entry} (hpath : captured.logicalPath ≠ "")
      (hcopied : grid.answer [] (copyCall captured destination) = .ok ())
      (h : ReplicaVerification.Fails grid [.call (copyCall captured destination)]
        captured.logicalPath (compared captured configuration) destination
        (ReplicaVerification.marker configuration) e log) :
      Fails grid captured configuration destination e log

theorem Trace.cleared {before after : List Entry} {call : Call}
    (h : Trace grid [] captured configuration destination (before ++ .call call :: after))
    (hremoval : (Entry.call call).removal?.isSome) :
    Cleared grid captured configuration destination before := by
  have hlooks := Entry.not_looks_of_removal? hremoval
  have hcopy : Entry.call call ≠ .call (copyCall captured destination) := by
    intro heq
    rw [heq] at hremoval
    cases hremoval
  generalize hlog : before ++ Entry.call call :: after = log at h
  cases h with
  | uncopied => simp at hlog
  | @unverified looked hlooked =>
    have hmem : Entry.call call ∈ Entry.call (copyCall captured destination) :: looked := by
      rw [← hlog]
      simp
    rcases List.mem_cons.mp hmem with heq | hmem
    · exact absurd heq hcopy
    · exact absurd (hlooked _ hmem) hlooks
  | @verified looked removed hcopied hlooked hagreed hretained =>
    have hnot : Entry.call call ∉ Entry.call (copyCall captured destination) :: looked := by
      rw [List.mem_cons, not_or]
      exact ⟨hcopy, fun hmem => hlooks (hlooked _ hmem)⟩
    obtain ⟨between, rfl, rfl⟩ := exists_between (hlog.symm.trans rfl :
      (Entry.call (copyCall captured destination) :: looked) ++ removed =
        before ++ Entry.call call :: after) hnot
    have hnone : copies (between ++ Entry.call call :: after) = [] := by
      rcases hretained with hnil | ⟨request, -, htrace⟩
      · rw [hnil]
        rfl
      · exact htrace.copies_eq_nil
    rw [copies_append, List.append_eq_nil_iff] at hnone
    refine .intro hcopied hagreed ?_
    have hlookedNone := copies_eq_nil_of_looks hlooked
    rw [show copies (Entry.call (copyCall captured destination) :: (looked ++ between)) =
      copyCall captured destination :: copies (looked ++ between) from rfl, copies_append,
      hlookedNone, hnone.1]
    rfl

/-- What a step receives. -/
def stepInvocation (captured : Capture) (configuration : Document) (destination : String)
    (policy : String) : Invocation :=
  ⟨policy, stepParameters captured destination, Policy.effectiveConfiguration configuration⟩

/-- The steps of a movement to a resolved destination, by their bodies. -/
theorem invoke_eq_steps {others : List String} (depth : Nat)
    (hcaptured : Capture.ofParameters parameters .root = captured)
    (hdestinations : destinations? captured configuration = some (destination :: others)) :
    let step := stepInvocation captured configuration destination
    let invoke := Registry.builtin.invoke depth
    Registry.builtin.invoke (depth + 2) name parameters configuration = do
      let _ ← Replication.body invoke (step Replication.name)
      let _ ← ReplicaVerification.body invoke (step ReplicaVerification.name)
      let _ ← ReplicaRetention.body invoke (step ReplicaRetention.name)
      return .null := by
  rw [Registry.invoke_builtin mem_builtin]
  unfold body
  simp only [destinations?_effectiveConfiguration]
  rw [hcaptured, hdestinations]
  dsimp only
  simp only [steps, runSteps]
  rw [Registry.invoke_builtin Replication.mem_builtin,
    Registry.invoke_builtin ReplicaVerification.mem_builtin,
    Registry.invoke_builtin ReplicaRetention.mem_builtin, Policy.effectiveConfiguration_idem]
  simp only [bind_assoc, pure_bind]
  rfl

section

variable {others : List String} {e : PolicyError} {log : List Entry}

/-- A step that fails ends the movement with its error. -/
theorem invoke_of_fails (hcaptured : Capture.ofParameters parameters .root = captured)
    (hdestinations : destinations? captured configuration = some (destination :: others))
    (h : Fails grid captured configuration destination e log) (depth : Nat) :
    Registry.builtin.invoke (depth + 2) name parameters configuration grid [] =
      (.failed e, log) := by
  have hnamed := ne_empty_of_mem_destinations? hdestinations (List.mem_cons_self ..)
  have hread := ofParameters_stepParameters captured destination
  have hsingle : destinations? { captured with destinationResource := destination }
      (Policy.effectiveConfiguration configuration) = some [destination] := by
    simp [destinations?, hnamed]
  rw [invoke_eq_steps depth hcaptured hdestinations]
  cases h with
  | replication h =>
    have hfails : Replication.Fails grid [] { captured with destinationResource := destination }
        destination e log := by
      cases h with
      | unnamed hpath => exact .unnamed hpath
      | refused hpath hanswer => exact .refused hpath hanswer
    exact Run.bind_of_stop (Replication.body_of_fails rfl hread hsingle hfails) rfl
  | verification hpath hcopied h =>
    have hcopy : Replication.body (Registry.builtin.invoke depth)
        (stepInvocation captured configuration destination Replication.name) grid [] = _ :=
      Replication.body_of_copied hread hsingle hpath hcopied
    have hverify : ReplicaVerification.body (Registry.builtin.invoke depth)
        (stepInvocation captured configuration destination ReplicaVerification.name) grid
        [.call (copyCall captured destination)] = (.failed e, log) := by
      have hcompared : ((stepInvocation captured configuration destination
          ReplicaVerification.name).configuration.filledField? Key.sourceResource).getD
            captured.sourceResource = compared captured configuration := by
        simp [stepInvocation, compared]
      refine ReplicaVerification.body_of_fails rfl hread hcompared rfl hnamed ?_
      simpa [stepInvocation, ReplicaVerification.marker] using h
    rw [Run.bind_of_done hcopy]
    exact Run.bind_of_stop hverify rfl

/-- By then nothing has been removed. -/
theorem Fails.removals_eq_nil (hnamed : destination ≠ "")
    (h : Fails grid captured configuration destination e log) : removals log = [] := by
  cases h with
  | replication h =>
    cases h with
    | unnamed => rfl
    | refused => rfl
  | verification hpath hcopied h =>
    have hread := ofParameters_stepParameters captured destination
    have hbody : ReplicaVerification.body (Registry.builtin.invoke 0)
        ⟨ReplicaVerification.name, stepParameters captured destination, configuration⟩ grid _ = _ :=
      ReplicaVerification.body_of_fails rfl hread rfl rfl hnamed h
    obtain ⟨looked, hlog, hlooked, -⟩ := ReplicaVerification.body_yields
      (Registry.builtin.invoke 0)
      ⟨ReplicaVerification.name, stepParameters captured destination, configuration⟩ grid
      [.call (copyCall captured destination)] hread
    rw [hbody] at hlog
    rw [show log = _ from hlog, removals_append, removals_eq_nil_of_looks hlooked]
    rfl

end

/-- Before anything is removed there was one copy, to the resolved destination, and the
comparison of it said that it agrees. And if one of the two steps fails, so does the
movement, with that error and without a removal. -/
theorem invoke_removes_last (grid : Grid) (parameters configuration : Document) :
    let captured := Capture.ofParameters parameters .root
    (∀ depth before call after,
      builtinLog depth grid name parameters configuration = before ++ .call call :: after →
      (Entry.call call).removal?.isSome →
      ∃ destination others,
        destinations? captured configuration = some (destination :: others) ∧
        Cleared grid captured configuration destination before) ∧
    ∀ destination others e log,
      destinations? captured configuration = some (destination :: others) →
      Fails grid captured configuration destination e log →
      removals log = [] ∧ ∀ depth,
        Registry.builtin.invoke (depth + 2) name parameters configuration grid [] =
          (.failed e, log) := by
  intro captured
  refine ⟨?_, ?_⟩
  · intro depth before call after hlog hremoval
    rcases builtinLog_cases depth grid parameters configuration with
      hnil | ⟨destination, others, hdestinations, htrace⟩
    · rw [hnil] at hlog
      simp at hlog
    · rw [hlog] at htrace
      exact ⟨destination, others, hdestinations, htrace.cleared hremoval⟩
  · intro destination others e log hdestinations hfails
    have hnamed := ne_empty_of_mem_destinations? hdestinations (List.mem_cons_self ..)
    exact ⟨hfails.removals_eq_nil hnamed, invoke_of_fails rfl hdestinations hfails⟩

/-- An obliged movement trims its source. -/
theorem removals_obliging :
    removals (builtinLog 2 (obliging "alpha") name (stepParameters (moving "alpha") "beta")
      (comparing "alpha")) = [.trim "alice" "/zone/home/f" "alpha"] := by
  rw [builtinLog_obliging _ _ _ (by decide)]
  unfold ReplicaRetention.body ReplicaRetention.capture
  simp only [get?_stepParameters]
  rw [ofParameters_stepParameters]
  decide +kernel

/-- On a grid that makes every copy a source is trimmed, after the copy and its
verification; where copies are refused, the movement ends with that. -/
theorem invoke_removes_last_obliging :
    (∃ before after, builtinLog 2 (obliging "alpha") name
        (stepParameters (moving "alpha") "beta") (comparing "alpha") =
          before ++ .call (.trim "alice" "/zone/home/f" "alpha") :: after ∧
      Cleared (obliging "alpha")
        (Capture.ofParameters (stepParameters (moving "alpha") "beta") .root)
        (comparing "alpha") "beta" before) ∧
    Registry.builtin.invoke 2 name (stepParameters (moving "alpha") "beta") (comparing "alpha")
        ⟨0, fun _ _ => .error (.unknownResource "beta")⟩ [] =
      (.failed (.service (.unknownResource "beta")),
        [.call (copyCall (moving "alpha") "beta")]) := by
  have hcaptured := ofParameters_stepParameters (moving "alpha") "beta"
  have hdestinations : destinations? (Capture.ofParameters
      (stepParameters (moving "alpha") "beta") .root) (comparing "alpha") = some ["beta"] := by
    rw [hcaptured]
    rfl
  refine ⟨?_, ?_⟩
  · have hmem : Call.trim "alice" "/zone/home/f" "alpha" ∈ removals (builtinLog 2
        (obliging "alpha") name (stepParameters (moving "alpha") "beta")
        (comparing "alpha")) := by
      rw [removals_obliging]
      exact List.mem_cons_self ..
    obtain ⟨entry, hentry, hremoval⟩ := List.mem_filterMap.mp hmem
    obtain ⟨before, after, hlog⟩ := List.append_of_mem hentry
    have hcall := Entry.call_of_removal? hremoval
    subst hcall
    obtain ⟨destination, others, hresolved, hcleared⟩ :=
      (invoke_removes_last _ _ _).1 2 before _ after hlog rfl
    rw [hdestinations, Option.some.injEq, List.cons.injEq] at hresolved
    obtain ⟨rfl, -⟩ := hresolved
    exact ⟨before, after, hlog, hcleared⟩
  · refine ((invoke_removes_last _ _ _).2 "beta" [] _ _ hdestinations ?_).2 0
    rw [hcaptured]
    exact .replication (.refused (by decide) rfl)

end Movement

end GridPolicy
