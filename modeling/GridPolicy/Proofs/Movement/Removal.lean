import GridPolicy.Proofs.Movement.Steps

/-!
# What a movement removes

The steps of a movement need not mean the same replica. Verification may be
configured to compare with another source than the one that is moved from, and
without a source retention may take the whole object for what is to be removed.
Where retention is in its single mode, a movement trims one replica at most, after
the copy was found to agree, and it trims the copy only if it was moved from there.
-/
namespace GridPolicy.Movement

/-- Retention is in its single mode: that one is configured, or none is and the
mode follows from a source. A source that only the configuration names is one for
verification and not for retention. -/
structure Single (captured : Capture) (configuration : Document) : Prop where
  configured : ∀ word, configuration.filledField? "mode" = some word →
    word = RetentionMode.trimSingleReplica.name
  sourced : captured.sourceResource = "" →
    configuration.filledField? Key.sourceResource ≠ none →
    configuration.filledField? "mode" ≠ none

/-- The log removes nothing, or at its end one replica, when the copy has been made: not the
copy, unless it was moved from there, and the one at the source, if there is a source. -/
inductive Spares (grid : Grid) (captured : Capture) (configuration : Document)
    (destination : String) (log : List Entry) : Prop
  | untouched (hnone : removals log = []) : Spares grid captured configuration destination log
  | trimmed {looked between : List Entry} {resource : String}
      (hlog : log = .call (copyCall captured destination) :: (looked ++ between ++
        [.call (.trim captured.userName captured.logicalPath resource)]))
      (hcopied : grid.answer [] (copyCall captured destination) = .ok ())
      (honly : removals (looked ++ between) = [])
      (hagreed : Agreed grid captured configuration destination
        [.call (copyCall captured destination)] looked)
      (hcopy : captured.sourceResource ≠ destination → resource ≠ destination)
      (hsource : captured.sourceResource ≠ "" → resource = captured.sourceResource)
      (hcompared : compared captured configuration = captured.sourceResource →
        resource = compared captured configuration) :
      Spares grid captured configuration destination log

variable {grid : Grid} {parameters configuration : Document} {captured : Capture}
  {destination : String} {request : RetentionRequest}

/-- What retention accepts of the parameters of a step are the values of the movement. -/
theorem request_of_accepted (h : ReplicaRetention.Accepted
    (stepParameters captured destination) configuration request) :
    request.userName = captured.userName ∧ request.logicalPath = captured.logicalPath ∧
    request.sourceResource = captured.sourceResource ∧
    request.destinationResource = destination := by
  have hrows : (stepParameters captured destination).get? Key.queryResults = none := by
    simp [get?_stepParameters, Key.queryResults, Key.userName, Key.logicalPath,
      Key.sourceResource, Key.destinationResource]
  have hcaptured := h.captured
  simp only [ReplicaRetention.CapturedFrom, hrows, ofParameters_stepParameters,
    Capture.mk.injEq] at hcaptured
  exact hcaptured

/-- A source was compared with, so if retention is given none and no mode, the
configuration has named it. -/
theorem Single.mode_eq (hsingle : Single captured configuration)
    (hcompared : compared captured configuration ≠ "")
    (h : ReplicaRetention.Accepted (stepParameters captured destination) configuration request) :
    request.mode = .trimSingleReplica := by
  have hmode := h.mode
  unfold ReplicaRetention.ModeFor at hmode
  cases hword : configuration.filledField? "mode" with
  | some word =>
    rw [hword, hsingle.configured word hword] at hmode
    simpa [RetentionMode.parse_name] using hmode.symm
  | none =>
    rw [hword, (request_of_accepted h).2.2.1] at hmode
    by_cases hsource : captured.sourceResource = ""
    · exfalso
      cases hfield : configuration.filledField? Key.sourceResource with
      | none => exact hcompared (by rw [compared, hfield, hsource]; rfl)
      | some name => exact hsingle.sourced hsource (by simp [hfield]) hword
    · simpa [hsource] using hmode

/-- Without a source the target is not at the destination. -/
theorem ne_destination_of_target {replicas : List String} {source target : String}
    (h : trimTarget? replicas source destination = some target) (hsource : source ≠ destination) :
    target ≠ destination := by
  by_cases hempty : source = ""
  · subst hempty
    exact (mem_of_trimTarget? h).2
  · rw [trimTarget?_of_source hempty, Option.some.injEq] at h
    exact h ▸ hsource

theorem Trace.spares {log : List Entry} (h : Trace grid [] captured configuration destination log)
    (hsingle : Single captured configuration) :
    Spares grid captured configuration destination log := by
  cases h with
  | uncopied => exact .untouched rfl
  | unverified hlooked =>
    refine .untouched ?_
    rw [removals_cons_of_none rfl, removals_eq_nil_of_looks hlooked]
  | @verified looked removed hcopied hlooked hagreed hretained =>
    have hnone : removals looked = [] := removals_eq_nil_of_looks hlooked
    rcases hretained with rfl | ⟨request, haccepted, htrace⟩
    · refine .untouched ?_
      rw [removals_cons_of_none rfl, removals_append, hnone, removals_nil, List.append_nil]
    obtain ⟨mode, hverify⟩ := hagreed
    have hcompared := Verification.source_ne_empty_of_verify hverify
    obtain ⟨huser, hpath, hsource, hdestination⟩ := request_of_accepted haccepted
    rcases htrace.of_trimSingle (hsingle.mode_eq hcompared haccepted) with
      hremoved | ⟨between, target, rfl, hbetween, htarget⟩
    · refine .untouched ?_
      rw [removals_cons_of_none rfl, removals_append, hnone, hremoved, List.append_nil]
    rw [hsource, hdestination] at htarget
    rw [huser, hpath]
    have hnamed : captured.sourceResource ≠ "" → target = captured.sourceResource := by
      intro hfilled
      rw [trimTarget?_of_source hfilled, Option.some.injEq] at htarget
      exact htarget.symm
    have hlast : removals (looked ++ between) = [] := by
      rw [removals_append, hnone, hbetween, List.append_nil]
    refine .trimmed (by rw [List.append_assoc]) hcopied hlast ⟨mode, hverify⟩
      (ne_destination_of_target htarget) hnamed ?_
    intro hsame
    rw [hsame] at hcompared ⊢
    exact hnamed hcompared

/-- Once the copy is made and verified, a movement leaves the log that retention
leaves. -/
theorem builtinLog_of_verified {others : List String} {depth : Nat}
    {copied verified : List Entry} {copying verdict : Document}
    (hcaptured : Capture.ofParameters parameters .root = captured)
    (hdestinations : destinations? captured configuration = some (destination :: others))
    (hcopy : Replication.body (Registry.builtin.invoke depth)
      ⟨Replication.name, stepParameters captured destination,
        Policy.effectiveConfiguration configuration⟩ grid [] = (.done copying, copied))
    (hverify : ReplicaVerification.body (Registry.builtin.invoke depth)
      ⟨ReplicaVerification.name, stepParameters captured destination,
        Policy.effectiveConfiguration configuration⟩ grid copied = (.done verdict, verified)) :
    builtinLog (depth + 2) grid name parameters configuration =
      (ReplicaRetention.body (Registry.builtin.invoke depth)
        ⟨ReplicaRetention.name, stepParameters captured destination,
          Policy.effectiveConfiguration configuration⟩ grid verified).2 := by
  unfold builtinLog
  rw [Registry.invoke_builtin mem_builtin]
  unfold body
  simp only [destinations?_effectiveConfiguration]
  rw [hcaptured, hdestinations]
  dsimp only
  rw [Run.bind_pure_snd]
  simp only [steps, runSteps]
  rw [Registry.invoke_builtin Replication.mem_builtin,
    Registry.invoke_builtin ReplicaVerification.mem_builtin,
    Registry.invoke_builtin ReplicaRetention.mem_builtin, Policy.effectiveConfiguration_idem,
    Run.bind_of_done hcopy, Run.bind_of_done hverify, Run.bind_pure_snd]

/-- A grid that makes every copy. A replica looked for on leaves is there, of ten
bytes; otherwise the catalog knows of one on this resource, and to a second question
in a row it has no answer. -/
def obliging (resource : String) : Grid where
  now := 0
  answer log call :=
    match call with
    | .query _ 1 _ => .ok [["/vault/f", "", "10", ""]]
    | .query _ _ _ =>
      match log.getLast? with
      | some (.call (.query _ 0 _)) => .ok []
      | _ => .ok [[resource]]
    | .replicate _ _ _ _ => .ok ()
    | .trim _ _ _ => .ok ()
    | .unlink _ _ => .ok ()
    | .leafBundle _ => .ok [1]
    | .metadataOf _ _ => .ok []
    | _ => .error (.unknownResource "")

/-- What is moved from a source to `beta`. -/
def moving (source : String) : Capture := ⟨"alice", "/zone/home/f", source, "beta"⟩

/-- A configuration that names a source. -/
def comparing (source : String) : Document := .object [(Key.sourceResource, .text source)]

theorem sourceOf_comparing {source : String} (hnamed : source ≠ "") :
    (comparing source).filledField? Key.sourceResource = some source := by
  simp [comparing, Document.filledField?, Document.textField?, Document.get?,
    Document.fields, Fields.get?, Document.scalarText?, hnamed]

theorem unset_comparing {source key : String} (hkey : Key.sourceResource ≠ key) :
    (comparing source).filledField? key = none := by
  simp [comparing, Document.filledField?, Document.textField?, Document.get?,
    Document.fields, Fields.get?, hkey]

/-- The calls of an obliged movement before retention. -/
def obligedLog (source configured : String) : List Entry :=
  let path := LogicalPath.split (moving source).logicalPath
  let replica := Call.query (Verification.replicaQuery path.1 path.2 "'1'") 1 .general
  [.call (copyCall (moving source) "beta"), .call (.metadataOf .resource "beta"),
    .call (.leafBundle configured), .call replica, .call (.leafBundle "beta"), .call replica]

/-- Whatever source is configured, an obliged movement reaches retention. -/
theorem builtinLog_obliging (source configured resource : String) (hnamed : configured ≠ "") :
    builtinLog 2 (obliging resource) name (stepParameters (moving source) "beta")
        (comparing configured) =
      (ReplicaRetention.body (Registry.builtin.invoke 0)
        ⟨ReplicaRetention.name, stepParameters (moving source) "beta", comparing configured⟩
        (obliging resource) (obligedLog source configured)).2 := by
  have hmarker : (comparing configured).filledField? "attribute" = none :=
    unset_comparing (by decide)
  have hcaptured := ofParameters_stepParameters (moving source) "beta"
  have hfilled : (configured == "") = false := by simpa using hnamed
  have hcopy : Replication.body (Registry.builtin.invoke 0)
      ⟨Replication.name, stepParameters (moving source) "beta", comparing configured⟩
      (obliging resource) [] = (.done .null, [.call (copyCall (moving source) "beta")]) := by
    unfold Replication.body
    rw [hcaptured]
    rfl
  have hverify : ReplicaVerification.body (Registry.builtin.invoke 0)
      ⟨ReplicaVerification.name, stepParameters (moving source) "beta", comparing configured⟩
      (obliging resource) [.call (copyCall (moving source) "beta")] =
        (.done .null, obligedLog source configured) := by
    unfold ReplicaVerification.body Verification.verify
    dsimp only
    rw [hcaptured, sourceOf_comparing hnamed, hmarker]
    simp only [Option.getD_some, hfilled]
    rfl
  have hdestinations : destinations? (moving source) (comparing configured) = some ["beta"] := rfl
  exact builtinLog_of_verified hcaptured hdestinations hcopy hverify

/-- A movement in the single mode unlinks nothing and trims at most one replica, and
that last. It is the one at the source of the movement if there is a source, and the
one that was just made only if the source is the destination. -/
theorem builtinLog_spares {others : List String} (depth : Nat) (grid : Grid)
    (hdestinations : destinations? (Capture.ofParameters parameters .root) configuration =
      some (destination :: others))
    (hsingle : Single (Capture.ofParameters parameters .root) configuration) :
    Spares grid (Capture.ofParameters parameters .root) configuration destination
      (builtinLog depth grid name parameters configuration) := by
  rcases builtinLog_cases depth grid parameters configuration with
    hnil | ⟨resolved, rest, hresolved, htrace⟩
  · rw [hnil]
    exact .untouched rfl
  · rw [hdestinations, Option.some.injEq, List.cons.injEq] at hresolved
    obtain ⟨rfl, -⟩ := hresolved
    exact htrace.spares hsingle

theorem builtinLog_spares_obliging :
    Spares (obliging "alpha")
      (Capture.ofParameters (stepParameters (moving "alpha") "beta") .root) (comparing "alpha")
      "beta" (builtinLog 2 (obliging "alpha") name (stepParameters (moving "alpha") "beta")
        (comparing "alpha")) ∧
    removals (builtinLog 2 (obliging "alpha") name (stepParameters (moving "alpha") "beta")
      (comparing "alpha")) = [.trim "alice" "/zone/home/f" "alpha"] := by
  have hmode : (comparing "alpha").filledField? "mode" = none := unset_comparing (by decide)
  have hcaptured := ofParameters_stepParameters (moving "alpha") "beta"
  have hdestinations : destinations? (Capture.ofParameters
      (stepParameters (moving "alpha") "beta") .root) (comparing "alpha") = some ["beta"] := by
    rw [hcaptured]
    rfl
  refine ⟨builtinLog_spares 2 (obliging "alpha") hdestinations ⟨?_, ?_⟩, ?_⟩
  · simp [hmode]
  · intro hnone
    rw [hcaptured] at hnone
    exact absurd hnone (by decide)
  · rw [builtinLog_obliging _ _ _ (by decide)]
    unfold ReplicaRetention.body ReplicaRetention.capture
    simp only [get?_stepParameters]
    rw [hcaptured]
    decide +kernel

/-- All that is assumed of the single mode is needed. If only the configuration names a
source, retention without a mode unlinks the object. From the destination itself the
copy is trimmed. And of two sources it is the one that is moved from that is trimmed,
when the other was compared with. -/
theorem obliging_not_spared :
    (∀ source configured, configured ≠ "" →
      destinations? (Capture.ofParameters (stepParameters (moving source) "beta") .root)
        (comparing configured) = some ["beta"] ∧
      (comparing configured).filledField? "mode" = none ∧
      compared (moving source) (comparing configured) = configured) ∧
    removals (builtinLog 2 (obliging "beta") name (stepParameters (moving "") "beta")
      (comparing "alpha")) = [.unlink "alice" "/zone/home/f"] ∧
    removals (builtinLog 2 (obliging "beta") name (stepParameters (moving "beta") "beta")
      (comparing "beta")) = [.trim "alice" "/zone/home/f" "beta"] ∧
    removals (builtinLog 2 (obliging "alpha") name (stepParameters (moving "alpha") "beta")
      (comparing "gamma")) = [.trim "alice" "/zone/home/f" "alpha"] := by
  refine ⟨?_, ?_, ?_, ?_⟩
  · intro source configured hnamed
    rw [ofParameters_stepParameters, compared, sourceOf_comparing hnamed]
    exact ⟨rfl, unset_comparing (by decide), rfl⟩
  -- in each of the three runs what is left is to carry retention out
  all_goals
    rw [builtinLog_obliging _ _ _ (by decide)]
    unfold ReplicaRetention.body ReplicaRetention.capture
    simp only [get?_stepParameters]
    rw [ofParameters_stepParameters]
    decide +kernel

end GridPolicy.Movement
