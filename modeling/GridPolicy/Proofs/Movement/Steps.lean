import GridPolicy.Proofs.Policy.Invocation
import GridPolicy.Proofs.Retention.Safety
import GridPolicy.Proofs.Verification.Looks

/-!
# The log of a movement

The steps of a movement read one set of parameters, each in its own way. Their
logs are put together here: at most one copy is made, then the grid is only looked
at, and retention is reached only after the copy was made and verification has
found that it agrees. For each step there is one statement about its log alone.
-/
namespace GridPolicy

/-- The call that makes a copy on a destination. -/
abbrev copyCall (captured : Capture) (destination : String) : Call :=
  .replicate captured.userName captured.logicalPath captured.sourceResource destination

@[simp] theorem destinations?_effectiveConfiguration (captured : Capture)
    (configuration : Document) :
    destinations? captured (Policy.effectiveConfiguration configuration) =
      destinations? captured configuration := by
  simp [destinations?, mappedDestinations?]

theorem ne_empty_of_mem_mappedDestinations? {configuration : Document} {source d : String}
    {destinations : List String}
    (h : mappedDestinations? configuration source = some destinations) (hd : d ∈ destinations) :
    d ≠ "" := by
  simp only [mappedDestinations?, Option.map_eq_some_iff] at h
  obtain ⟨map, -, rfl⟩ := h
  split at hd
  · next name _ =>
    by_cases hname : name = ""
    · simp [hname] at hd
    · simp only [beq_iff_eq, hname, ↓reduceIte, List.mem_singleton] at hd
      exact hd ▸ hname
  · exact bne_iff_ne.mp (List.mem_filter.mp hd).2
  · cases hd

/-- A destination always has a name. -/
theorem ne_empty_of_mem_destinations? {captured : Capture} {configuration : Document}
    {destinations : List String} {d : String}
    (h : destinations? captured configuration = some destinations) (hd : d ∈ destinations) :
    d ≠ "" := by
  unfold destinations? at h
  split at h
  · next hcaptured =>
    rw [Option.some.injEq] at h
    subst h
    rw [List.mem_singleton.mp hd]
    exact bne_iff_ne.mp hcaptured
  · split at h
    · next configured hconfigured =>
      rw [Option.some.injEq] at h
      subst h
      rw [List.mem_singleton.mp hd]
      exact bne_iff_ne.mp (Option.filter_eq_some_iff.mp hconfigured).2
    · exact ne_empty_of_mem_mappedDestinations? h hd

namespace Replication

theorem mem_builtin : ⟨name, body⟩ ∈ builtinPolicies := by simp [builtinPolicies]

/-- To one destination a single copy is made, and replication succeeds only if that
does. -/
theorem body_yields (invoke : Invoker) (i : Invocation) {captured : Capture}
    {destination : String} (grid : Grid) (log : List Entry)
    (hcaptured : Capture.ofParameters i.parameters .root = captured)
    (hdestination : destinations? captured i.configuration = some [destination]) :
    (body invoke i).Yields grid log fun o added =>
      (added = [] ∧ ∀ v, o ≠ .done v) ∨
      added = [.call (copyCall captured destination)] ∧
        ∀ v, o = .done v → grid.answer log (copyCall captured destination) = .ok () := by
  unfold body
  dsimp only
  rw [hcaptured]
  split
  · exact Run.Yields.fail (.inl ⟨rfl, by simp⟩)
  · rw [hdestination]
    refine (Run.Yields.mapError_done (Run.Yields.ask_done _)).bind ?_ ?_
    · rintro _ _ _ ⟨rfl, -⟩ hstop
      exact .inr ⟨rfl, fun v hv => absurd hv (Outcome.ne_done_of_stop hstop v)⟩
    · rintro _ _ ⟨rfl, hanswer⟩ -
      exact Run.Yields.pure (.inr ⟨by simp, fun _ _ => hanswer _ rfl⟩)

end Replication

namespace ReplicaVerification

theorem mem_builtin : ⟨name, body⟩ ∈ builtinPolicies := by simp [builtinPolicies]

/-- Verification only looks, and succeeds only if the two replicas agree. -/
theorem body_yields (invoke : Invoker) (i : Invocation) {captured : Capture} (grid : Grid)
    (log : List Entry) (hcaptured : Capture.ofParameters i.parameters .root = captured) :
    (body invoke i).Yields grid log fun o added => (∀ e ∈ added, e.looks = true) ∧
      ∀ v, o = .done v → ∃ mode, Verification.verify mode captured.logicalPath
        ((i.configuration.filledField? Key.sourceResource).getD captured.sourceResource)
        captured.destinationResource grid
        (log ++ [.call (.metadataOf .resource captured.destinationResource)]) =
          (.done true, log ++ added) := by
  unfold body
  dsimp only
  rw [hcaptured]
  split
  · exact Run.Yields.fail ⟨by simp, by simp⟩
  split
  · exact Run.Yields.fail ⟨by simp, by simp⟩
  refine (Run.Yields.mapError_done (Run.Yields.ask_done _)).bind_done ?_ ?_
  · rintro _ rfl
    simp [Entry.looks, Call.changes]
  rintro avus _ rfl - -
  have hparse := Run.Silent.mapError (f := PolicyError.verification)
    (Run.Silent.ofExcept (x := VerificationMode.parse (ReplicaVerification.modeName avus
      ((i.configuration.filledField? "attribute").getD defaultModeAttribute)))
      (P := fun _ => True) (fun _ _ => trivial))
  refine hparse.bind_yields ?_ ?_
  · rintro o ho
    exact ⟨by simp [Entry.looks, Call.changes], fun v hv => absurd hv (ho v)⟩
  intro mode _
  refine ((Verification.verify_looks mode _ _ _).mapError grid _).bind ?_ ?_
  · rintro o o' added hadded hstop
    refine ⟨by simpa [Entry.looks, Call.changes] using hadded, ?_⟩
    exact fun v hv => absurd hv (Outcome.ne_done_of_stop hstop v)
  rintro agrees added hadded hrun
  rw [Run.mapError_apply_eq_done] at hrun
  cases agrees with
  | false =>
    exact Run.Yields.fail ⟨by simpa [Entry.looks, Call.changes] using hadded, by simp⟩
  | true =>
    refine Run.Yields.pure ⟨by simpa [Entry.looks, Call.changes] using hadded, ?_⟩
    rintro v -
    refine ⟨mode, ?_⟩
    rw [hrun]
    simp

end ReplicaVerification

namespace Movement

theorem get?_stepParameters (captured : Capture) (destination key : String) :
    (stepParameters captured destination).get? key =
      if key = Key.userName then some (.text captured.userName)
      else if key = Key.logicalPath then some (.text captured.logicalPath)
      else if key = Key.sourceResource then some (.text captured.sourceResource)
      else if key = Key.destinationResource then some (.text destination)
      else none := by
  simp only [stepParameters, Document.ofFields, Document.get?, Document.fields, Fields.ofList,
    Fields.overlay, List.foldl_cons, List.foldl_nil, Fields.get?_insert, Fields.get?_nil]
  by_cases huser : key = Key.userName
  · subst huser
    rfl
  · by_cases hpath : key = Key.logicalPath
    · subst hpath
      rfl
    · by_cases hsource : key = Key.sourceResource
      · subst hsource
        rfl
      · simp [huser, hpath, hsource]

/-- A step reads back what the movement has captured, with the resolved destination. -/
theorem ofParameters_stepParameters (captured : Capture) (destination : String) :
    Capture.ofParameters (stepParameters captured destination) .root =
      { captured with destinationResource := destination } := by
  have hread (s : String) : (Option.filter (fun t => t != "") (some s)).getD "" = s := by
    by_cases hs : s = "" <;> simp [Option.filter, hs]
  have hnull (key : String) : Document.null.get? key = none := rfl
  simp [Capture.ofParameters, captureResource, get?_stepParameters, Document.filledField?,
    Document.textField?, Document.scalarText?, Key.userName, Key.logicalPath,
    Key.sourceResource, Key.destinationResource, Key.comm, Key.condInput, hread, hnull]

theorem mem_builtin : ⟨name, body⟩ ∈ builtinPolicies := by simp [builtinPolicies]

/-- The source that verification compares with: the configured one comes before the
one that is moved from. -/
def compared (captured : Capture) (configuration : Document) : String :=
  (configuration.filledField? Key.sourceResource).getD captured.sourceResource

/-- After the copy, which is the last entry of the log, verification has found with
these calls that the copy agrees. -/
def Agreed (grid : Grid) (captured : Capture) (configuration : Document)
    (destination : String) (log looked : List Entry) : Prop :=
  ∃ mode, Verification.verify mode captured.logicalPath (compared captured configuration)
    destination grid (log ++ [.call (.metadataOf .resource destination)]) =
      (.done true, log ++ looked)

/-- What a movement to a destination adds to the log. -/
inductive Trace (grid : Grid) (log : List Entry) (captured : Capture)
    (configuration : Document) (destination : String) : List Entry → Prop
  /-- The copy is not tried. -/
  | uncopied : Trace grid log captured configuration destination []
  /-- The copy fails, or does not agree. -/
  | unverified {looked : List Entry} (hlooked : ∀ e ∈ looked, e.looks = true) :
      Trace grid log captured configuration destination
        (.call (copyCall captured destination) :: looked)
  /-- Retention is invoked, and may accept what it receives as a request. -/
  | verified {looked removed : List Entry}
      (hcopied : grid.answer log (copyCall captured destination) = .ok ())
      (hlooked : ∀ e ∈ looked, e.looks = true)
      (hagreed : Agreed grid captured configuration destination
        (log ++ [.call (copyCall captured destination)]) looked)
      (hretained : removed = [] ∨ ∃ request,
        ReplicaRetention.Accepted (stepParameters captured destination) configuration request ∧
        Retention.Trace grid (log ++ [.call (copyCall captured destination)] ++ looked) request
          removed) :
      Trace grid log captured configuration destination
        (.call (copyCall captured destination) :: (looked ++ removed))

/-- The steps run one after the other, each on the log of those before it. -/
theorem runSteps_yields (depth : Nat) (captured : Capture) (configuration : Document)
    {destination : String} (hdestination : destination ≠ "") (grid : Grid) (log : List Entry) :
    (runSteps (Registry.builtin.invoke depth) (stepParameters captured destination)
      (Policy.effectiveConfiguration configuration) steps).Yields grid log fun _ added =>
        Trace grid log captured configuration destination added := by
  cases depth with
  | zero => exact Run.Yields.outOfDepth .uncopied
  | succ depth =>
    have hcaptured := ofParameters_stepParameters captured destination
    have hsingle : destinations? { captured with destinationResource := destination }
        (Policy.effectiveConfiguration configuration) = some [destination] := by
      simp [destinations?, hdestination]
    have hcopies := Replication.body_yields (Registry.builtin.invoke depth)
      ⟨Replication.name, stepParameters captured destination,
        Policy.effectiveConfiguration configuration⟩ grid log hcaptured hsingle
    have hverifies := ReplicaVerification.body_yields (Registry.builtin.invoke depth)
      ⟨ReplicaVerification.name, stepParameters captured destination,
        Policy.effectiveConfiguration configuration⟩ grid
      (log ++ [.call (copyCall captured destination)]) hcaptured
    simp only [steps, runSteps]
    rw [Registry.invoke_builtin Replication.mem_builtin,
      Registry.invoke_builtin ReplicaVerification.mem_builtin,
      Registry.invoke_builtin ReplicaRetention.mem_builtin, Policy.effectiveConfiguration_idem]
    refine hcopies.bind ?_ ?_
    · rintro _ _ _ (⟨rfl, -⟩ | ⟨rfl, -⟩) -
      · exact .uncopied
      · exact .unverified (by simp)
    rintro value _ (⟨-, hstop⟩ | ⟨rfl, hanswer⟩) -
    · exact absurd rfl (hstop value)
    refine hverifies.bind ?_ ?_
    · rintro _ _ looked ⟨hlooked, -⟩ -
      exact .unverified hlooked
    rintro verdict looked ⟨hlooked, hagreed⟩ -
    have hverified : Agreed grid captured configuration destination
        (log ++ [.call (copyCall captured destination)]) looked := by
      simpa [Agreed, compared] using hagreed verdict rfl
    have hremoves := ReplicaRetention.body_yields (Registry.builtin.invoke depth)
      ⟨ReplicaRetention.name, stepParameters captured destination,
        Policy.effectiveConfiguration configuration⟩ grid
      (log ++ [.call (copyCall captured destination)] ++ looked)
    have htrace {removed : List Entry} (h : removed = [] ∨ ∃ request,
        ReplicaRetention.Accepted (stepParameters captured destination)
          (Policy.effectiveConfiguration configuration) request ∧
        Retention.Trace grid (log ++ [.call (copyCall captured destination)] ++ looked)
          request removed) :
        Trace grid log captured configuration destination
          (.call (copyCall captured destination) :: (looked ++ removed)) := by
      refine .verified (hanswer value rfl) hlooked hverified (h.imp_right ?_)
      rintro ⟨request, haccepted, hremoved⟩
      exact ⟨request, haccepted.of_effectiveConfiguration, hremoved⟩
    refine hremoves.bind ?_ ?_
    · rintro _ _ removed hremoved -
      exact htrace hremoved
    · rintro _ removed hremoved -
      refine Run.Yields.pure ?_
      simpa using htrace hremoved

/-- A movement goes to the first destination, if there is any. -/
theorem body_yields (depth : Nat) (parameters configuration : Document) (grid : Grid)
    (log : List Entry) :
    (body (Registry.builtin.invoke depth)
      ⟨name, parameters, Policy.effectiveConfiguration configuration⟩).Yields grid log
        fun _ added => added = [] ∨ ∃ destination others,
          destinations? (Capture.ofParameters parameters .root) configuration =
            some (destination :: others) ∧
          Trace grid log (Capture.ofParameters parameters .root) configuration destination
            added := by
  unfold body
  simp only [destinations?_effectiveConfiguration]
  split
  · exact Run.Yields.fail (.inl rfl)
  · exact Run.Yields.pure (.inl rfl)
  · next destination others hdestinations =>
    have hnamed := ne_empty_of_mem_destinations? hdestinations (List.mem_cons_self ..)
    refine (runSteps_yields depth _ configuration hnamed grid log).bind ?_ ?_
    · rintro _ _ added htrace -
      exact .inr ⟨destination, others, hdestinations, htrace⟩
    · rintro _ added htrace -
      refine Run.Yields.pure (.inr ⟨destination, others, hdestinations, ?_⟩)
      rwa [List.append_nil]

/-- A movement by name leaves no log, or that of the first destination. -/
theorem builtinLog_cases (depth : Nat) (grid : Grid) (parameters configuration : Document) :
    builtinLog depth grid name parameters configuration = [] ∨
      ∃ destination others,
        destinations? (Capture.ofParameters parameters .root) configuration =
          some (destination :: others) ∧
        Trace grid [] (Capture.ofParameters parameters .root) configuration destination
          (builtinLog depth grid name parameters configuration) := by
  exact builtinLog_of_yields mem_builtin
    (Q := fun log => log = [] ∨ ∃ destination others,
      destinations? (Capture.ofParameters parameters .root) configuration =
        some (destination :: others) ∧
      Trace grid [] (Capture.ofParameters parameters .root) configuration destination log)
    (.inl rfl) (fun depth => body_yields depth parameters configuration grid []) depth

end Movement

end GridPolicy
