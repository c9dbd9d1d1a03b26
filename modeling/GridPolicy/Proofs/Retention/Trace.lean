import GridPolicy.Proofs.Retention.Plan
import GridPolicy.Proofs.Run.Additions

/-!
# The log of retention

Retention asks twice, which resources hold a replica and which of them are to be
preserved, and then removes what the plan for both answers says. It may end after
any of these calls, so what it adds to the log is one of four shapes, and of the
removals of a plan a first part.
-/
namespace GridPolicy.Retention

/-- The call that asks for the replicas of an object. -/
abbrev replicaCall (path : String) : Call :=
  .query (replicaQuery (LogicalPath.split path).1 (LogicalPath.split path).2) 0 .general

/-- The call that asks which of the resources are marked for preservation. -/
abbrev preservationCall (resources : List String) (marker : String) : Call :=
  .query (preservationQuery resources marker) 0 .general

/-- The roots of the replicas in an answer, none twice. -/
def roots (answer : Except ServiceError (List Row)) : List String :=
  Text.ordered ((Run.rowsAnswered answer).filterMap replicaRoot?)

/-- The names in the first column of an answer. -/
def names (answer : Except ServiceError (List Row)) : List String :=
  (Run.rowsAnswered answer).filterMap List.head?

section

variable (grid : Grid) (log : List Entry) (request : RetentionRequest)

/-- The replicas that are found from this log. -/
def found : List String := roots (grid.answer log (replicaCall request.logicalPath))

/-- The resources that are asked about for preservation. -/
def asked : List String := considered (found grid log request) request.sourceResource

/-- The resources that are said to be preserved. -/
def preserved : List String :=
  names (grid.answer (log ++ [.call (replicaCall request.logicalPath)])
    (preservationCall (asked grid log request) request.preservationAttribute))

/-- What is planned from the two answers. -/
def planned : RemovalPlan :=
  planRemoval request.mode (found grid log request) (preserved grid log request)
    request.whitelist request.sourceResource request.destinationResource

end

variable {grid : Grid} {log : List Entry} {request : RetentionRequest}

/-- What carrying a plan out adds to the log. Of several trims the first that
fails is the last. -/
inductive Carried (request : RetentionRequest) : RemovalPlan → List Entry → Prop
  | unlink : Carried request .unlink [.call (.unlink request.userName request.logicalPath)]
  | trim {resources made : List String} : made <+: resources →
      Carried request (.trim resources)
        (made.map fun r => .call (.trim request.userName request.logicalPath r))
  | retain {reason : RetainReason} : Carried request (.retain reason) []

/-- What applying retention adds to the log. -/
inductive Trace (grid : Grid) (log : List Entry) (request : RetentionRequest) :
    List Entry → Prop
  | refused : Trace grid log request []
  | unfound : Trace grid log request [.call (replicaCall request.logicalPath)]
  | unanswered : Trace grid log request
      [.call (replicaCall request.logicalPath),
       .call (preservationCall (asked grid log request) request.preservationAttribute)]
  | carried {removed : List Entry} : Carried request (planned grid log request) removed →
      Trace grid log request
        (.call (replicaCall request.logicalPath) ::
          .call (preservationCall (asked grid log request) request.preservationAttribute) ::
          removed)

/-- Trims are made one after the other, up to the first that fails. -/
theorem forEach_trim_yields (user path : String) (resources : List String) (log : List Entry) :
    (Run.forEach (fun r => Run.ask (.trim user path r)) resources).Yields grid log
      fun _ added => ∃ made, made <+: resources ∧
        added = made.map fun r => .call (.trim user path r) := by
  induction resources generalizing log with
  | nil => exact Run.Yields.pure ⟨[], List.prefix_refl _, rfl⟩
  | cons r rest ih =>
    have hone : (Run.ask (.trim user path r)).Yields grid log
        fun _ added => added = [.call (.trim user path r)] :=
      Run.Yields.ask (fun _ _ => rfl) (fun _ _ => rfl)
    refine hone.bind ?_ ?_
    · rintro _ _ _ rfl _
      exact ⟨[r], by simp, rfl⟩
    · rintro _ _ rfl _
      refine (ih _).bind ?_ ?_
      · rintro _ _ _ ⟨made, hmade, rfl⟩ _
        exact ⟨r :: made, by simpa using hmade, rfl⟩
      · rintro _ _ ⟨made, hmade, rfl⟩ _
        exact Run.Yields.pure ⟨r :: made, by simpa using hmade, by simp⟩

theorem carryOut_yields (plan : RemovalPlan) :
    (carryOut request plan).Yields grid log fun _ added => Carried request plan added := by
  cases plan with
  | unlink => exact Run.Yields.ask (fun _ _ => .unlink) (fun _ _ => .unlink)
  | trim resources =>
    refine (forEach_trim_yields _ _ resources log).bind ?_ ?_
    · rintro _ _ _ ⟨made, hmade, rfl⟩ _
      exact .trim hmade
    · rintro _ _ ⟨made, hmade, rfl⟩ _
      exact Run.Yields.pure (by simpa using Carried.trim hmade)
  | retain reason => exact Run.Yields.pure .retain

theorem plan_yields (request : RetentionRequest) (replicas : List String) :
    (plan request replicas).Yields grid log fun o added =>
      added = [.call (preservationCall (considered replicas request.sourceResource)
        request.preservationAttribute)] ∧
      ∀ decision, o = .done decision → decision =
        planRemoval request.mode replicas
          (names (grid.answer log (preservationCall
            (considered replicas request.sourceResource) request.preservationAttribute)))
          request.whitelist request.sourceResource request.destinationResource := by
  unfold plan
  refine (Run.queryRows_yields _ 0 .general grid log).bind_done (fun _ hadded => hadded) ?_
  rintro rows _ rfl hrows -
  refine Run.Yields.pure ⟨by simp, ?_⟩
  intro decision hdone
  rw [Outcome.done.injEq] at hdone
  rw [← hdone, hrows, names]

/-- Whatever is answered, the log of retention has one of the shapes. -/
theorem apply_yields (request : RetentionRequest) :
    (apply request).Yields grid log fun _ added => Trace grid log request added := by
  unfold apply
  by_cases hpath : request.logicalPath = ""
  · simp only [hpath, beq_self_eq_true, ↓reduceIte, Run.fail_bind]
    exact Run.Yields.fail .refused
  · simp only [hpath, beq_iff_eq, ↓reduceIte]
    refine Run.Yields.mapError ((Run.queryRows_yields _ 0 .general grid log).bind ?_ ?_)
    · rintro o o' added ⟨rfl, -⟩ -
      exact .unfound
    · rintro rows added ⟨rfl, hrows⟩ -
      rw [hrows rows rfl]
      split
      · exact Run.Yields.pure .unfound
      · refine (plan_yields request (found grid log request)).bind ?_ ?_
        · rintro o o' added ⟨rfl, -⟩ -
          exact .unanswered
        · rintro decision added ⟨rfl, hdecision⟩ -
          have hplanned : decision = planned grid log request := hdecision decision rfl
          subst hplanned
          refine (carryOut_yields (planned grid log request)).bind ?_ ?_
          · rintro o o' removed hremoved -
            exact .carried hremoved
          · rintro - removed hremoved -
            refine Run.Yields.pure ?_
            rw [List.append_nil]
            exact .carried hremoved

/-- In the single mode there is at most one removal, the trim of the one target. -/
theorem Trace.of_trimSingle {added : List Entry} (h : Trace grid log request added)
    (hmode : request.mode = .trimSingleReplica) :
    removals added = [] ∨ ∃ before target,
      added = before ++ [.call (.trim request.userName request.logicalPath target)] ∧
      removals before = [] ∧
      trimTarget? (found grid log request) request.sourceResource
        request.destinationResource = some target := by
  cases h with
  | refused => exact .inl rfl
  | unfound => exact .inl rfl
  | unanswered => exact .inl rfl
  | @carried removed hcarried =>
    generalize hplan : planned grid log request = decided at hcarried
    rw [planned, hmode] at hplan
    cases hcarried with
    | unlink => exact absurd hplan planTrimSingle_ne_unlink
    | retain => exact .inl rfl
    | @trim resources made hmade =>
      obtain ⟨target, rfl, htarget, -⟩ := planTrimSingle_eq_trim hplan
      rcases List.prefix_cons_iff.mp hmade with rfl | ⟨rest, rfl, hrest⟩
      · exact .inl rfl
      · rw [List.prefix_nil.mp hrest]
        exact .inr ⟨[_, _], target, rfl, rfl, htarget⟩

end GridPolicy.Retention
