import GridPolicy.Policy.Builtin
import GridPolicy.Proofs.Run.Settled

/-!
# Policies that invoke nothing

What the leaves of a tree of invocations do does not depend on any other policy, and
none of them runs out of depth.
-/
namespace GridPolicy

variable {invoke invoke' : Invoker} {i : Invocation} {grid : Grid} {log : List Entry}

theorem leafBundle_settled (resource : String) :
    (leafBundle resource).Settled (leafBundle resource) grid log := by
  refine .bind (.mapError (.ask _)) fun ids mid _ => ?_
  dsimp only
  split
  · exact .fail _
  · exact .pure _

theorem Verification.replicaAttributes_settled (path resource : String) :
    (replicaAttributes path resource).Settled (replicaAttributes path resource) grid log := by
  refine .bind (.mapError (leafBundle_settled resource)) fun leaves mid _ => ?_
  refine .bind (.mapError (.queryRows ..)) fun rows mid _ => ?_
  cases rows with
  | nil => exact .fail _
  | cons row rest => exact .pure _

theorem Verification.knownChecksum_settled (path resource cached : String) :
    (knownChecksum path resource cached).Settled (knownChecksum path resource cached) grid
      log := by
  unfold knownChecksum
  split
  · exact .pure _
  · exact .mapError (.ask _)

theorem Verification.compare_settled (mode : VerificationMode) (path source destination : String)
    (atSource atDestination : ReplicaAttributes) :
    (compare mode path source destination atSource atDestination).Settled
      (compare mode path source destination atSource atDestination) grid log := by
  cases mode with
  | catalog => exact .pure _
  | filesystem =>
    unfold compare
    dsimp only
    split
    · exact .fail _
    · exact .bind (.mapError (.ask _)) fun _ _ _ => .pure _
  | checksum =>
    refine .bind (knownChecksum_settled ..) fun first mid _ => ?_
    exact .bind (knownChecksum_settled ..) fun second mid _ => .pure _

theorem Verification.verify_settled (mode : VerificationMode) (path source destination : String) :
    (verify mode path source destination).Settled (verify mode path source destination) grid
      log := by
  unfold verify
  dsimp only
  split
  · exact .fail _
  split
  · exact .fail _
  split
  · exact .fail _
  refine .bind (replicaAttributes_settled ..) fun atSource mid _ => ?_
  refine .bind (replicaAttributes_settled ..) fun atDestination mid _ => ?_
  exact compare_settled ..

theorem Replication.copyToAll_settled (policy : String) (captured : Capture)
    (destinations : List String) :
    (copyToAll policy captured destinations).Settled (copyToAll policy captured destinations)
      grid log := by
  induction destinations generalizing log with
  | nil => exact .pure _
  | cons destination rest ih =>
    refine .bind (.attempt (.ask _)) fun result mid _ => ?_
    refine .bind ih fun failures mid _ => ?_
    cases result with
    | ok _ => exact .pure _
    | error e => exact .pure _

theorem Replication.body_settled : (body invoke i).Settled (body invoke' i) grid log := by
  unfold body
  dsimp only
  split
  · exact .fail _
  split
  · exact .fail _
  · exact .pure _
  · exact .bind (.mapError (.ask _)) fun _ _ _ => .pure _
  · refine .bind (copyToAll_settled ..) fun failures mid _ => ?_
    exact .bind (.ofExcept _) fun _ _ _ => .pure _

theorem ReplicaVerification.body_settled :
    (body invoke i).Settled (body invoke' i) grid log := by
  unfold body
  dsimp only
  split
  · exact .fail _
  split
  · exact .fail _
  refine .bind (.mapError (.ask _)) fun avus mid _ => ?_
  refine .bind (.mapError (.ofExcept _)) fun mode mid _ => ?_
  refine .bind (.mapError (Verification.verify_settled ..)) fun agrees mid _ => ?_
  cases agrees with
  | true => exact .pure _
  | false => exact .fail _

theorem Retention.apply_settled (request : RetentionRequest) :
    (apply request).Settled (apply request) grid log := by
  unfold apply
  dsimp only
  split
  · exact .fail _
  refine .mapError (.bind (.queryRows ..) fun rows mid _ => ?_)
  split
  · exact .pure _
  refine .bind (.bind (.queryRows ..) fun rows mid _ => .pure _) fun decision mid _ => ?_
  refine .bind ?_ fun _ _ _ => .pure _
  cases decision with
  | unlink => exact .ask _
  | trim resources =>
    refine .bind (.forEach ?_ mid) fun _ _ _ => .pure _
    exact fun resource _ log => .ask (.trim request.userName request.logicalPath resource)
  | retain reason => exact .pure _

theorem ReplicaRetention.body_settled : (body invoke i).Settled (body invoke' i) grid log := by
  have hcapture (log : List Entry) : (capture i).Settled (capture i) grid log := by
    unfold capture
    split
    · split
      · exact .pure _
      · exact .fail _
    · exact .pure _
  have hwhitelist (log : List Entry) : (whitelist i).Settled (whitelist i) grid log := by
    unfold whitelist
    split
    · exact .pure _
    · exact .pure _
    · exact .pure _
    · exact .fail _
  have hsource (source : String) (listed : Option (List String)) (log : List Entry) :
      (checkSource i source listed).Settled (checkSource i source listed) grid log := by
    unfold checkSource
    split
    · exact .pure _
    split
    · exact .fail _
    split
    · exact .fail _
    · exact .pure _
  have hmode (source : String) (log : List Entry) :
      (mode i source).Settled (mode i source) grid log := by
    unfold mode
    split
    · exact .mapError (.ofExcept _)
    · exact .pure _
  refine .bind (hcapture log) fun captured mid _ => ?_
  refine .bind (hwhitelist mid) fun listed mid _ => ?_
  refine .bind (hsource _ _ mid) fun _ mid _ => ?_
  refine .bind (hmode _ mid) fun mode mid _ => ?_
  exact .bind (.mapError (Retention.apply_settled _)) fun _ _ _ => .pure _

theorem AccessTime.owner?_settled (query : String) :
    (owner? query).Settled (owner? query) grid log :=
  .bind (.queryRows ..) fun _ _ _ => .pure _

theorem AccessTime.writeAll_settled (policy : String) (stamp : Stamp) (paths : List String) :
    (writeAll policy stamp paths).Settled (writeAll policy stamp paths) grid log := by
  induction paths generalizing log with
  | nil => exact .pure _
  | cons path rest ih =>
    refine .bind (.attempt (.ask _)) fun result mid _ => ?_
    refine .bind ih fun failures mid _ => ?_
    cases result with
    | ok _ => exact .pure _
    | error e => exact .pure _

theorem AccessTime.body_settled : (body invoke i).Settled (body invoke' i) grid log := by
  unfold body
  dsimp only
  split
  · exact .fail _
  refine .bind .now fun now mid _ => ?_
  split
  · refine .bind (.mapError (owner?_settled _)) fun owner mid _ => ?_
    refine .bind (.mapError ?_) fun paths mid _ => ?_
    · refine .bind (.queryRows ..) fun members mid _ => ?_
      exact .bind (.queryRows ..) fun descendants mid _ => .pure _
    · refine .bind (writeAll_settled ..) fun failures mid _ => ?_
      exact .bind (.ofExcept _) fun _ _ _ => .pure _
  · refine .bind (.mapError (owner?_settled _)) fun owner mid _ => ?_
    exact .bind (.mapError (.ask _)) fun _ _ _ => .pure _

theorem FilesystemUsage.body_settled : (body invoke i).Settled (body invoke' i) grid log := by
  unfold body
  dsimp only
  split
  · exact .fail _
  refine .mapError (.bind (.ask _) fun vault mid _ => ?_)
  refine .bind (.ask _) fun stats mid _ => ?_
  split
  · exact .fail _
  · exact .bind (.ask _) fun _ _ _ => .pure _

theorem ChecksumCheck.body_settled : (body invoke i).Settled (body invoke' i) grid log := by
  unfold body
  dsimp only
  split
  · exact .fail _
  refine .bind (.mapError (.queryRows ..)) fun rows mid _ => ?_
  cases rows with
  | nil => exact .fail _
  | cons row rest =>
    dsimp only
    refine .bind (.mapError (.ask _)) fun location mid _ => ?_
    split
    · exact .fail _
    · refine .bind (.mapError (.ask _)) fun computed mid _ => ?_
      split
      · exact .fail _
      · exact .pure _

theorem ContextLog.body_settled : (body invoke i).Settled (body invoke' i) grid log := .pure _

/-- The built-in policies that invoke others. -/
def callers : List Policy :=
  [⟨QueryProcessor.name, QueryProcessor.body⟩, ⟨Movement.name, Movement.body⟩,
   ⟨Delegation.name, Delegation.body⟩, ⟨ResourcePairs.name, ResourcePairs.body⟩]

/-- What the rest of them do is settled. -/
theorem mem_callers_or_settled {p : Policy} (hp : p ∈ builtinPolicies) : p ∈ callers ∨
    ∀ invoke invoke' i grid log, (p.body invoke i).Settled (p.body invoke' i) grid log := by
  simp only [builtinPolicies, List.mem_cons, List.not_mem_nil, or_false] at hp
  rcases hp with rfl | rfl | rfl | rfl | rfl | rfl | rfl | rfl | rfl | rfl | rfl
  · exact .inl (by simp [callers])
  · exact .inl (by simp [callers])
  · exact .inr @Replication.body_settled
  · exact .inr @ReplicaVerification.body_settled
  · exact .inr @ReplicaRetention.body_settled
  · exact .inr @AccessTime.body_settled
  · exact .inr @FilesystemUsage.body_settled
  · exact .inr @ChecksumCheck.body_settled
  · exact .inr @ContextLog.body_settled
  · exact .inl (by simp [callers])
  · exact .inl (by simp [callers])

end GridPolicy
