import GridPolicy.Proofs.Retention.Plan
import Mathlib.Data.List.Basic

/-!
# What a plan takes away

Whether a plan unlinks an object, trims some of its replicas or retains them all, it takes
the replicas on certain resources away. In either mode there are candidates, which depend on
where the replicas are and on what is named, and those of them go that the rules let go. So
under stricter rules nothing goes that stayed before.

In the single mode there is at most one candidate. Without a source it is to be the replica
that is not at the destination. A destination that holds neither of the two replicas does not
decide between them, and then the first is the candidate.
-/
namespace GridPolicy

variable {mode : RetentionMode} {replicas preserved preserved' resources : List String}
  {whitelist whitelist' : Option (List String)} {source destination resource target : String}

/-- The resources whose replicas a plan takes away from those of the object. -/
def RemovalPlan.removed (replicas : List String) : RemovalPlan → List String
  | .unlink => replicas
  | .trim resources => resources
  | .retain _ => []

/-- The rules let the replica on a resource go: it is whitelisted, if there is a whitelist,
and not preserved. -/
def MayGo (preserved : List String) (whitelist : Option (List String)) (resource : String) :
    Prop :=
  (∀ listed ∈ whitelist, resource ∈ listed) ∧ resource ∉ preserved

instance : Decidable (MayGo preserved whitelist resource) :=
  inferInstanceAs (Decidable ((∀ listed ∈ whitelist, resource ∈ listed) ∧ resource ∉ preserved))

theorem removable_iff_mayGo : removable preserved whitelist resource = true ↔
    MayGo preserved whitelist resource := removable_eq_true_iff

theorem removable_eq_mayGo :
    removable preserved whitelist = fun r => decide (MayGo preserved whitelist r) := by
  funext r
  rw [Bool.eq_iff_iff, decide_eq_true_iff, removable_iff_mayGo]

/-- At least the same resources are preserved, and what is whitelisted was so before. -/
structure Stricter (preserved' : List String) (whitelist' : Option (List String))
    (preserved : List String) (whitelist : Option (List String)) : Prop where
  preserved : preserved ⊆ preserved'
  whitelist : ∀ listed ∈ whitelist, ∃ listed' ∈ whitelist', listed' ⊆ listed

theorem Stricter.mayGo (h : Stricter preserved' whitelist' preserved whitelist)
    (hgo : MayGo preserved' whitelist' resource) : MayGo preserved whitelist resource := by
  refine ⟨fun listed hlisted => ?_, fun hmem => hgo.2 (h.preserved hmem)⟩
  obtain ⟨listed', hlisted', hsubset⟩ := h.whitelist listed hlisted
  exact hsubset (hgo.1 listed' hlisted')

/-- The resources that can be meant, whatever the rules are. -/
def removalCandidates (mode : RetentionMode) (replicas : List String)
    (source destination : String) : List String :=
  match mode with
  | .removeAllReplicas => replicas
  | .trimSingleReplica => (trimTarget? replicas source destination).toList

theorem removed_planRemoveAll : (planRemoveAll replicas preserved whitelist).removed replicas =
    replicas.filter (removable preserved whitelist) := by
  cases hplan : planRemoveAll replicas preserved whitelist with
  | unlink => exact (List.filter_eq_self.mpr (planRemoveAll_eq_unlink hplan)).symm
  | trim resources => exact planRemoveAll_eq_trim hplan
  | retain reason =>
    unfold planRemoveAll at hplan
    dsimp only at hplan
    split at hplan
    · next hempty => exact (List.isEmpty_iff.mp hempty).symm
    · split at hplan <;> cases hplan

theorem removed_planTrimSingle :
    (planTrimSingle replicas preserved whitelist source destination).removed replicas =
      (trimTarget? replicas source destination).toList.filter (removable preserved whitelist) := by
  unfold planTrimSingle
  split
  · next hnone => simp [hnone, RemovalPlan.removed]
  · next target htarget =>
    cases hremovable : removable preserved whitelist target <;>
      simp [htarget, hremovable, RemovalPlan.removed]

/-- In either mode the candidates go that the rules let go, in their order. -/
theorem removed_planRemoval :
    (planRemoval mode replicas preserved whitelist source destination).removed replicas =
      (removalCandidates mode replicas source destination).filter
        fun r => MayGo preserved whitelist r := by
  rw [← removable_eq_mayGo]
  cases mode with
  | removeAllReplicas => exact removed_planRemoveAll
  | trimSingleReplica => exact removed_planTrimSingle

/-- The object goes altogether only if it has replicas. -/
theorem planRemoveAll_eq_unlink_iff : planRemoveAll replicas preserved whitelist = .unlink ↔
    replicas ≠ [] ∧ (planRemoveAll replicas preserved whitelist).removed replicas = replicas := by
  rw [removed_planRemoveAll, List.filter_eq_self]
  constructor
  · intro hplan
    refine ⟨?_, planRemoveAll_eq_unlink hplan⟩
    rintro rfl
    cases hplan
  · rintro ⟨hne, hall⟩
    have hkept := List.filter_eq_self.mpr hall
    simp [planRemoveAll, hkept, hne]

theorem planRemoveAll_eq_retain_iff :
    (∃ reason, planRemoveAll replicas preserved whitelist = .retain reason) ↔
      (planRemoveAll replicas preserved whitelist).removed replicas = [] := by
  constructor
  · rintro ⟨reason, hplan⟩
    rw [hplan]
    rfl
  · intro hnone
    rw [removed_planRemoveAll] at hnone
    exact ⟨.nothingRemovable, by simp [planRemoveAll, hnone]⟩

theorem length_removed_planTrimSingle_le :
    ((planTrimSingle replicas preserved whitelist source destination).removed replicas).length ≤
      1 := by
  rw [removed_planTrimSingle]
  refine Nat.le_trans (List.length_filter_le ..) ?_
  cases trimTarget? replicas source destination <;> simp

theorem Stricter.removed_sublist (h : Stricter preserved' whitelist' preserved whitelist) :
    ((planRemoval mode replicas preserved' whitelist' source destination).removed replicas).Sublist
      ((planRemoval mode replicas preserved whitelist source destination).removed replicas) := by
  rw [removed_planRemoval, removed_planRemoval]
  refine List.monotone_filter_right _ fun r hr => ?_
  rw [decide_eq_true_iff] at hr ⊢
  exact h.mayGo hr

/-- To remove all replicas is to remove exactly those that the rules let go; to trim one is to
remove at most one, chosen whatever the rules are. In both modes what stayed stays under
stricter rules. -/
theorem planRemoval_exact_monotone (replicas : List String) (source destination : String) :
    (∀ preserved whitelist,
      let plan := planRemoval .removeAllReplicas replicas preserved whitelist source destination
      plan.removed replicas = replicas.filter (fun r => MayGo preserved whitelist r) ∧
      (plan = .unlink ↔ replicas ≠ [] ∧ plan.removed replicas = replicas) ∧
      ((∃ reason, plan = .retain reason) ↔ plan.removed replicas = [])) ∧
    (∃ candidate : Option String, ∀ preserved whitelist,
      let plan := planRemoval .trimSingleReplica replicas preserved whitelist source destination
      plan.removed replicas = candidate.toList.filter (fun r => MayGo preserved whitelist r) ∧
      (plan.removed replicas).length ≤ 1) ∧
    ∀ mode preserved whitelist preserved' whitelist',
      Stricter preserved' whitelist' preserved whitelist →
      ((planRemoval mode replicas preserved' whitelist' source destination).removed
        replicas).Sublist
          ((planRemoval mode replicas preserved whitelist source destination).removed replicas) :=
  ⟨fun _ _ => ⟨removed_planRemoval, planRemoveAll_eq_unlink_iff, planRemoveAll_eq_retain_iff⟩,
    ⟨_, fun _ _ => ⟨removed_planRemoval, length_removed_planTrimSingle_le⟩⟩,
    fun _ _ _ _ _ hstricter => hstricter.removed_sublist⟩

/-- To preserve a resource as well and to whitelist only some of those that hold replicas
leaves one replica to trim where the object would have gone altogether. -/
theorem planRemoval_exact_monotone_whitelisted :
    Stricter ["B"] (some ["A", "B"]) [] none ∧
    planRemoval .removeAllReplicas ["A", "B", "C"] [] none "" "" = .unlink ∧
    planRemoval .removeAllReplicas ["A", "B", "C"] ["B"] (some ["A", "B"]) "" "" = .trim ["A"] ∧
    ["A"].Sublist ["A", "B", "C"] := by
  have hstricter : Stricter ["B"] (some ["A", "B"]) [] none := ⟨by simp, by simp⟩
  exact ⟨hstricter, by decide, by decide,
    (planRemoval_exact_monotone ["A", "B", "C"] "" "").2.2 .removeAllReplicas _ _ _ _ hstricter⟩

/-- Without a source one of exactly two replicas is chosen: the first that is not at the
destination. -/
theorem trimTarget?_without_source (h : destination ≠ "") :
    trimTarget? replicas "" destination = some target ↔
      target ≠ destination ∧
        ((∃ other, replicas = [target, other]) ∨ replicas = [destination, target]) := by
  have hfind : trimTarget? replicas "" destination =
      if replicas.length = 2 then replicas.find? fun r => r != destination else none := by
    simp [trimTarget?, h]
  rw [hfind]
  rcases replicas with _ | ⟨first, _ | ⟨second, _ | ⟨third, rest⟩⟩⟩
  · simp
  · simp
  · have hchosen : [first, second].find? (fun r => r != destination) =
        if first = destination then (if second = destination then none else some second)
        else some first := by
      by_cases hfirst : first = destination <;> by_cases hsecond : second = destination <;>
        simp [hfirst, hsecond]
    rw [if_pos (by rfl), hchosen]
    grind
  · simp

theorem planTrimSingle_eq_trim_iff :
    planTrimSingle replicas preserved whitelist source destination = .trim resources ↔
      ∃ target, resources = [target] ∧ trimTarget? replicas source destination = some target ∧
        MayGo preserved whitelist target := by
  constructor
  · intro hplan
    obtain ⟨target, hresources, htarget, hremovable⟩ := planTrimSingle_eq_trim hplan
    exact ⟨target, hresources, htarget, removable_iff_mayGo.mp hremovable⟩
  · rintro ⟨target, rfl, htarget, hgo⟩
    simp [planTrimSingle, htarget, removable_iff_mayGo.mpr hgo]

/-- Without a source a destination that holds a replica keeps it: what is trimmed is the
other one of exactly two. A destination that holds none decides nothing: then the first of
exactly two replicas is trimmed. -/
theorem planRemoval_without_source (h : destination ≠ "") :
    (destination ∈ replicas → ∀ resources,
      planRemoval .trimSingleReplica replicas preserved whitelist "" destination =
          .trim resources ↔
        ∃ other, resources = [other] ∧ other ≠ destination ∧ MayGo preserved whitelist other ∧
          (replicas = [other, destination] ∨ replicas = [destination, other])) ∧
    (destination ∉ replicas → ∀ resources,
      planRemoval .trimSingleReplica replicas preserved whitelist "" destination =
          .trim resources ↔
        ∃ first second, replicas = [first, second] ∧ resources = [first] ∧
          MayGo preserved whitelist first) ∧
    ((∃ resources, planRemoval .trimSingleReplica replicas preserved whitelist "" destination =
        .trim resources) ∨
      ∃ reason, planRemoval .trimSingleReplica replicas preserved whitelist "" destination =
        .retain reason) := by
  unfold planRemoval
  refine ⟨fun hmem resources => ?_, fun hmem resources => ?_, ?_⟩
  · rw [planTrimSingle_eq_trim_iff]
    simp only [trimTarget?_without_source h]
    constructor
    · rintro ⟨target, rfl, ⟨hne, ⟨other, rfl⟩ | rfl⟩, hgo⟩
      · obtain rfl : destination = other := by simpa [hne.symm] using hmem
        exact ⟨target, rfl, hne, hgo, .inl rfl⟩
      · exact ⟨target, rfl, hne, hgo, .inr rfl⟩
    · rintro ⟨other, rfl, hne, hgo, rfl | rfl⟩
      · exact ⟨other, rfl, ⟨hne, .inl ⟨_, rfl⟩⟩, hgo⟩
      · exact ⟨other, rfl, ⟨hne, .inr rfl⟩, hgo⟩
  · rw [planTrimSingle_eq_trim_iff]
    simp only [trimTarget?_without_source h]
    constructor
    · rintro ⟨target, rfl, ⟨-, ⟨other, rfl⟩ | rfl⟩, hgo⟩
      · exact ⟨target, other, rfl, rfl, hgo⟩
      · simp at hmem
    · rintro ⟨first, second, rfl, rfl, hgo⟩
      have hne : first ≠ destination := fun heq => hmem (by simp [heq])
      exact ⟨first, rfl, ⟨hne, .inl ⟨second, rfl⟩⟩, hgo⟩
  · cases hplan : planTrimSingle replicas preserved whitelist "" destination with
    | unlink => exact absurd hplan planTrimSingle_ne_unlink
    | trim resources => exact .inl ⟨resources, rfl⟩
    | retain reason => exact .inr ⟨reason, rfl⟩

/-- One of two replicas is trimmed although the copy that is to stay does not exist. -/
theorem planRemoval_without_source_elsewhere :
    planRemoval .trimSingleReplica ["A", "B"] [] none "" "C" = .trim ["A"] ∧
    planRemoval .trimSingleReplica ["A", "B"] [] none "" "A" = .trim ["B"] :=
  ⟨((planRemoval_without_source (by decide)).2.1 (by decide) _).mpr
      ⟨"A", "B", rfl, rfl, by decide⟩,
    ((planRemoval_without_source (by decide)).1 (by decide) _).mpr
      ⟨"B", rfl, by decide, by decide, .inr rfl⟩⟩

end GridPolicy
