import GridPolicy.Retention

/-!
# What a plan removes

The plan is the only place where it is decided what goes. Whatever it removes is
whitelisted and not preserved, and is one of the resources that the catalog is
asked about for preservation. In the single mode there is at most one such resource.
-/
namespace GridPolicy

variable {mode : RetentionMode} {replicas preserved resources : List String}
  {whitelist : Option (List String)} {source destination resource target : String}

theorem removable_eq_true_iff : removable preserved whitelist resource = true ↔
    (∀ listed, whitelist = some listed → resource ∈ listed) ∧ resource ∉ preserved := by
  cases whitelist <;> simp [removable]

namespace Retention

end Retention

theorem trimTarget?_of_source (h : source ≠ "") :
    trimTarget? replicas source destination = some source := by simp [trimTarget?, h]

/-- Without a source the replica to trim is one of the two, and not the one that
is to stay. -/
theorem mem_of_trimTarget? (h : trimTarget? replicas "" destination = some target) :
    target ∈ replicas ∧ target ≠ destination := by
  simp only [trimTarget?, bne_self_eq_false, Bool.false_eq_true, ↓reduceIte] at h
  split at h
  · exact ⟨List.mem_of_find?_eq_some h, by simpa using List.find?_some h⟩
  · cases h

theorem planTrimSingle_ne_unlink :
    planTrimSingle replicas preserved whitelist source destination ≠ .unlink := by
  unfold planTrimSingle
  split
  · simp
  · split <;> simp

theorem planTrimSingle_eq_trim
    (h : planTrimSingle replicas preserved whitelist source destination = .trim resources) :
    ∃ target, resources = [target] ∧ trimTarget? replicas source destination = some target ∧
      removable preserved whitelist target = true := by
  unfold planTrimSingle at h
  split at h
  · cases h
  · next target htarget =>
    split at h
    · next hremovable =>
      rw [RemovalPlan.trim.injEq] at h
      exact ⟨target, h.symm, htarget, hremovable⟩
    · cases h

theorem planRemoveAll_eq_unlink (h : planRemoveAll replicas preserved whitelist = .unlink) :
    ∀ r ∈ replicas, removable preserved whitelist r = true := by
  unfold planRemoveAll at h
  dsimp only at h
  split at h
  · cases h
  · split at h
    · next hall => exact List.length_filter_eq_length_iff.mp (by simpa using hall)
    · cases h

theorem planRemoveAll_eq_trim (h : planRemoveAll replicas preserved whitelist = .trim resources) :
    resources = replicas.filter (removable preserved whitelist) := by
  unfold planRemoveAll at h
  dsimp only at h
  split at h
  · cases h
  · split at h
    · cases h
    · exact (RemovalPlan.trim.inj h).symm

end GridPolicy
