import GridPolicy.Proofs.Run.Additions
import GridPolicy.Verification

/-!
# Verification only looks

To compare two replicas nothing is changed: the catalog and the storage are asked,
in whatever mode, and whatever they answer. Without a source nothing is compared.
-/
namespace GridPolicy

variable {kind : Entry → Prop}

theorem leafBundle_adds {resource : String} (h : kind (.call (.leafBundle resource))) :
    (leafBundle resource).AddsOnly kind := by
  unfold leafBundle
  refine .bind (.mapError (.ask h)) ?_
  intro ids
  by_cases h : ids.isEmpty
  · simp only [h, ↓reduceIte, Run.fail_bind]
    exact .fail _
  · simp only [h, Bool.false_eq_true, ↓reduceIte]
    exact .pure _

namespace Verification

/-- To look a replica up is to ask for leaves and to query the catalog. -/
theorem replicaAttributes_adds {path resource : String}
    (hleaves : kind (.call (.leafBundle resource)))
    (hquery : ∀ text limit query, kind (.call (.query text limit query))) :
    (replicaAttributes path resource).AddsOnly kind := by
  unfold replicaAttributes
  refine .bind (.mapError (leafBundle_adds hleaves)) ?_
  intro leaves
  refine .bind (.mapError (.queryRows (hquery _ _ _))) ?_
  rintro (_ | ⟨row, _⟩)
  · exact .fail _
  · exact .pure _

theorem replicaAttributes_looks (path resource : String) :
    (replicaAttributes path resource).AddsOnly (fun e => e.looks = true) :=
  replicaAttributes_adds rfl fun _ _ _ => rfl

theorem knownChecksum_looks (path resource cached : String) :
    (knownChecksum path resource cached).AddsOnly (fun e => e.looks = true) := by
  unfold knownChecksum
  split
  · exact .pure _
  · exact .mapError (.ask rfl)

theorem compare_looks (mode : VerificationMode) (path source destination : String)
    (atSource atDestination : ReplicaAttributes) :
    (compare mode path source destination atSource atDestination).AddsOnly
      (fun e => e.looks = true) := by
  cases mode with
  | catalog => exact .pure _
  | filesystem =>
    unfold compare
    dsimp only
    split
    · exact .fail _
    · exact .bind (.mapError (.ask rfl)) fun _ => .pure _
  | checksum =>
    refine .bind (knownChecksum_looks path source _) ?_
    intro first
    refine .bind (knownChecksum_looks path destination _) ?_
    intro second
    exact .pure _

theorem verify_looks (mode : VerificationMode) (path source destination : String) :
    (verify mode path source destination).AddsOnly (fun e => e.looks = true) := by
  have hfail (name : String) (next : Unit → Run VerificationError Bool) :
      (Run.fail (.missingInput name) >>= next).AddsOnly (fun e => e.looks = true) := .fail _
  unfold verify
  dsimp only
  split
  · exact hfail _ _
  split
  · exact hfail _ _
  split
  · exact hfail _ _
  refine .bind (replicaAttributes_looks path source) ?_
  intro atSource
  refine .bind (replicaAttributes_looks path destination) ?_
  intro atDestination
  exact compare_looks mode path source destination atSource atDestination

/-- With everything named, two lookups come before the comparison. -/
theorem verify_eq {mode : VerificationMode} {path source destination : String}
    (hpath : path ≠ "") (hsource : source ≠ "") (hdestination : destination ≠ "") :
    verify mode path source destination = (do
      let atSource ← replicaAttributes path source
      let atDestination ← replicaAttributes path destination
      compare mode path source destination atSource atDestination) := by
  unfold verify
  simp only [hpath, hsource, hdestination, beq_iff_eq, ↓reduceIte]

/-- Only the replica of a source that is named is ever found to agree. -/
theorem source_ne_empty_of_verify {mode : VerificationMode} {path source destination : String}
    {grid : Grid} {log after : List Entry} {agrees : Bool}
    (h : verify mode path source destination grid log = (.done agrees, after)) :
    source ≠ "" := by
  rintro rfl
  unfold verify at h
  dsimp only at h
  split at h
  · cases h
  · cases h

end Verification

end GridPolicy
