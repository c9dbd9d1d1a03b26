import GridPolicy.Text.Ordered
import Mathlib.Data.List.Nodup

/-!
# The ordered form of texts

The ordered form is ascending, so no text stands in it twice, and it holds the texts that
it is made of. Nothing else about them matters: texts in another order, or some of them
more often, have the same ordered form.
-/
namespace GridPolicy.Text

variable {texts : List String}

theorem pairwise_insertOrdered (s : String) (h : texts.Pairwise (· < ·)) :
    (insertOrdered s texts).Pairwise (· < ·) := by
  induction texts with
  | nil => exact List.pairwise_singleton ..
  | cons t rest ih =>
    obtain ⟨hfirst, hrest⟩ := List.pairwise_cons.mp h
    unfold insertOrdered
    by_cases heq : s = t
    · rwa [if_pos heq]
    rw [if_neg heq]
    by_cases hlt : s < t
    · rw [if_pos hlt]
      refine List.pairwise_cons.mpr ⟨?_, h⟩
      intro other hother
      rcases List.mem_cons.mp hother with rfl | hother
      · exact hlt
      · exact String.lt_trans hlt (hfirst other hother)
    · rw [if_neg hlt]
      refine List.pairwise_cons.mpr ⟨?_, ih hrest⟩
      intro other hother
      rcases mem_insertOrdered.mp hother with rfl | hother
      · exact Std.lt_of_le_of_ne (String.not_lt.mp hlt) (Ne.symm heq)
      · exact hfirst other hother

theorem pairwise_ordered (texts : List String) : (ordered texts).Pairwise (· < ·) := by
  induction texts with
  | nil => exact .nil
  | cons s rest ih => exact pairwise_insertOrdered s ih

theorem nodup_ordered (texts : List String) : (ordered texts).Nodup :=
  (pairwise_ordered texts).imp fun hlt => Std.ne_of_lt hlt

/-- Texts with the same members have the same ordered form. -/
theorem ordered_congr {others : List String} (h : ∀ t, t ∈ texts ↔ t ∈ others) :
    ordered texts = ordered others := by
  have hsame : ∀ t, t ∈ ordered texts ↔ t ∈ ordered others := by
    intro t
    rw [mem_ordered, mem_ordered, h]
  have hperm : (ordered texts).Perm (ordered others) :=
    (List.perm_ext_iff_of_nodup (nodup_ordered _) (nodup_ordered _)).mpr hsame
  refine hperm.eq_of_pairwise ?_ (pairwise_ordered _) (pairwise_ordered _)
  intro s t _ _ hst hts
  exact absurd hts (Std.not_gt_of_lt hst)

end GridPolicy.Text
