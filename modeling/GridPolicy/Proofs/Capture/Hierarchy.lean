import GridPolicy.Capture
import Mathlib.Data.List.Basic
import Mathlib.Data.List.TakeWhile

/-!
# The ends of a hierarchy

Separators part the resources of a hierarchy, and there may be more of them than are needed:
several in a row, or some before the root or behind the leaf. So the root and the leaf are not
told by their position. They are the resources that have nothing but separators beyond them,
and a hierarchy of separators alone has neither.
-/
namespace GridPolicy

/-- No resource stands in the hierarchy. -/
def OnlySeparators (hierarchy : String) : Prop := ∀ c ∈ hierarchy.toList, c = ';'

instance (hierarchy : String) : Decidable (OnlySeparators hierarchy) :=
  List.decidableBAll (· = ';') hierarchy.toList

/-- Beyond the resource, at one end of the text, there are only separators, and on its other side
there is a separator or nothing. -/
def Outermost (text resource : List Char) : HierarchyEnd → Prop
  | .root => ∃ k rest, text = List.replicate k ';' ++ (resource ++ rest) ∧
      ∀ c ∈ rest.head?, c = ';'
  | .leaf => ∃ k rest, text = rest ++ resource ++ List.replicate k ';' ∧
      ∀ c ∈ rest.getLast?, c = ';'

/-- The resource stands at this end of the hierarchy. -/
structure StandsAt (hierarchy : String) (tag : HierarchyEnd) (resource : String) : Prop where
  filled : resource ≠ ""
  whole : ';' ∉ resource.toList
  outermost : Outermost hierarchy.toList resource.toList tag

/-- The resources of a hierarchy that is given by its characters. -/
def segmentsOf (text : List Char) : List String :=
  ((text.splitOn ';').map String.ofList).filter fun s => s != ""

theorem hierarchySegments_eq (hierarchy : String) :
    hierarchySegments hierarchy = segmentsOf hierarchy.toList := rfl

theorem segmentsOf_append_cons (before after : List Char) :
    segmentsOf (before ++ ';' :: after) = segmentsOf before ++ segmentsOf after := by
  simp only [segmentsOf, List.splitOn_append_cons_self, List.map_append, List.filter_append]

theorem segmentsOf_cons (text : List Char) : segmentsOf (';' :: text) = segmentsOf text :=
  segmentsOf_append_cons [] text

theorem segmentsOf_whole {resource : String} (hfilled : resource ≠ "")
    (hwhole : ';' ∉ resource.toList) : segmentsOf resource.toList = [resource] := by
  simp [segmentsOf, List.splitOn_eq_singleton hwhole, hfilled]

theorem segmentsOf_separators_append (k : Nat) (text : List Char) :
    segmentsOf (List.replicate k ';' ++ text) = segmentsOf text := by
  induction k with
  | zero => rfl
  | succ k ih => rw [List.replicate_succ, List.cons_append, segmentsOf_cons, ih]

theorem segmentsOf_separators (k : Nat) : segmentsOf (List.replicate k ';') = [] := by
  rw [← List.append_nil (List.replicate k ';'), segmentsOf_separators_append]
  rfl

theorem segmentsOf_append_separators (text : List Char) (k : Nat) :
    segmentsOf (text ++ List.replicate k ';') = segmentsOf text := by
  cases k with
  | zero => rw [List.replicate_zero, List.append_nil]
  | succ k =>
    rw [List.replicate_succ, segmentsOf_append_cons, segmentsOf_separators, List.append_nil]

/-- The first resource of a text that has one, with what is before and behind it. -/
theorem exists_first_resource {text : List Char} (h : ∃ c ∈ text, c ≠ ';') :
    ∃ k resource rest, text = List.replicate k ';' ++ (resource ++ rest) ∧
      resource ≠ [] ∧ ';' ∉ resource ∧ ∀ c ∈ rest.head?, c = ';' := by
  induction text with
  | nil => simp at h
  | cons c text ih =>
    by_cases hc : c = ';'
    · subst hc
      obtain ⟨k, resource, rest, rfl, hresource⟩ := ih (by simpa using h)
      exact ⟨k + 1, resource, rest, rfl, hresource⟩
    · refine ⟨0, c :: text.takeWhile (· ≠ ';'), text.dropWhile (· ≠ ';'), ?_, by simp, ?_, ?_⟩
      · simp
      · intro hmem
        rcases List.mem_cons.mp hmem with heq | htaken
        · exact hc heq.symm
        · simpa using List.mem_takeWhile_imp htaken
      · intro d hd
        have hstop := List.head?_dropWhile_not (· ≠ ';') text
        rw [Option.mem_def.mp hd] at hstop
        simpa using hstop

variable {hierarchy resource : String} {tag : HierarchyEnd}

theorem hierarchyResource_of_standsAt (h : StandsAt hierarchy tag resource) :
    hierarchyResource hierarchy tag = resource := by
  have hsingle := segmentsOf_whole h.filled h.whole
  have hplace := h.outermost
  cases tag with
  | root =>
    obtain ⟨k, rest, htext, hrest⟩ := hplace
    rw [hierarchyResource, hierarchySegments_eq, htext, segmentsOf_separators_append]
    cases rest with
    | nil => rw [List.append_nil, hsingle]; rfl
    | cons c rest =>
      obtain rfl : c = ';' := hrest c rfl
      rw [segmentsOf_append_cons, hsingle]
      rfl
  | leaf =>
    obtain ⟨k, rest, htext, hrest⟩ := hplace
    rw [hierarchyResource, hierarchySegments_eq, htext, segmentsOf_append_separators]
    rcases List.eq_nil_or_concat' rest with rfl | ⟨rest, c, rfl⟩
    · rw [List.nil_append, hsingle]; rfl
    · obtain rfl : c = ';' := hrest c (by simp)
      rw [List.append_assoc, List.singleton_append, segmentsOf_append_cons, hsingle]
      simp

theorem hierarchyResource_of_onlySeparators (h : OnlySeparators hierarchy) (tag : HierarchyEnd) :
    hierarchyResource hierarchy tag = "" := by
  have hnone : hierarchySegments hierarchy = [] := by
    rw [hierarchySegments_eq, List.eq_replicate_of_mem h, segmentsOf_separators]
  cases tag <;> simp [hierarchyResource, hnone]

/-- A hierarchy that is more than separators has both ends. -/
theorem exists_standsAt (h : ¬ OnlySeparators hierarchy) (tag : HierarchyEnd) :
    ∃ resource, StandsAt hierarchy tag resource := by
  have hsome : ∃ c ∈ hierarchy.toList, c ≠ ';' := by simpa [OnlySeparators] using h
  cases tag with
  | root =>
    obtain ⟨k, resource, rest, htext, hfilled, hwhole, hrest⟩ := exists_first_resource hsome
    exact ⟨String.ofList resource, by simpa using hfilled, by simpa using hwhole, k, rest,
      by simpa using htext, hrest⟩
  | leaf =>
    -- the leaf of a hierarchy is the root of the hierarchy read backwards
    have hback : ∃ c ∈ hierarchy.toList.reverse, c ≠ ';' := by simpa using hsome
    obtain ⟨k, resource, rest, htext, hfilled, hwhole, hrest⟩ := exists_first_resource hback
    have hforth : hierarchy.toList =
        rest.reverse ++ resource.reverse ++ List.replicate k ';' := by
      rw [← List.reverse_reverse hierarchy.toList, htext]
      simp
    exact ⟨String.ofList resource.reverse, by simpa using hfilled, by simpa using hwhole, k,
      rest.reverse, by simpa using hforth, by simpa using hrest⟩

theorem hierarchyResource_eq_empty : hierarchyResource hierarchy tag = "" ↔
    OnlySeparators hierarchy := by
  refine ⟨fun hempty => ?_, fun h => hierarchyResource_of_onlySeparators h tag⟩
  by_contra hmore
  obtain ⟨resource, hstands⟩ := exists_standsAt hmore tag
  exact hstands.filled ((hierarchyResource_of_standsAt hstands).symm.trans hempty)

end GridPolicy
