import GridPolicy.Proofs.Capture.Hierarchy

/-!
# Which resource is captured

Parameters name a resource in up to three places: outright, at one end of a hierarchy among the
keywords of the call, or by a name there. What is captured is what the first of these names, with
one exception. A hierarchy that is given but has no resource in it names none, and yet it keeps
the name behind it from being looked at. Such a name is hidden, and retention, which goes by the
captured source if no mode is configured, then considers all replicas instead of the named one.
-/
namespace GridPolicy

/-- The two resources that are captured. -/
inductive ResourceRole where
  | source
  | destination
  deriving DecidableEq, Repr

namespace ResourceRole

/-- The field that names the resource outright. -/
def key : ResourceRole → String
  | .source => Key.sourceResource
  | .destination => Key.destinationResource

/-- The keyword of its hierarchy. -/
def hierarchyKey : ResourceRole → String
  | .source => "resc_hier"
  | .destination => "dest_resc_hier"

/-- The keyword of its name. -/
def nameKey : ResourceRole → String
  | .source => "resc_name"
  | .destination => "dest_resc_name"

end ResourceRole

/-- The captured resource in one of the two roles. -/
def Capture.resource (c : Capture) : ResourceRole → String
  | .source => c.sourceResource
  | .destination => c.destinationResource

theorem resource_ofParameters (parameters : Document) (role : ResourceRole) (tag : HierarchyEnd) :
    (Capture.ofParameters parameters tag).resource role =
      captureResource parameters role.key role.hierarchyKey role.nameKey tag := by
  cases role <;> rfl

namespace Document

/-- The field is a scalar with a text that is not empty. -/
def Gives (d : Document) (key s : String) : Prop :=
  ∃ value, d.get? key = some value ∧ value.scalarText? = some s ∧ s ≠ ""

/-- A keyword of the call is such a field. -/
def KeywordGives (parameters : Document) (key s : String) : Prop :=
  ∃ input, parameters.get? Key.condInput = some input ∧ input.Gives key s

variable {d : Document} {key s : String}

theorem Gives.ne_empty (h : d.Gives key s) : s ≠ "" := by
  obtain ⟨_, -, -, hfilled⟩ := h
  exact hfilled

theorem filledField?_eq_some : d.filledField? key = some s ↔ d.Gives key s := by
  simp only [filledField?, textField?, Option.filter_eq_some_iff, Option.bind_eq_some_iff,
    bne_iff_ne, Gives]
  constructor
  · rintro ⟨⟨value, hvalue, htext⟩, hne⟩
    exact ⟨value, hvalue, htext, hne⟩
  · rintro ⟨value, hvalue, htext, hne⟩
    exact ⟨⟨value, hvalue, htext⟩, hne⟩

theorem filledField?_eq_none : d.filledField? key = none ↔ ∀ s, ¬ d.Gives key s := by
  simp only [← filledField?_eq_some, Option.eq_none_iff_forall_ne_some, ne_eq]

/-- The keyword input that is read, if there is any. -/
theorem keyword_eq_some : ((d.get? Key.condInput).getD .null).filledField? key = some s ↔
    d.KeywordGives key s := by
  rw [filledField?_eq_some]
  cases hinput : d.get? Key.condInput with
  | none =>
    have hnull : ¬ Document.null.Gives key s := by
      rintro ⟨value, hvalue, -⟩
      cases hvalue
    simp [KeywordGives, hinput, hnull]
  | some input => simp [KeywordGives, hinput]

theorem keyword_eq_none : ((d.get? Key.condInput).getD .null).filledField? key = none ↔
    ∀ s, ¬ d.KeywordGives key s := by
  simp only [← keyword_eq_some, Option.eq_none_iff_forall_ne_some, ne_eq]

end Document

section

variable (parameters : Document) (role : ResourceRole)

/-- The parameters name the resource: outright, or else at the end of the hierarchy, or else,
where no hierarchy has a resource, by its name. -/
inductive NamesResource (tag : HierarchyEnd) : String → Prop
  | outright {s : String} : parameters.Gives role.key s → NamesResource tag s
  | hierarchy {hierarchy s : String} : (∀ t, ¬ parameters.Gives role.key t) →
      parameters.KeywordGives role.hierarchyKey hierarchy → StandsAt hierarchy tag s →
      NamesResource tag s
  | name {s : String} : (∀ t, ¬ parameters.Gives role.key t) →
      (∀ t, parameters.KeywordGives role.hierarchyKey t → OnlySeparators t) →
      parameters.KeywordGives role.nameKey s → NamesResource tag s

/-- None of the places names a resource. -/
structure NamesNone : Prop where
  outright : ∀ s, ¬ parameters.Gives role.key s
  hierarchy : ∀ t, parameters.KeywordGives role.hierarchyKey t → OnlySeparators t
  name : ∀ s, ¬ parameters.KeywordGives role.nameKey s

/-- The resource is named only behind a hierarchy that is given and has none. -/
structure NameHidden : Prop where
  outright : ∀ s, ¬ parameters.Gives role.key s
  hierarchy : ∃ t, parameters.KeywordGives role.hierarchyKey t ∧ OnlySeparators t
  name : ∃ s, parameters.KeywordGives role.nameKey s

end

variable {parameters : Document} {role : ResourceRole} {tag : HierarchyEnd} {s t : String}

/-! What is captured, by the first place that gives a text -/

theorem resource_of_outright (h : parameters.Gives role.key s) :
    (Capture.ofParameters parameters tag).resource role = s := by
  rw [resource_ofParameters, captureResource, Document.filledField?_eq_some.mpr h]
  rfl

theorem resource_of_hierarchy (hno : ∀ s, ¬ parameters.Gives role.key s)
    (h : parameters.KeywordGives role.hierarchyKey t) :
    (Capture.ofParameters parameters tag).resource role = hierarchyResource t tag := by
  rw [resource_ofParameters, captureResource, Document.filledField?_eq_none.mpr hno]
  simp only [Document.keyword_eq_some.mpr h]
  rfl

theorem resource_of_name (hno : ∀ s, ¬ parameters.Gives role.key s)
    (hnone : ∀ t, ¬ parameters.KeywordGives role.hierarchyKey t)
    (h : parameters.KeywordGives role.nameKey s) :
    (Capture.ofParameters parameters tag).resource role = s := by
  rw [resource_ofParameters, captureResource, Document.filledField?_eq_none.mpr hno]
  simp only [Document.keyword_eq_none.mpr hnone, Document.keyword_eq_some.mpr h]
  rfl

theorem resource_of_none (hno : ∀ s, ¬ parameters.Gives role.key s)
    (hnone : ∀ t, ¬ parameters.KeywordGives role.hierarchyKey t)
    (hunnamed : ∀ s, ¬ parameters.KeywordGives role.nameKey s) :
    (Capture.ofParameters parameters tag).resource role = "" := by
  rw [resource_ofParameters, captureResource, Document.filledField?_eq_none.mpr hno]
  simp only [Document.keyword_eq_none.mpr hnone, Document.keyword_eq_none.mpr hunnamed]
  rfl

/-! What is captured, by what is named -/

theorem Document.KeywordGives.unique {d : Document} {key : String} (hs : d.KeywordGives key s)
    (ht : d.KeywordGives key t) : s = t := by
  rw [← keyword_eq_some] at hs ht
  exact Option.some.inj (hs.symm.trans ht)

theorem Document.KeywordGives.ne_empty {d : Document} {key : String}
    (h : d.KeywordGives key s) : s ≠ "" := by
  obtain ⟨_, -, hgives⟩ := h
  exact hgives.ne_empty

theorem NamesResource.ne_empty (h : NamesResource parameters role tag s) : s ≠ "" := by
  cases h with
  | outright h => exact h.ne_empty
  | hierarchy _ _ hstands => exact hstands.filled
  | name _ _ h => exact h.ne_empty

/-- Unless no place has a resource, the first that has one names it. -/
theorem exists_namesResource (h : ¬ NamesNone parameters role) (tag : HierarchyEnd) :
    ∃ s, NamesResource parameters role tag s := by
  by_contra hnone
  have hno (s : String) : ¬ parameters.Gives role.key s := fun hs => hnone ⟨s, .outright hs⟩
  have honly (t : String) (ht : parameters.KeywordGives role.hierarchyKey t) :
      OnlySeparators t := by
    by_contra hmore
    obtain ⟨s, hs⟩ := exists_standsAt hmore tag
    exact hnone ⟨s, .hierarchy hno ht hs⟩
  exact h ⟨hno, honly, fun s hs => hnone ⟨s, .name hno honly hs⟩⟩

/-- A hidden name is the one by which the resource is named. -/
theorem NameHidden.namesResource (h : NameHidden parameters role) (tag : HierarchyEnd) :
    ∃ s, NamesResource parameters role tag s := by
  obtain ⟨t, ht, honly⟩ := h.hierarchy
  obtain ⟨s, hs⟩ := h.name
  exact ⟨s, .name h.outright (fun other hother => ht.unique hother ▸ honly) hs⟩

theorem resource_of_nameHidden (h : NameHidden parameters role) :
    (Capture.ofParameters parameters tag).resource role = "" := by
  obtain ⟨t, ht, honly⟩ := h.hierarchy
  rw [resource_of_hierarchy h.outright ht, hierarchyResource_eq_empty]
  exact honly

theorem resource_of_namesNone (h : NamesNone parameters role) :
    (Capture.ofParameters parameters tag).resource role = "" := by
  by_cases hgiven : ∃ t, parameters.KeywordGives role.hierarchyKey t
  · obtain ⟨t, ht⟩ := hgiven
    rw [resource_of_hierarchy h.outright ht, hierarchyResource_eq_empty]
    exact h.hierarchy t ht
  · exact resource_of_none h.outright (not_exists.mp hgiven) h.name

theorem resource_of_namesResource (h : NamesResource parameters role tag s)
    (hshown : ¬ NameHidden parameters role) :
    (Capture.ofParameters parameters tag).resource role = s := by
  cases h with
  | outright h => exact resource_of_outright h
  | hierarchy hno h hstands =>
    exact (resource_of_hierarchy hno h).trans (hierarchyResource_of_standsAt hstands)
  | name hno honly h =>
    -- a hierarchy that is given here would hide the name
    have hnone (t : String) (ht : parameters.KeywordGives role.hierarchyKey t) : False :=
      hshown ⟨hno, ⟨t, ht, honly t ht⟩, s, h⟩
    exact resource_of_name hno hnone h

/-- A resource that is named is captured, unless the name is hidden. -/
theorem resource_eq_iff (h : NamesResource parameters role tag s) :
    (Capture.ofParameters parameters tag).resource role = s ↔ ¬ NameHidden parameters role := by
  refine ⟨fun heq hhidden => h.ne_empty ?_, resource_of_namesResource h⟩
  rw [← heq]
  exact resource_of_nameHidden hhidden

/-- None is captured where none is named, and where the name is hidden. -/
theorem resource_eq_empty : (Capture.ofParameters parameters tag).resource role = "" ↔
    NamesNone parameters role ∨ NameHidden parameters role := by
  constructor
  · intro hempty
    by_contra hnot
    obtain ⟨hnamed, hshown⟩ := not_or.mp hnot
    obtain ⟨s, hs⟩ := exists_namesResource hnamed tag
    exact hs.ne_empty ((resource_of_namesResource hs hshown).symm.trans hempty)
  · rintro (hnone | hhidden)
    · exact resource_of_namesNone hnone
    · exact resource_of_nameHidden hhidden

end GridPolicy
