import GridPolicy.Proofs.Capture.Resource
import GridPolicy.Proofs.Retention.Removed
import GridPolicy.Proofs.Retention.Safety

/-!
# What is removed by the name of the source

If no mode is configured, the captured source decides what retention may remove: the replica at
the source, or all of them if there is no source. So much depends on capture to give a source up
only where none is named. It does, unless the name is hidden behind a hierarchy without a
resource, and then all replicas may go where one was named.
-/
namespace GridPolicy

/-- What is captured for a resource, by what is named. -/
structure CapturesNamed (parameters : Document) (role : ResourceRole) (tag : HierarchyEnd)
    (resource : String) : Prop where
  /-- A resource that is named is captured, unless the name is hidden. -/
  named : ∀ s, NamesResource parameters role tag s →
    (resource = s ↔ ¬ NameHidden parameters role)
  /-- None is captured where none is named, and where the name is hidden. -/
  empty : resource = "" ↔ NamesNone parameters role ∨ NameHidden parameters role
  /-- What is hidden is the name of a resource. -/
  hidden : NameHidden parameters role → ∃ s, NamesResource parameters role tag s

theorem capturesNamed (parameters : Document) (role : ResourceRole) (tag : HierarchyEnd) :
    CapturesNamed parameters role tag ((Capture.ofParameters parameters tag).resource role) where
  named _ := resource_eq_iff
  empty := resource_eq_empty
  hidden h := h.namesResource tag

namespace ReplicaRetention

variable {parameters configuration : Document} {request : RetentionRequest}

/-- The parameters hold no row of a query, and no mode is configured. -/
structure Unguided (parameters configuration : Document) : Prop where
  rowless : ∀ row, parameters.get? Key.queryResults ≠ some (.array row)
  modeless : configuration.filledField? "mode" = none

theorem sourceNamed_of_rowless (h : ∀ row, parameters.get? Key.queryResults ≠ some (.array row)) :
    sourceNamed parameters = (Capture.ofParameters parameters .root).resource .source := by
  unfold sourceNamed
  split
  · next row hrow => exact absurd hrow (h row)
  · rfl

/-- Without a mode a source that is named is the only candidate, and else there are all replicas. -/
theorem Accepted.candidates (h : Accepted parameters configuration request)
    (hmodeless : configuration.filledField? "mode" = none) (replicas : List String) :
    removalCandidates request.mode replicas request.sourceResource request.destinationResource =
      if sourceNamed parameters = "" then replicas else [sourceNamed parameters] := by
  have hsource : request.sourceResource = sourceNamed parameters :=
    sourceNamed_of_capturedFrom h.captured
  have hmode := h.mode
  rw [ModeFor, hmodeless] at hmode
  dsimp only at hmode
  rw [hmode, hsource]
  by_cases hempty : sourceNamed parameters = ""
  · rw [if_pos hempty, if_pos hempty]
    rfl
  · rw [if_neg hempty, if_neg hempty, removalCandidates, trimTarget?_of_source hempty]
    rfl

/-- Which replicas may be removed, by what is named as the source. -/
structure GoesByName (parameters : Document) (request : RetentionRequest) : Prop where
  /-- The one at the source that is named, unless the name is hidden. -/
  named : ∀ s, NamesResource parameters .source .root s → ¬ NameHidden parameters .source →
    ∀ replicas, removalCandidates request.mode replicas request.sourceResource
      request.destinationResource = [s]
  /-- All of them, if no source is named, and if its name is hidden. -/
  unnamed : NamesNone parameters .source ∨ NameHidden parameters .source →
    ∀ replicas, removalCandidates request.mode replicas request.sourceResource
      request.destinationResource = replicas

theorem Accepted.goesByName (h : Accepted parameters configuration request)
    (hunguided : Unguided parameters configuration) : GoesByName parameters request where
  named s hs hshown replicas := by
    have hsource : sourceNamed parameters = s :=
      (sourceNamed_of_rowless hunguided.rowless).trans (resource_of_namesResource hs hshown)
    rw [h.candidates hunguided.modeless, hsource, if_neg hs.ne_empty]
  unnamed hunnamed replicas := by
    have hempty : sourceNamed parameters = "" :=
      (sourceNamed_of_rowless hunguided.rowless).trans (resource_eq_empty.mpr hunnamed)
    rw [h.candidates hunguided.modeless, if_pos hempty]

end ReplicaRetention

/-- The root of a replica is looked for in its hierarchy and then in its name, and nothing is
hidden there: what is found is what keywords with the same texts name. -/
theorem Retention.replicaRoot?_namesResource {parameters : Document} {role : ResourceRole}
    {hierarchy name : String} (hno : ∀ s, ¬ parameters.Gives role.key s)
    (hhierarchy : parameters.KeywordGives role.hierarchyKey hierarchy)
    (hname : parameters.KeywordGives role.nameKey name) (more : List String) :
    ∃ s, replicaRoot? (name :: hierarchy :: more) = some s ∧
      NamesResource parameters role .root s := by
  by_cases honly : OnlySeparators hierarchy
  · have hempty : hierarchyResource hierarchy .root = "" := hierarchyResource_eq_empty.mpr honly
    refine ⟨name, by simp [replicaRoot?, hempty], .name hno ?_ hname⟩
    intro t ht
    rwa [ht.unique hhierarchy]
  · obtain ⟨s, hs⟩ := exists_standsAt honly .root
    have hroot : hierarchyResource hierarchy .root = s := hierarchyResource_of_standsAt hs
    exact ⟨s, by simp [replicaRoot?, hroot, hs.filled], .hierarchy hno hhierarchy hs⟩

/-- What comes of the names that parameters have for their resources. -/
structure NamesFollowed (parameters : Document) : Prop where
  captured : ∀ role tag, CapturesNamed parameters role tag
    ((Capture.ofParameters parameters tag).resource role)
  /-- Retention goes by the source that is captured, wherever nothing else guides it. -/
  removed : ∀ configuration request, ReplicaRetention.Unguided parameters configuration →
    ReplicaRetention.Accepted parameters configuration request →
      ReplicaRetention.GoesByName parameters request
  /-- Among the replicas the resource is found by the same two texts, also if capture misses it. -/
  lookedUp : ∀ (role : ResourceRole) hierarchy name more,
    (∀ s, ¬ parameters.Gives role.key s) →
    parameters.KeywordGives role.hierarchyKey hierarchy →
    parameters.KeywordGives role.nameKey name →
      ∃ s, Retention.replicaRoot? (name :: hierarchy :: more) = some s ∧
        NamesResource parameters role .root s

/-- The first place that names a resource gives it, for either role and at either end, and none
is captured where none is named; except that a hierarchy which is given but has no resource hides
the name behind it. Retention without a mode then goes by no name. -/
theorem resource_captured (parameters : Document) : NamesFollowed parameters where
  captured := capturesNamed parameters
  removed _ _ hunguided haccepted := haccepted.goesByName hunguided
  lookedUp _ _ _ more hno hhierarchy hname :=
    Retention.replicaRoot?_namesResource hno hhierarchy hname more

/-- A call that gives a hierarchy and the name of its source. -/
def namedCall (hierarchy : String) : Document :=
  .object [(Key.condInput, .object [("resc_hier", .text hierarchy), ("resc_name", .text "demo")]),
    (Key.logicalPath, .text "/zone/home/f"), (Key.userName, .text "alice")]

/-- A catalog with one object, which has two replicas, none of them preserved. -/
def twoReplicas : Grid where
  now := 0
  answer
    | _, .query text _ _ =>
      if text = Retention.replicaQuery "/zone/home" "f" then .ok [["archive"], ["demo"]]
      else .ok []
    | _, .trim _ _ _ => .ok ()
    | _, .unlink _ _ => .ok ()
    | _, _ => .error (.noRowsFound "")

/-- The removal that a call stands for if it names no source. -/
def wholeRemoval : RetentionRequest where
  mode := .removeAllReplicas
  userName := "alice"
  logicalPath := "/zone/home/f"
  sourceResource := ""
  destinationResource := ""
  whitelist := none
  preservationAttribute := defaultPreservationAttribute

theorem nameHidden_namedCall : NameHidden (namedCall ";") .source where
  outright := Document.filledField?_eq_none.mp rfl
  hierarchy := ⟨";", Document.keyword_eq_some.mp rfl, by decide⟩
  name := ⟨"demo", Document.keyword_eq_some.mp rfl⟩

/-- Behind a lone separator the name of the source is lost, and the object is unlinked. Without
the separator the replica at the source is trimmed. -/
theorem resource_captured_separators :
    NamesResource (namedCall ";") .source .root "demo" ∧
    (Capture.ofParameters (namedCall ";") .root).sourceResource = "" ∧
    (Capture.ofParameters (namedCall ";;root;;leaf;") .leaf).sourceResource = "leaf" ∧
    ReplicaRetention.Accepted (namedCall ";") .emptyObject wholeRemoval ∧
    ReplicaRetention.GoesByName (namedCall ";") wholeRemoval ∧
    (∃ s, Retention.replicaRoot? ["demo", ";"] = some s ∧
      NamesResource (namedCall ";") .source .root s) ∧
    removals (builtinLog 1 twoReplicas ReplicaRetention.name (namedCall ";") .null) =
      [.unlink "alice" "/zone/home/f"] ∧
    removals (builtinLog 1 twoReplicas ReplicaRetention.name (namedCall "") .null) =
      [.trim "alice" "/zone/home/f" "demo"] := by
  have hhidden := nameHidden_namedCall
  have hseparator : (namedCall ";").KeywordGives "resc_hier" ";" := Document.keyword_eq_some.mp rfl
  have hname : (namedCall ";").KeywordGives "resc_name" "demo" := Document.keyword_eq_some.mp rfl
  have hnamed : NamesResource (namedCall ";") .source .root "demo" :=
    .name hhidden.outright (fun t ht => ht.unique hseparator ▸ by decide) hname
  have hmore : (namedCall ";;root;;leaf;").KeywordGives "resc_hier" ";;root;;leaf;" :=
    Document.keyword_eq_some.mp rfl
  have hleaf : NamesResource (namedCall ";;root;;leaf;") .source .leaf "leaf" :=
    .hierarchy (Document.filledField?_eq_none.mp rfl) hmore
      ⟨by decide, by decide, 1, ";;root;;".toList, by decide,
        fun _ hlast => (Option.some.inj hlast).symm⟩
  have hshown : ¬ NameHidden (namedCall ";;root;;leaf;") .source := by
    rintro ⟨-, ⟨t, ht, honly⟩, -⟩
    rw [ht.unique hmore] at honly
    exact absurd honly (by decide)
  have hcaptured : Capture.ofParameters (namedCall ";") .root =
      ⟨"alice", "/zone/home/f", "", ""⟩ := by decide
  have haccepted : ReplicaRetention.Accepted (namedCall ";") .emptyObject wholeRemoval :=
    ⟨hcaptured.symm, fun _ => ⟨fun _ => nofun, fun _ => nofun⟩, nofun, rfl, rfl⟩
  have hfollowed := resource_captured (namedCall ";")
  refine ⟨hnamed, (hfollowed.captured .source .root).empty.mpr (.inr hhidden),
    (((resource_captured _).captured .source .leaf).named "leaf" hleaf).mpr hshown,
    haccepted, hfollowed.removed _ _ ⟨nofun, rfl⟩ haccepted,
    hfollowed.lookedUp .source ";" "demo" [] hhidden.outright hseparator hname, ?_, ?_⟩
  · decide +kernel
  · decide +kernel

end GridPolicy
