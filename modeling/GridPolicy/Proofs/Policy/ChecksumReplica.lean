import GridPolicy.Proofs.Policy.Invocation
import GridPolicy.Proofs.Session.Records

/-!
# Which replica a checksum is computed of

The checksum policy captures its parameters at the leaf of a hierarchy. A completed
record names its source outright, and the name was filled in from the root. So for a
record the replica on the root is looked up, and only parameters that still leave the
choice to the hierarchy lead to the leaf.
-/
namespace GridPolicy

/-- The text of an entry, if it is a question to the catalog. -/
def Entry.query? : Entry → Option String
  | .call (.query text _ _) => some text
  | _ => none

/-- The questions to the catalog in a log, in order. -/
def queries (log : List Entry) : List String := log.filterMap Entry.query?

@[simp] theorem queries_append (log more : List Entry) :
    queries (log ++ more) = queries log ++ queries more := List.filterMap_append ..

theorem queries_eq_nil {log : List Entry} (h : ∀ e ∈ log, e.query? = none) : queries log = [] :=
  List.filterMap_eq_nil_iff.mpr h

namespace ChecksumCheck

theorem mem_builtin : ⟨name, body⟩ ∈ builtinPolicies := by simp [builtinPolicies]

/-- The question by which the replica of an object on a resource is looked up. -/
def lookup (path resource : String) : String :=
  replicaQuery (LogicalPath.split path).1 (LogicalPath.split path).2 resource

/-- It is asked only if there is an object and a resource to ask about. -/
def asked (path resource : String) : List String :=
  if path = "" ∨ resource = "" then [] else [lookup path resource]

theorem replicaQuery_injective {collection dataName first second : String} :
    replicaQuery collection dataName first = replicaQuery collection dataName second ↔
      first = second := by
  unfold replicaQuery
  rw [String.append_left_inj, String.append_right_inj]

theorem lookup_injective {path first second : String} :
    lookup path first = lookup path second ↔ first = second := replicaQuery_injective

/-- The catalog is asked once, about the captured resource. -/
theorem body_yields (invoke : Invoker) (i : Invocation) (grid : Grid) (log : List Entry) :
    (body invoke i).Yields grid log fun _ added =>
      queries added = asked (Capture.ofParameters i.parameters .leaf).logicalPath
        (Capture.ofParameters i.parameters .leaf).sourceResource := by
  unfold body asked
  dsimp only
  generalize (Capture.ofParameters i.parameters .leaf).logicalPath = path
  generalize (Capture.ofParameters i.parameters .leaf).sourceResource = resource
  by_cases hempty : path = "" ∨ resource = ""
  · have hrefused : (path == "" || resource == "") = true := by simpa using hempty
    rw [if_pos hempty, if_pos hrefused]
    exact Run.Yields.fail rfl
  have hgiven : ¬ (path == "" || resource == "") = true := by simpa using hempty
  rw [if_neg hempty, if_neg hgiven]
  refine (Run.Yields.mapError_done (Run.queryRows_yields _ _ _ _ _)).bind ?_ ?_
  · rintro o o' added ⟨rfl, -⟩ -
    rfl
  · rintro rows added ⟨rfl, -⟩ -
    -- all that is asked for afterwards is where the replica is and what it holds
    refine ((?_ : Run.AddsOnly (fun e => e.query? = none) _) grid _).mono ?_
    · cases rows with
      | nil => exact .fail _
      | cons row rest =>
        dsimp only
        refine .bind (.mapError (.ask rfl)) fun location => ?_
        split
        · exact .fail _
        · refine .bind (.mapError (.ask rfl)) fun computed => ?_
          split
          · exact .fail _
          · exact .pure _
    · intro o more hmore
      rw [queries_append, queries_eq_nil hmore]
      rfl

theorem queries_builtinLog (depth : Nat) (grid : Grid) (parameters configuration : Document) :
    queries (builtinLog (depth + 1) grid name parameters configuration) =
      asked (Capture.ofParameters parameters .leaf).logicalPath
        (Capture.ofParameters parameters .leaf).sourceResource := by
  obtain ⟨added, hlog, hasked⟩ := body_yields (Registry.builtin.invoke depth)
    ⟨name, parameters, Policy.effectiveConfiguration configuration⟩ grid []
  unfold builtinLog
  rw [Registry.invoke_builtin mem_builtin, hlog, List.nil_append]
  exact hasked

end ChecksumCheck

namespace Classifier

variable {client : ClientInfo} {name : String} {input : DataObjectInput} {event : Event}
  {hierarchy : String}

/-- The call gives a hierarchy with a resource in it. -/
structure HasHierarchy (input : DataObjectInput) (hierarchy : String) : Prop where
  keyword : input.keywords.toDocument.get? "resc_hier" = some (.text hierarchy)
  segment : hierarchySegments hierarchy ≠ []

theorem hierarchyResource_ne_empty (h : hierarchySegments hierarchy ≠ []) (tag : HierarchyEnd) :
    hierarchyResource hierarchy tag ≠ "" := by
  have hmem (s : String) (hs : s ∈ hierarchySegments hierarchy) : s ≠ "" :=
    bne_iff_ne.mp (List.mem_filter.mp hs).2
  cases tag with
  | root =>
    rw [hierarchyResource, List.head?_eq_some_head h]
    exact hmem _ (List.head_mem h)
  | leaf =>
    rw [hierarchyResource, List.getLast?_eq_some_getLast h]
    exact hmem _ (List.getLast_mem h)

theorem sourceResource_ofParameters (parameters : Document) (tag : HierarchyEnd) :
    (Capture.ofParameters parameters tag).sourceResource =
      captureResource parameters Key.sourceResource "resc_hier" "resc_name" tag := rfl

/-- Of parameters that name no source, the hierarchy gives it. -/
theorem captureResource_of_hierarchy {parameters : Document} {key nameKey : String}
    (h : HasHierarchy input hierarchy) (hkey : parameters.filledField? key = none)
    (hinput : parameters.get? Key.condInput = some input.keywords.toDocument)
    (tag : HierarchyEnd) :
    captureResource parameters key "resc_hier" nameKey tag = hierarchyResource hierarchy tag := by
  have hne : hierarchy ≠ "" := by
    rintro rfl
    exact h.segment (by decide)
  have hfilled : input.keywords.toDocument.filledField? "resc_hier" = some hierarchy := by
    simp [Document.filledField?, Document.textField?, h.keyword, Document.scalarText?, hne]
  simp [captureResource, hkey, hinput, hfilled]

/-- What is reported of a call with one object is about that object. -/
theorem record_of_dataObject {s : Session} {point : InterceptionPoint}
    {raw : List ClassifiedEvent} (h : (handle s point (.dataObject input)).2 = .ok raw) :
    ∀ item ∈ raw, item.record = objectRecord input := by
  have hopen : (openObject s point (.dataObject input)).2 = .ok raw →
      ∀ item ∈ raw, item.record = objectRecord input := by
    intro h
    rw [← Except.ok.inj h]
    split <;> simp
  unfold handle at h
  split at h <;> first | exact hopen h | cases h | skip
  split at h
  · simp only [dataObject, Except.ok.injEq] at h
    simp [← h]
  · cases h

theorem get?_objectRecord_source : (objectRecord input).get? Key.sourceResource = none := by
  simp [EventRecord.get?, objectRecord, DataObjectInput.toFields, Fields.ofList, Fields.overlay,
    Fields.get?_insert, Key.sourceResource, Key.logicalPath, Key.condInput]

theorem get?_objectRecord_path :
    (objectRecord input).get? Key.logicalPath = some (.text input.path) := by
  simp [EventRecord.get?, objectRecord, DataObjectInput.toFields, Fields.ofList, Fields.overlay,
    Fields.get?_insert, Key.logicalPath, Key.condInput]

theorem get?_objectRecord_input :
    (objectRecord input).get? Key.condInput = some input.keywords.toDocument := by
  simp [EventRecord.get?, objectRecord, DataObjectInput.toFields, Fields.ofList, Fields.overlay,
    Key.logicalPath, Key.condInput]

section

variable {raw : ClassifiedEvent}

/-- The source that is filled in is the root of the hierarchy. -/
theorem source_decorate (h : HasHierarchy input hierarchy)
    (hsource : raw.record.get? Key.sourceResource = none)
    (hinput : raw.record.get? Key.condInput = some input.keywords.toDocument) :
    (decorate client name raw).record.field Key.sourceResource =
      hierarchyResource hierarchy .root := by
  have hnamed : (named client name raw).get? Key.sourceResource = none :=
    (get?_named (by decide) (by decide)).trans hsource
  have hkeywords : (named client name raw).toDocument.get? Key.condInput =
      some input.keywords.toDocument :=
    (get?_named (by decide) (by decide)).trans hinput
  have hempty : (named client name raw).field Key.sourceResource = "" := by
    simp [EventRecord.field, hnamed]
  have hnone : (named client name raw).toDocument.filledField? Key.sourceResource = none := by
    rw [EventRecord.filledField?_toDocument, hnamed]
    rfl
  have hcaptured : (Capture.ofParameters (named client name raw).toDocument .root).sourceResource =
      hierarchyResource hierarchy .root := by
    rw [sourceResource_ofParameters, captureResource_of_hierarchy h hnone hkeywords]
  have hfilled : (sourced client name raw).get? Key.sourceResource =
      some (.text (hierarchyResource hierarchy .root)) := by
    rw [sourced, hcaptured, EventRecord.get?_fillIfEmpty,
      if_pos ⟨rfl, hempty, hierarchyResource_ne_empty h.segment .root⟩]
  rw [EventRecord.field_congr get?_decorate_source, EventRecord.field_of_text hfilled]

theorem path_decorate (hpath : raw.record.get? Key.logicalPath = some (.text input.path)) :
    (decorate client name raw).record.field Key.logicalPath = input.path := by
  refine EventRecord.field_of_text ?_
  rw [(completes_decorate client name raw).kept _ (by decide) (by decide)]
  exact hpath

end

end Classifier

namespace ChecksumCheck

/-- A resource that the parameters name outright is asked about, whichever end of a
hierarchy is meant. -/
theorem queries_of_record {r : EventRecord} {path resource : String}
    (hpath : r.field Key.logicalPath = path) (hresource : r.field Key.sourceResource = resource)
    (hne : path ≠ "" ∧ resource ≠ "") (depth : Nat) (grid : Grid) (configuration : Document) :
    queries (builtinLog (depth + 1) grid name r.toDocument configuration) =
      [lookup path resource] := by
  subst hpath hresource
  have hcaptured : (Capture.ofParameters r.toDocument .leaf).logicalPath =
      r.field Key.logicalPath := by
    simp [Capture.ofParameters, EventRecord.filledField?_of_field_ne hne.1]
  have hnamed : (Capture.ofParameters r.toDocument .leaf).sourceResource =
      r.field Key.sourceResource := by
    rw [Classifier.sourceResource_ofParameters, EventRecord.captureResource_of_field_ne hne.2]
  rw [queries_builtinLog, hcaptured, hnamed, asked, if_neg (not_or.mpr hne)]

/-- Parameters that give the path and the keyword input of a call, and nothing else. -/
def directParameters (input : DataObjectInput) : Document :=
  Document.ofFields [(Key.logicalPath, .text input.path),
    (Key.condInput, input.keywords.toDocument)]

theorem get?_directParameters (input : DataObjectInput) (key : String) :
    (directParameters input).get? key =
      if key = Key.condInput then some input.keywords.toDocument
      else if key = Key.logicalPath then some (.text input.path) else none := by
  simp [directParameters, Document.ofFields, Document.get?, Document.fields, Fields.ofList,
    Fields.overlay, Fields.get?_insert]

theorem queries_directParameters {input : DataObjectInput} {hierarchy : String}
    (hpath : input.path ≠ "") (h : Classifier.HasHierarchy input hierarchy) (depth : Nat)
    (grid : Grid) (configuration : Document) :
    queries (builtinLog (depth + 1) grid name (directParameters input) configuration) =
      [lookup input.path (hierarchyResource hierarchy .leaf)] := by
  have hinput : (directParameters input).get? Key.condInput =
      some input.keywords.toDocument := by
    rw [get?_directParameters, if_pos rfl]
  have hsource : (directParameters input).filledField? Key.sourceResource = none := by
    rw [Document.filledField?, Document.textField?, get?_directParameters]
    rfl
  have hcaptured : (Capture.ofParameters (directParameters input) .leaf).logicalPath =
      input.path := by
    have hget : (directParameters input).get? Key.logicalPath = some (.text input.path) := by
      rw [get?_directParameters]
      rfl
    have hfilled : (directParameters input).filledField? Key.logicalPath = some input.path := by
      simp [Document.filledField?, Document.textField?, hget, Document.scalarText?, hpath]
    simp [Capture.ofParameters, hfilled]
  rw [queries_builtinLog, hcaptured, Classifier.sourceResource_ofParameters,
    Classifier.captureResource_of_hierarchy h hsource hinput, asked,
    if_neg (not_or.mpr ⟨hpath, Classifier.hierarchyResource_ne_empty h.segment .leaf⟩)]

/-- For a record of a call the replica on the root of the call's hierarchy is looked up,
and with the keyword input of the call the one on its leaf; so the record leads to the
leaf exactly if the hierarchy begins and ends with the same resource. -/
theorem looks_up_root {s : Session} {call : HookCall} {input : DataObjectInput}
    {hierarchy : String} {events : List ClassifiedEvent} {item : ClassifiedEvent}
    (hcall : call.arguments = .dataObject input) (hpath : input.path ≠ "")
    (hhierarchy : Classifier.HasHierarchy input hierarchy) (hreports : s.reports call = .ok events)
    (hitem : item ∈ events) (depth : Nat) (grid : Grid) (configuration : Document) :
    queries (builtinLog (depth + 1) grid name item.record.toDocument configuration) =
      [lookup input.path (hierarchyResource hierarchy .root)] ∧
    queries (builtinLog (depth + 1) grid name (directParameters input) configuration) =
      [lookup input.path (hierarchyResource hierarchy .leaf)] ∧
    (queries (builtinLog (depth + 1) grid name item.record.toDocument configuration) =
      [lookup input.path (hierarchyResource hierarchy .leaf)] ↔
        hierarchyResource hierarchy .root = hierarchyResource hierarchy .leaf) := by
  obtain ⟨point, raw, -, hraw, rfl⟩ := Session.reports_eq_ok hreports
  obtain ⟨bare, hbare, rfl⟩ := List.mem_map.mp hitem
  rw [hcall] at hraw
  have hrecord : bare.record = Classifier.objectRecord input :=
    Classifier.record_of_dataObject hraw bare hbare
  have hread : (Classifier.decorate s.client call.name bare).record.field Key.logicalPath =
      input.path :=
    Classifier.path_decorate (hrecord ▸ Classifier.get?_objectRecord_path)
  have hsource : (Classifier.decorate s.client call.name bare).record.field Key.sourceResource =
      hierarchyResource hierarchy .root :=
    Classifier.source_decorate hhierarchy (hrecord ▸ Classifier.get?_objectRecord_source)
      (hrecord ▸ Classifier.get?_objectRecord_input)
  have hlooks := queries_of_record hread hsource
    ⟨hpath, Classifier.hierarchyResource_ne_empty hhierarchy.segment .root⟩ depth grid configuration
  refine ⟨hlooks, queries_directParameters hpath hhierarchy depth grid configuration, ?_⟩
  rw [hlooks, List.cons.injEq, lookup_injective]
  simp

/-- A grid that answers nothing. -/
def silentGrid : Grid where
  now := 0
  answer _ _ := .error (.noRowsFound "")

/-- The object of a download, stored three deep. -/
def downloaded : DataObjectInput where
  path := "/zone/home/f"
  keywords := [("resc_hier", "root;mid;leaf")]

theorem hasHierarchy_downloaded : Classifier.HasHierarchy downloaded "root;mid;leaf" where
  keyword := rfl
  segment := by decide

theorem reports_download (s : Session) : s.reports Session.download =
    .ok [Classifier.decorate s.client "data_obj_get_post"
      ⟨.get, Classifier.objectRecord downloaded⟩] := by
  have hpoint : InterceptionPoint.parse? "data_obj_get_post" =
      some ⟨"data_obj_get_post", "data_obj_get", .post⟩ := by decide
  simp [Session.reports, classify, Session.download, hpoint, Classifier.handle, tableEvent?,
    Classifier.dataObject, unregisterOperation, Except.map, downloaded]

/-- The record of the download leads to another replica than its keyword input. -/
theorem looks_up_root_download :
    let s := Session.start (.forUser "alice" "zone")
    ∃ item, s.reports Session.download = .ok [item] ∧
      queries (builtinLog 1 silentGrid name item.record.toDocument .null) =
        [replicaQuery "/zone/home" "f" "root"] ∧
      queries (builtinLog 1 silentGrid name (directParameters downloaded) .null) =
        [replicaQuery "/zone/home" "f" "leaf"] ∧
      (queries (builtinLog 1 silentGrid name item.record.toDocument .null) =
        [replicaQuery "/zone/home" "f" "leaf"] ↔ "root" = "leaf") := by
  intro s
  exact ⟨_, reports_download s, looks_up_root rfl (by decide) hasHierarchy_downloaded
    (reports_download s) (List.mem_singleton_self _) 0 silentGrid .null⟩

end ChecksumCheck

end GridPolicy
