import GridPolicy.Proofs.Document.Fields
import GridPolicy.Proofs.Session.Reports
import Mathlib.Data.List.Forall2

/-!
# What a record shows

A record has two readers. A conditional takes a field as it stands, and only if it is a
text. A policy captures its parameters: it reads numbers and flags as well, and has
further places to look in when a field is empty. Completing a record writes what the
policies would find elsewhere into the fields themselves, so that both see the same.
The path is not completed: there the two agree because the record of a call gives the
same path under both of its keys.
-/
namespace GridPolicy

namespace EventRecord

variable {r other : EventRecord} {key : String}

/-- The four values as a conditional tests them. -/
def tested (r : EventRecord) : Capture where
  userName := r.field Key.userName
  logicalPath := r.field Key.logicalPath
  sourceResource := r.field Key.sourceResource
  destinationResource := r.field Key.destinationResource

/-- The record has a text under the key, or nothing. -/
def TextOrAbsent (r : EventRecord) (key : String) : Prop :=
  ∀ value, r.get? key = some value → ∃ s, value = .text s

/-- The user and the path are texts where they are given, and the path of the object is
the logical path. -/
structure Plain (r : EventRecord) : Prop where
  user : r.TextOrAbsent Key.userName
  path : r.TextOrAbsent Key.logicalPath
  object : r.get? "obj_path" = none ∨ r.get? "obj_path" = r.get? Key.logicalPath

@[simp] theorem get?_insert (r : EventRecord) (key k : String) (value : Document) :
    (r.insert key value).get? k = if k = key then some value else r.get? k :=
  Fields.get?_insert key k value r.fields

theorem field_congr (h : other.get? key = r.get? key) : other.field key = r.field key := by
  simp only [field, h]

theorem field_of_text {s : String} (h : r.get? key = some (.text s)) : r.field key = s := by
  simp [field, h, Document.text?]

theorem get?_fillIfEmpty (r : EventRecord) (key value k : String) :
    (r.fillIfEmpty key value).get? k =
      if k = key ∧ r.field key = "" ∧ value ≠ "" then some (.text value) else r.get? k := by
  unfold fillIfEmpty
  by_cases h : r.field key = "" ∧ value ≠ "" <;> simp [h]

theorem get?_fillIfEmpty_of_ne {value k : String} (h : k ≠ key) :
    (r.fillIfEmpty key value).get? k = r.get? k := by
  simp [get?_fillIfEmpty, h]

/-- Filling changes nothing, or gives an empty field its text. -/
theorem fillIfEmpty_cases (r : EventRecord) (key value : String) :
    (r.fillIfEmpty key value = r ∧ (r.field key ≠ "" ∨ value = "")) ∨
      (r.field key = "" ∧ value ≠ "" ∧
        (r.fillIfEmpty key value).get? key = some (.text value)) := by
  by_cases hfield : r.field key = ""
  · by_cases hvalue : value = ""
    · exact .inl ⟨by simp [fillIfEmpty, hvalue], .inr hvalue⟩
    · exact .inr ⟨hfield, hvalue, by simp [get?_fillIfEmpty, hfield, hvalue]⟩
  · exact .inl ⟨by simp [fillIfEmpty, hfield], .inl hfield⟩

theorem get?_fillIfEmpty_self (r : EventRecord) (key value : String) :
    (r.fillIfEmpty key value).get? key = r.get? key ∨
      (r.field key = "" ∧ ∃ s, s ≠ "" ∧ (r.fillIfEmpty key value).get? key = some (.text s)) := by
  rcases fillIfEmpty_cases r key value with ⟨hsame, -⟩ | ⟨hfield, hvalue, htext⟩
  · exact .inl (by rw [hsame])
  · exact .inr ⟨hfield, value, hvalue, htext⟩

theorem filledField?_toDocument (r : EventRecord) (key : String) :
    r.toDocument.filledField? key =
      ((r.get? key).bind Document.scalarText?).filter fun s => s != "" := rfl

/-- What reads as a text at all reads the same for both. -/
theorem filledField?_of_field_ne (h : r.field key ≠ "") :
    r.toDocument.filledField? key = some (r.field key) := by
  unfold field at h ⊢
  rw [filledField?_toDocument]
  cases hvalue : r.get? key with
  | none => simp [hvalue] at h
  | some value =>
    cases value with
    | text s => simpa [hvalue, Document.text?, Document.scalarText?, Option.filter] using h
    | _ => simp [hvalue, Document.text?] at h

theorem filledField?_of_field_eq (htext : r.TextOrAbsent key) (h : r.field key = "") :
    r.toDocument.filledField? key = none := by
  rw [filledField?_toDocument]
  cases hvalue : r.get? key with
  | none => rfl
  | some value =>
    obtain ⟨s, rfl⟩ := htext value hvalue
    rw [field_of_text hvalue] at h
    simp [h, Document.scalarText?, Option.filter]

theorem filledField?_congr (h : other.get? key = r.get? key) :
    other.toDocument.filledField? key = r.toDocument.filledField? key := by
  rw [filledField?_toDocument, filledField?_toDocument, h]

/-- A record that gives the user and the path as texts, or not at all, is plain. -/
theorem Plain.of_texts (user? path? : Option String)
    (huser : r.get? Key.userName = user?.map .text)
    (hpath : r.get? Key.logicalPath = path?.map .text)
    (hobject : r.get? "obj_path" = none ∨ r.get? "obj_path" = path?.map .text) : r.Plain where
  user := by
    intro value hvalue
    rw [huser, Option.map_eq_some_iff] at hvalue
    obtain ⟨s, -, hs⟩ := hvalue
    exact ⟨s, hs.symm⟩
  path := by
    intro value hvalue
    rw [hpath, Option.map_eq_some_iff] at hvalue
    obtain ⟨s, -, hs⟩ := hvalue
    exact ⟨s, hs.symm⟩
  object := hpath ▸ hobject

theorem captured_eq_tested
    (huser : (Capture.ofParameters r.toDocument .root).userName = r.field Key.userName)
    (hpath : (Capture.ofParameters r.toDocument .root).logicalPath = r.field Key.logicalPath)
    (hsource : captureResource r.toDocument Key.sourceResource "resc_hier" "resc_name" .root =
      r.field Key.sourceResource)
    (hdestination : captureResource r.toDocument Key.destinationResource "dest_resc_hier"
      "dest_resc_name" .root = r.field Key.destinationResource) :
    Capture.ofParameters r.toDocument .root = r.tested := by
  simp only [Capture.ofParameters] at huser hpath
  simp only [Capture.ofParameters, tested, huser, hpath, hsource, hdestination]

section Resource

variable {hierarchyKey nameKey : String} {tag : HierarchyEnd}

theorem captureResource_congr (hkey : other.get? key = r.get? key)
    (hinput : other.get? Key.condInput = r.get? Key.condInput) :
    captureResource other.toDocument key hierarchyKey nameKey tag =
      captureResource r.toDocument key hierarchyKey nameKey tag := by
  have hdocument : other.toDocument.get? Key.condInput = r.toDocument.get? Key.condInput := hinput
  simp only [captureResource, filledField?_congr hkey, hdocument]

theorem captureResource_of_field_ne (h : r.field key ≠ "") :
    captureResource r.toDocument key hierarchyKey nameKey tag = r.field key := by
  simp [captureResource, filledField?_of_field_ne h]

/-- Once a resource is filled in from what a policy captures, it is what both see. -/
theorem captureResource_fillIfEmpty {value : String}
    (hvalue : value = captureResource r.toDocument key hierarchyKey nameKey tag) :
    captureResource (r.fillIfEmpty key value).toDocument key hierarchyKey nameKey tag =
      (r.fillIfEmpty key value).field key := by
  rcases fillIfEmpty_cases r key value with ⟨hsame, hfield⟩ | ⟨-, hne, htext⟩
  · rw [hsame]
    by_cases h : r.field key = ""
    · have hempty : value = "" := hfield.resolve_left fun hne => hne h
      rw [← hvalue, h, hempty]
    · exact captureResource_of_field_ne h
  · refine captureResource_of_field_ne ?_
    rw [field_of_text htext]
    exact hne

end Resource

end EventRecord

theorem ClientInfo.filledField?_toDocument (client : ClientInfo) :
    (client.toDocument.filledField? Key.userName).getD "" = client.userName := by
  have hget : client.toDocument.get? Key.userName = some (.text client.userName) := by
    simp [toDocument, Document.ofFields, Document.get?, Document.fields, Fields.ofList,
      Fields.overlay, Fields.get?_insert, Key.userName]
  by_cases h : client.userName = "" <;>
    simp [Document.filledField?, Document.textField?, hget, Document.scalarText?, Option.filter, h]

namespace Classifier

variable {client : ClientInfo} {name : String} {raw : ClassifiedEvent}

/-- The keys that every record is stamped with. -/
def stampedKeys : List String := [Key.event, Key.enforcementPoint, Key.comm]

/-- The keys that are filled in where a record has nothing under them. -/
def filledKeys : List String := [Key.userName, Key.sourceResource, Key.destinationResource]

/-- The event completes one that the handler of a call reports. -/
structure Completes (client : ClientInfo) (name : String) (raw item : ClassifiedEvent) : Prop where
  event : item.event = raw.event
  reads : item.record.event? = some item.event
  point : item.record.get? Key.enforcementPoint = some (.text name)
  comm : item.record.get? Key.comm = some client.toDocument
  kept : ∀ key, key ∉ stampedKeys → key ∉ filledKeys →
    item.record.get? key = raw.record.get? key
  filled : ∀ key, key ∈ filledKeys → item.record.get? key = raw.record.get? key ∨
    (raw.record.field key = "" ∧ ∃ s, s ≠ "" ∧ item.record.get? key = some (.text s))

theorem event_read?_name (e : Event) : Event.read? e.name = some e := by
  cases e <;> decide

/-- The record with its stamps, before anything is filled in. -/
def stamped (client : ClientInfo) (name : String) (raw : ClassifiedEvent) : EventRecord :=
  (raw.record.stamp raw.event name).insert Key.comm client.toDocument

theorem get?_stamped {key : String} (h : key ∉ stampedKeys) :
    (stamped client name raw).get? key = raw.record.get? key := by
  simp only [stampedKeys, List.mem_cons, List.not_mem_nil, or_false, not_or] at h
  simp [stamped, EventRecord.stamp, h]

/-- The record with its stamps and the user. -/
def named (client : ClientInfo) (name : String) (raw : ClassifiedEvent) : EventRecord :=
  (stamped client name raw).fillIfEmpty Key.userName client.userName

/-- The record with its stamps, the user and the source. -/
def sourced (client : ClientInfo) (name : String) (raw : ClassifiedEvent) : EventRecord :=
  let captured := Capture.ofParameters (named client name raw).toDocument .root
  (named client name raw).fillIfEmpty Key.sourceResource captured.sourceResource

theorem decorate_record (client : ClientInfo) (name : String) (raw : ClassifiedEvent) :
    (decorate client name raw).record =
      (sourced client name raw).fillIfEmpty Key.destinationResource
        (Capture.ofParameters (named client name raw).toDocument .root).destinationResource := by
  simp only [decorate, sourced, named, stamped]

theorem get?_decorate_of_not_filled {key : String} (h : key ∉ filledKeys) :
    (decorate client name raw).record.get? key = (stamped client name raw).get? key := by
  simp only [filledKeys, List.mem_cons, List.not_mem_nil, or_false, not_or] at h
  obtain ⟨huser, hsource, hdestination⟩ := h
  rw [decorate_record, EventRecord.get?_fillIfEmpty_of_ne hdestination, sourced,
    EventRecord.get?_fillIfEmpty_of_ne hsource, named, EventRecord.get?_fillIfEmpty_of_ne huser]

theorem get?_decorate_source : (decorate client name raw).record.get? Key.sourceResource =
    (sourced client name raw).get? Key.sourceResource := by
  rw [decorate_record, EventRecord.get?_fillIfEmpty_of_ne (by decide)]

theorem get?_decorate_user : (decorate client name raw).record.get? Key.userName =
    (named client name raw).get? Key.userName := by
  rw [decorate_record, EventRecord.get?_fillIfEmpty_of_ne (by decide), sourced,
    EventRecord.get?_fillIfEmpty_of_ne (by decide)]

theorem get?_named {key : String} (hstamped : key ∉ stampedKeys) (huser : key ≠ Key.userName) :
    (named client name raw).get? key = raw.record.get? key := by
  rw [named, EventRecord.get?_fillIfEmpty_of_ne huser, get?_stamped hstamped]

theorem get?_sourced {key : String} (hstamped : key ∉ stampedKeys) (huser : key ≠ Key.userName)
    (hsource : key ≠ Key.sourceResource) :
    (sourced client name raw).get? key = raw.record.get? key := by
  rw [sourced, EventRecord.get?_fillIfEmpty_of_ne hsource, get?_named hstamped huser]

theorem completes_decorate (client : ClientInfo) (name : String) (raw : ClassifiedEvent) :
    Completes client name raw (decorate client name raw) where
  event := rfl
  reads := by
    have hget : (decorate client name raw).record.get? Key.event =
        some (.text raw.event.name) := by
      rw [get?_decorate_of_not_filled (by decide)]
      simp [stamped, EventRecord.stamp, Key.event, Key.enforcementPoint, Key.comm]
    rw [EventRecord.event?, EventRecord.field_of_text hget, event_read?_name]
    rfl
  point := by
    rw [get?_decorate_of_not_filled (by decide)]
    simp [stamped, EventRecord.stamp, Key.enforcementPoint, Key.comm]
  comm := by
    rw [get?_decorate_of_not_filled (by decide)]
    simp [stamped]
  kept := fun key hstamped hfilled => by
    rw [get?_decorate_of_not_filled hfilled, get?_stamped hstamped]
  filled := by
    intro key hkey
    simp only [filledKeys, List.mem_cons, List.not_mem_nil, or_false] at hkey
    rcases hkey with rfl | rfl | rfl
    · have hraw : (stamped client name raw).get? Key.userName =
          raw.record.get? Key.userName := get?_stamped (by decide)
      rw [get?_decorate_user, ← hraw, ← EventRecord.field_congr hraw]
      exact EventRecord.get?_fillIfEmpty_self _ _ _
    · have hraw : (named client name raw).get? Key.sourceResource =
          raw.record.get? Key.sourceResource := get?_named (by decide) (by decide)
      rw [get?_decorate_source, ← hraw, ← EventRecord.field_congr hraw]
      exact EventRecord.get?_fillIfEmpty_self _ _ _
    · have hraw : (sourced client name raw).get? Key.destinationResource =
          raw.record.get? Key.destinationResource :=
        get?_sourced (by decide) (by decide) (by decide)
      rw [decorate_record, ← hraw, ← EventRecord.field_congr hraw]
      exact EventRecord.get?_fillIfEmpty_self _ _ _

section Captured

theorem captured_source : captureResource (decorate client name raw).record.toDocument
    Key.sourceResource "resc_hier" "resc_name" .root =
      (decorate client name raw).record.field Key.sourceResource := by
  have hinput : (decorate client name raw).record.get? Key.condInput =
      (sourced client name raw).get? Key.condInput := by
    rw [decorate_record, EventRecord.get?_fillIfEmpty_of_ne (by decide)]
  rw [EventRecord.captureResource_congr get?_decorate_source hinput,
    EventRecord.field_congr get?_decorate_source]
  exact EventRecord.captureResource_fillIfEmpty rfl

theorem captured_destination : captureResource (decorate client name raw).record.toDocument
    Key.destinationResource "dest_resc_hier" "dest_resc_name" .root =
      (decorate client name raw).record.field Key.destinationResource := by
  rw [decorate_record]
  refine EventRecord.captureResource_fillIfEmpty ?_
  -- filling in the source moves nothing that the destination is read from
  refine (EventRecord.captureResource_congr ?_ ?_).symm
  · rw [sourced, EventRecord.get?_fillIfEmpty_of_ne (by decide)]
  · rw [sourced, EventRecord.get?_fillIfEmpty_of_ne (by decide)]

theorem captured_user (h : raw.record.TextOrAbsent Key.userName) :
    (Capture.ofParameters (decorate client name raw).record.toDocument .root).userName =
      (decorate client name raw).record.field Key.userName := by
  by_cases hfield : (decorate client name raw).record.field Key.userName = ""
  · have hcomm : (decorate client name raw).record.toDocument.get? Key.comm =
        some client.toDocument := (completes_decorate client name raw).comm
    -- an empty field was not filled in, so the client has no name either
    have hunfilled : (decorate client name raw).record.get? Key.userName =
        raw.record.get? Key.userName ∧ client.userName = "" := by
      rw [EventRecord.field_congr get?_decorate_user] at hfield
      have hraw : (stamped client name raw).get? Key.userName =
          raw.record.get? Key.userName := get?_stamped (by decide)
      rw [get?_decorate_user, ← hraw]
      rcases EventRecord.fillIfEmpty_cases (stamped client name raw) Key.userName client.userName
        with ⟨hsame, hempty⟩ | ⟨-, hne, htext⟩
      · rw [named, hsame] at hfield ⊢
        exact ⟨rfl, hempty.resolve_left fun hne => hne hfield⟩
      · rw [named, EventRecord.field_of_text htext] at hfield
        exact absurd hfield hne
    obtain ⟨hget, hclient⟩ := hunfilled
    have hnone : (decorate client name raw).record.toDocument.filledField? Key.userName = none :=
      EventRecord.filledField?_of_field_eq (fun value hvalue => h value (hget ▸ hvalue)) hfield
    have hname := client.filledField?_toDocument
    simp only [Capture.ofParameters, hnone, hcomm, Option.none_or, Option.bind_some, hname,
      hclient, hfield]
  · simp [Capture.ofParameters, EventRecord.filledField?_of_field_ne hfield]

theorem captured_path (h : raw.record.Plain) :
    (Capture.ofParameters (decorate client name raw).record.toDocument .root).logicalPath =
      (decorate client name raw).record.field Key.logicalPath := by
  have hpath : (decorate client name raw).record.get? Key.logicalPath =
      raw.record.get? Key.logicalPath :=
    (completes_decorate client name raw).kept _ (by decide) (by decide)
  have hobject : (decorate client name raw).record.get? "obj_path" =
      raw.record.get? "obj_path" :=
    (completes_decorate client name raw).kept _ (by decide) (by decide)
  by_cases hfield : (decorate client name raw).record.field Key.logicalPath = ""
  · have hnone : (decorate client name raw).record.toDocument.filledField? Key.logicalPath =
        none :=
      EventRecord.filledField?_of_field_eq (fun value hvalue => h.path value (hpath ▸ hvalue))
        hfield
    have hother : (decorate client name raw).record.toDocument.filledField? "obj_path" = none := by
      rcases h.object with habsent | hsame
      · rw [EventRecord.filledField?_toDocument, hobject, habsent]
        rfl
      · rw [EventRecord.filledField?_toDocument, hobject, hsame, ← hpath,
          ← EventRecord.filledField?_toDocument, hnone]
    simp [Capture.ofParameters, hnone, hother, hfield]
  · simp [Capture.ofParameters, EventRecord.filledField?_of_field_ne hfield]

/-- What a policy captures from a completed record is what a conditional tests. -/
theorem captured_decorate (h : raw.record.Plain) :
    Capture.ofParameters (decorate client name raw).record.toDocument .root =
      (decorate client name raw).record.tested :=
  EventRecord.captured_eq_tested (captured_user h.user) (captured_path h) captured_source
    captured_destination

end Captured

end Classifier

/-- The records in flight are plain. -/
def Session.Plain (s : Session) : Prop :=
  ∀ handle record, s.peek? handle = some record → record.Plain

namespace Classifier

variable {s : Session} {point : InterceptionPoint} {arguments : CallArguments}

/-- A record as the handler of a call writes it. -/
inductive Written : EventRecord → Prop
  | object (input : DataObjectInput) : Written (objectRecord input)
  | collection (input : CollectionInput) : Written ⟨input.toFields⟩
  | metadata (entity : EntityType) (target : String) (details : Document) :
      Written ⟨Fields.ofList [(entityKey entity, .text target), (Key.metadata, details)]⟩
  | admin {key : String} (input : AdminInput) (hkey : adminKey? input.target = some key) :
      Written ⟨Fields.ofList [("operation", .text input.operation),
        ("target", .text input.target), ("arguments", .ofTexts input.arguments),
        (key, .text input.name)]⟩

theorem plain_objectRecord (input : DataObjectInput) : (objectRecord input).Plain := by
  refine .of_texts none (some input.path) ?_ ?_ (.inr ?_) <;>
    simp [EventRecord.get?, objectRecord, DataObjectInput.toFields, Fields.ofList, Fields.overlay,
      Fields.get?_insert, Key.userName, Key.logicalPath, Key.condInput]

theorem plain_metadataRecord (entity : EntityType) (target : String) (details : Document) :
    (EventRecord.mk (Fields.ofList [(entityKey entity, .text target),
      (Key.metadata, details)])).Plain := by
  have hget (key : String) : (EventRecord.mk (Fields.ofList [(entityKey entity, .text target),
      (Key.metadata, details)])).get? key =
        if key = Key.metadata then some details
        else if key = entityKey entity then some (.text target) else none := by
    simp [EventRecord.get?, Fields.ofList, Fields.overlay, Fields.get?_insert]
  refine .of_texts (if Key.userName = entityKey entity then some target else none)
    (if Key.logicalPath = entityKey entity then some target else none) ?_ ?_ (.inl ?_) <;>
    rw [hget] <;> cases entity <;> rfl

theorem plain_adminRecord (input : AdminInput) {key : String}
    (h : adminKey? input.target = some key) : (EventRecord.mk (Fields.ofList
        [("operation", .text input.operation), ("target", .text input.target),
          ("arguments", .ofTexts input.arguments), (key, .text input.name)])).Plain := by
  have hkey : key = Key.userName ∨ key = Key.sourceResource ∨ key = "zone" := by
    unfold adminKey? at h
    split at h <;> simp_all
  refine .of_texts (if key = Key.userName then some input.name else none) none ?_ ?_ (.inl ?_) <;>
    rcases hkey with rfl | rfl | rfl <;>
    simp [EventRecord.get?, Fields.ofList, Fields.overlay, Fields.get?_insert, Key.userName,
      Key.logicalPath, Key.sourceResource]

namespace Written

variable {record : EventRecord}

theorem plain (h : Written record) : record.Plain := by
  cases h with
  | object input => exact plain_objectRecord input
  | metadata entity target details => exact plain_metadataRecord entity target details
  | admin input hkey => exact plain_adminRecord input hkey
  | collection input =>
    refine .of_texts none (some input.name) ?_ ?_ (.inl ?_) <;>
      simp [EventRecord.get?, CollectionInput.toFields, Fields.ofList, Fields.overlay,
        Fields.get?_insert, Key.userName, Key.logicalPath, Key.condInput]

theorem ordered (h : Written record) : record.fields.Ordered := by
  cases h with
  | object =>
    dsimp only [objectRecord, DataObjectInput.toFields]
    exact Fields.ordered_ofList _
  | collection =>
    dsimp only [CollectionInput.toFields]
    exact Fields.ordered_ofList _
  | metadata => exact Fields.ordered_ofList _
  | admin => exact Fields.ordered_ofList _

end Written

/-- Whatever is reported has a record that was written for the call or is in flight. -/
def Reported (s : Session) (result : Except ClassifierError (List ClassifiedEvent)) : Prop :=
  ∀ items, result = .ok items → ∀ item ∈ items,
    Written item.record ∨ ∃ handle, s.peek? handle = some item.record

theorem Reported.error (e : ClassifierError) : Reported s (.error e) := nofun

theorem Reported.ok {items : List ClassifiedEvent} (h : ∀ item ∈ items,
    Written item.record ∨ ∃ handle, s.peek? handle = some item.record) : Reported s (.ok items) :=
  fun _ hitems => Except.ok.inj hitems ▸ h

theorem Reported.of_written {items : List ClassifiedEvent}
    (h : ∀ item ∈ items, Written item.record) : Reported s (.ok items) :=
  .ok fun item hitem => .inl (h item hitem)

theorem reported_closeObject : Reported s (closeObject s point arguments).2 := by
  unfold closeObject
  cases handleOf point arguments with
  | error e => exact .error e
  | ok handle =>
    dsimp only
    cases hpeek : s.peek? handle with
    | none =>
      dsimp only [missingHandle]
      split
      · exact .ok (by simp)
      · exact .error _
    | some record =>
      dsimp only [closeEvents]
      split
      · exact .error _
      split
      · exact .error _
      · refine .ok fun item hitem => .inr ⟨handle, ?_⟩
        rcases List.mem_cons.mp hitem with rfl | hitem
        · exact hpeek
        · split at hitem
          · exact List.mem_singleton.mp hitem ▸ hpeek
          · cases hitem

theorem reported_seekObject : Reported s (seekObject s point arguments) := by
  unfold seekObject
  cases handleOf point arguments with
  | error e => exact .error e
  | ok handle =>
    dsimp only
    cases hpeek : s.peek? handle with
    | none =>
      dsimp only [missingHandle]
      split
      · exact .ok (by simp)
      · exact .error _
    | some record => exact .ok (by simpa using .inr ⟨handle, hpeek⟩)

theorem reported_openObject : Reported s (openObject s point arguments).2 := by
  have hopen (input : DataObjectInput) (handle : Option Handle) :
      Reported s (openInput s input handle).2 := by
    refine .of_written ?_
    split <;> simp [Written.object]
  cases arguments with
  | opened input handle => exact hopen input handle
  | dataObject input => exact hopen input none
  | _ => exact .error _

theorem reported_bulkPut : Reported s (bulkPut point arguments) := by
  cases arguments with
  | bulkPut paths offsets keywords =>
    dsimp only [bulkPut]
    split
    · exact .error _
    split
    · exact .error _
    · refine .of_written ?_
      intro item hitem
      obtain ⟨i, hi, rfl⟩ := List.getElem_of_mem hitem
      rw [List.getElem_zipWith]
      exact .object _
  | _ => exact .error _

theorem reported_copyOrRename : Reported s (copyOrRename point arguments) := by
  cases arguments with
  | copy source destination =>
    dsimp only [copyOrRename]
    split <;> exact .of_written (by simp [Written.object])
  | _ => exact .error _

theorem reported_dataObject {event : Event} : Reported s (dataObject point event arguments) := by
  cases arguments with
  | dataObject input => exact .of_written (by simp [Written.object])
  | _ => exact .error _

theorem reported_collection : Reported s (collection point arguments) := by
  cases arguments with
  | collection input =>
    dsimp only [collection]
    split
    · exact .of_written (by simp [Written.collection])
    · exact .error _
  | _ => exact .error _

theorem reported_metadata : Reported s (metadata point arguments) := by
  cases arguments with
  | metadata input =>
    dsimp only [metadata]
    split
    · exact .error _
    · refine .of_written ?_
      simpa using Written.metadata _ _ _
  | _ => exact .error _

theorem reported_generalAdmin : Reported s (generalAdmin point arguments) := by
  cases arguments with
  | admin input =>
    dsimp only [generalAdmin]
    split
    · next hkey =>
      refine .of_written ?_
      simpa using Written.admin input hkey
    · exact .ok (by simp)
  | _ => exact .error _

theorem reported_handle : Reported s (handle s point arguments).2 := by
  unfold handle
  split
  · cases arguments with
    | hierarchyResolution operation => exact .ok (by simp)
    | _ => exact .error _
  any_goals exact reported_openObject
  any_goals exact reported_closeObject
  any_goals exact reported_collection
  any_goals exact reported_copyOrRename
  · exact reported_seekObject
  · exact reported_bulkPut
  · exact reported_metadata
  · exact reported_generalAdmin
  · split
    · exact reported_dataObject
    · exact .error _

/-- To complete a record leaves its keys in order. -/
theorem ordered_decorate (client : ClientInfo) (name : String) {raw : ClassifiedEvent}
    (h : raw.record.fields.Ordered) : (decorate client name raw).record.fields.Ordered := by
  have hfill {r : EventRecord} (hr : r.fields.Ordered) (key value : String) :
      (r.fillIfEmpty key value).fields.Ordered := by
    unfold EventRecord.fillIfEmpty
    split
    · exact hr.insert _ _
    · exact hr
  have hstamped : (stamped client name raw).fields.Ordered :=
    ((h.insert _ _).insert _ _).insert _ _
  rw [decorate_record]
  exact hfill (hfill (hfill hstamped _ _) _ _) _ _

theorem handle_client (s : Session) (call : HookCall)
    (hpoint : InterceptionPoint.parse? call.name = some point) :
    (handle s point call.arguments).1.client = s.client := by
  have hafter : s.after call = (handle s point call.arguments).1 := by
    simp [Session.after, classify, hpoint]
  rw [← hafter, Session.after_eq_apply, Session.client_apply]

end Classifier

namespace Session

variable {s : Session} {call : HookCall}

/-- A session that classified calls brought about has plain records in flight. -/
theorem plain_replay (client : ClientInfo) (calls : List HookCall) :
    ((start client).replay calls).Plain := by
  intro handle record hrecord
  obtain ⟨input, -, rfl⟩ := (peek?_replay client calls handle record).mp hrecord
  exact Classifier.plain_objectRecord input

theorem reports_eq_ok {events : List ClassifiedEvent} (h : s.reports call = .ok events) :
    ∃ point raw, InterceptionPoint.parse? call.name = some point ∧
      (Classifier.handle s point call.arguments).2 = .ok raw ∧
      events = raw.map (Classifier.decorate s.client call.name) := by
  unfold reports classify at h
  cases hpoint : InterceptionPoint.parse? call.name with
  | none =>
    rw [hpoint] at h
    cases h
  | some point =>
    rw [hpoint] at h
    have hclient := Classifier.handle_client s call hpoint
    cases hraw : (Classifier.handle s point call.arguments).2 with
    | error e =>
      simp only [hraw] at h
      cases h
    | ok raw =>
      simp only [hraw, hclient] at h
      exact ⟨point, raw, rfl, hraw, (Except.ok.inj h).symm⟩

/-- In a session that classified calls brought about, no record that is reported has a key
twice. -/
theorem distinct_of_reports (client : ClientInfo) (calls : List HookCall)
    {events : List ClassifiedEvent}
    (h : ((start client).replay calls).reports call = .ok events) :
    ∀ item ∈ events, item.record.fields.Distinct := by
  obtain ⟨point, raw, -, hraw, rfl⟩ := reports_eq_ok h
  intro item hitem
  obtain ⟨bare, hbare, rfl⟩ := List.mem_map.mp hitem
  refine (Classifier.ordered_decorate _ _ ?_).distinct
  rcases Classifier.reported_handle raw hraw bare hbare with hwritten | ⟨handle, hflight⟩
  · exact hwritten.ordered
  · obtain ⟨input, -, hrecord⟩ := (peek?_replay client calls handle _).mp hflight
    exact hrecord ▸ (Classifier.Written.object input).ordered

/-- A completed record keeps what the handler of its call wrote, and a policy that captures
its parameters finds in it what a conditional tests. -/
theorem records_complete {events : List ClassifiedEvent} (h : s.reports call = .ok events) :
    (∃ point raw, InterceptionPoint.parse? call.name = some point ∧
      (Classifier.handle s point call.arguments).2 = .ok raw ∧
      List.Forall₂ (Classifier.Completes s.client call.name) raw events) ∧
    (s.Plain → ∀ item ∈ events,
      Capture.ofParameters item.record.toDocument .root = item.record.tested) := by
  obtain ⟨point, raw, hpoint, hraw, rfl⟩ := reports_eq_ok h
  constructor
  · refine ⟨point, raw, hpoint, hraw, ?_⟩
    rw [List.forall₂_map_right_iff]
    exact List.forall₂_same.mpr fun item _ => Classifier.completes_decorate _ _ item
  · intro hs item hitem
    obtain ⟨bare, hbare, rfl⟩ := List.mem_map.mp hitem
    refine Classifier.captured_decorate ?_
    rcases Classifier.reported_handle raw hraw bare hbare with hwritten | ⟨handle, hflight⟩
    · exact hwritten.plain
    · exact hs handle _ hflight

/-- An object is got whose place is given by a hierarchy. -/
def download : HookCall where
  name := "data_obj_get_post"
  arguments := .dataObject
    { path := "/zone/home/f", keywords := [("resc_hier", "root;mid;leaf")] }

def opening : HookCall where
  name := "data_obj_open_post"
  arguments := .opened { path := "/zone/home/f" } (some 3)

theorem records_complete_download :
    let client := ClientInfo.forUser "alice" "zone"
    let s := (start client).replay [opening]
    ∃ events, s.reports download = .ok events ∧
      (∃ point raw, InterceptionPoint.parse? download.name = some point ∧
        (Classifier.handle s point download.arguments).2 = .ok raw ∧
        List.Forall₂ (Classifier.Completes s.client download.name) raw events) ∧
      ∀ item ∈ events, Capture.ofParameters item.record.toDocument .root = item.record.tested := by
  intro client s
  have hpoint : InterceptionPoint.parse? "data_obj_get_post" =
      some ⟨"data_obj_get_post", "data_obj_get", .post⟩ := by decide
  have hreports : ∃ events, s.reports download = .ok events := by
    simp [reports, classify, download, hpoint, Classifier.handle, tableEvent?,
      Classifier.dataObject, Except.map]
  obtain ⟨events, hevents⟩ := hreports
  obtain ⟨hcompletes, hcaptured⟩ := records_complete hevents
  exact ⟨events, hevents, hcompletes, hcaptured (plain_replay client [opening])⟩

/-- A record of any shape can be put in flight: of this one the path stands under the
other key only, and the user is a number. -/
def oddRecord : EventRecord where
  fields := [("obj_path", .text "/zone/home/f"), (Key.userName, .number (.whole 7))]

def seeking : HookCall where
  name := "data_obj_lseek_post"
  arguments := .descriptor { handle := 3 }

/-- The number is written over, and the path that a policy captures is none that a
conditional sees. -/
theorem oddRecord_captured_otherwise :
    let s := (start (.forUser "alice" "zone")).track 3 oddRecord
    ∃ item, s.reports seeking = .ok [item] ∧
      item.record.field Key.userName = "alice" ∧
      (Capture.ofParameters item.record.toDocument .root).logicalPath = "/zone/home/f" ∧
      item.record.field Key.logicalPath = "" := by
  intro s
  have hcall : seeking.handleFor? HookCall.seekOperations = some 3 := by decide
  have hrecord : s.peek? 3 = some oddRecord := rfl
  have hreports := reports_of_seek hcall hrecord
  exact ⟨_, hreports, by decide +kernel, by decide +kernel, by decide +kernel⟩

end Session

end GridPolicy
