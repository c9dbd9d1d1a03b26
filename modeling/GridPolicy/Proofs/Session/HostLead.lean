import GridPolicy.Proofs.Session.Records
import Mathlib.Data.List.Nodup

/-!
# The lead of the host

The host may put a lead in front of the name of an operation. The lead is taken off before
anything is decided, but what is reported quotes the name as the host gave it: a record
under one key, an error in its text. Two points that differ in nothing but that name are
therefore handled alike, and each report of one becomes that of the other by writing the
other name into it.
-/
namespace GridPolicy

namespace Fields

variable {key other : String} (value second : Document) (fields : Fields)

/-- Of two values given to a key one after the other, the later one counts. -/
theorem insert_insert_self :
    (fields.insert key value).insert key second = fields.insert key second := by
  induction fields with
  | nil => simp [insert]
  | cons field rest ih =>
    obtain ⟨k, v⟩ := field
    by_cases hk : k = key
    · simp [insert, hk]
    · by_cases hlt : key < k
      · simp [insert, hk, hlt]
      · simp [insert, hk, hlt, ih]

theorem insert_comm_of_lt (hlt : key < other) :
    (fields.insert key value).insert other second =
      (fields.insert other second).insert key value := by
  have hne : key ≠ other := fun heq => String.lt_irrefl _ (heq ▸ hlt)
  have hnot : ¬other < key := String.lt_asymm hlt
  induction fields with
  | nil => simp [insert, hne, hne.symm, hlt, hnot]
  | cons field rest ih =>
    obtain ⟨k, v⟩ := field
    by_cases hkey : k = key
    · simp [insert, hkey, hne, hnot]
    by_cases hother : k = other
    · simp [insert, hother, hne, hne.symm, hlt, hnot]
    by_cases hbefore : key < k
    · by_cases hafter : other < k <;>
        simp [insert, hkey, hother, hne, hne.symm, hlt, hnot, hbefore, hafter]
    · have hafter : ¬other < k := fun h => hbefore (String.lt_trans hlt h)
      simp [insert, hkey, hother, hbefore, hafter, ih]

/-- Values given to different keys do not get into each other's way. -/
theorem insert_comm (hne : key ≠ other) :
    (fields.insert key value).insert other second =
      (fields.insert other second).insert key value := by
  by_cases hlt : key < other
  · exact insert_comm_of_lt value second fields hlt
  · have hgt : other < key := Std.lt_of_le_of_ne (String.not_lt.mp hlt) hne.symm
    exact (insert_comm_of_lt second value fields hgt).symm

end Fields

namespace EventRecord

variable {key other : String}

theorem insert_insert_self (r : EventRecord) (value second : Document) :
    (r.insert key value).insert key second = r.insert key second :=
  congrArg EventRecord.mk (Fields.insert_insert_self value second r.fields)

theorem insert_comm (hne : key ≠ other) (r : EventRecord) (value second : Document) :
    (r.insert key value).insert other second = (r.insert other second).insert key value :=
  congrArg EventRecord.mk (Fields.insert_comm value second r.fields hne)

/-- A field is filled in before another one is written as it is after it. -/
theorem fillIfEmpty_insert (hne : other ≠ key) (r : EventRecord) (value : Document)
    (text : String) :
    (r.insert key value).fillIfEmpty other text = (r.fillIfEmpty other text).insert key value := by
  have hfield : (r.insert key value).field other = r.field other :=
    field_congr (by simp [hne])
  unfold fillIfEmpty
  rw [hfield]
  split
  · exact insert_comm hne.symm r _ _
  · rfl

/-- Of a resource nothing is captured from any further field. -/
theorem captureResource_insert {hierarchyKey nameKey : String} {tag : HierarchyEnd}
    (hne : other ≠ key) (hinput : Key.condInput ≠ key) (r : EventRecord) (value : Document) :
    captureResource (r.insert key value).toDocument other hierarchyKey nameKey tag =
      captureResource r.toDocument other hierarchyKey nameKey tag :=
  captureResource_congr (by simp [hne]) (by simp [hinput])

end EventRecord

namespace Text

theorem after?_eq_none {lead name : String} (h : ¬lead.toList <+: name.toList) :
    after? lead name = none := by
  rw [after?, Option.map_eq_none_iff]
  cases hrest : lead.toList.isPrefixOf? name.toList with
  | none => rfl
  | some rest => exact absurd ⟨rest, List.isPrefixOf?_eq_some_iff_append_eq.mp hrest⟩ h

theorem after?_append (lead name : String) : after? lead (lead ++ name) = some name := by
  have hrest : lead.toList.isPrefixOf? (lead ++ name).toList = some name.toList :=
    List.isPrefixOf?_eq_some_iff_append_eq.mpr String.toList_append.symm
  rw [after?, hrest, Option.map_some, String.ofList_toList]

end Text

namespace InterceptionPoint

/-- The name begins with no lead of the host. -/
def Unled (name : String) : Prop := ∀ lead ∈ hostLeads, ¬lead.toList <+: name.toList

instance : DecidablePred Unled := fun name =>
  inferInstanceAs (Decidable (∀ lead ∈ hostLeads, ¬lead.toList <+: name.toList))

/-- The point under another name, with the same operation and phase. -/
def called (point : InterceptionPoint) (name : String) : InterceptionPoint := { point with name }

theorem withoutLead_eq_self {name : String} (h : Unled name) : withoutLead name = name := by
  have hnone : hostLeads.findSome? (Text.after? · name) = none :=
    List.findSome?_eq_none_iff.mpr fun lead hlead => Text.after?_eq_none (h lead hlead)
  rw [withoutLead, hnone, Option.getD_none]

/-- Neither lead begins with the other one, so the one that was put in front is taken off. -/
theorem withoutLead_append {lead : String} (hlead : lead ∈ hostLeads) (name : String) :
    withoutLead (lead ++ name) = name := by
  simp only [hostLeads, List.mem_cons, List.not_mem_nil, or_false] at hlead
  rcases hlead with rfl | rfl
  · simp [withoutLead, hostLeads, Text.after?_append]
  · have hother : Text.after? "pep_api_" ("pep_resource_" ++ name) = none := by
      apply Text.after?_eq_none
      simp
    simp [withoutLead, hostLeads, Text.after?_append, hother]

theorem parse?_append {lead name : String} (hlead : lead ∈ hostLeads) (hname : Unled name) :
    parse? (lead ++ name) = (parse? name).map (·.called (lead ++ name)) := by
  unfold parse?
  rw [withoutLead_append hlead, withoutLead_eq_self hname]
  cases Text.cutLast '_' name.toList with
  | none => rfl
  | some parts =>
    obtain ⟨base, phase⟩ := parts
    cases base with
    | nil => rfl
    | cons c base =>
      dsimp only
      cases Phase.ofName? (String.ofList phase) <;> rfl

theorem name_of_parse? {name : String} {point : InterceptionPoint} (h : parse? name = some point) :
    point.name = name := by
  unfold parse? at h
  split at h
  · cases h
  · cases h
  · obtain ⟨phase, -, rfl⟩ := Option.map_eq_some_iff.mp h
    rfl

end InterceptionPoint

/-- The error as it is at a point of another name. -/
def ClassifierError.called (name : String) : ClassifierError → ClassifierError
  | .malformedName _ => .malformedName name
  | .unsupportedPoint _ => .unsupportedPoint name
  | .unexpectedArguments _ expected actual => .unexpectedArguments name expected actual
  | .unknownHandle _ handle => .unknownHandle name handle
  | .missingHierarchyOperation _ => .missingHierarchyOperation name
  | .invalidArgument _ detail => .invalidArgument name detail

/-- The event as it is at a point of another name. -/
def ClassifiedEvent.called (name : String) (item : ClassifiedEvent) : ClassifiedEvent :=
  { item with record := item.record.insert Key.enforcementPoint (.text name) }

theorem ClassifiedEvent.eq_called {name : String} {item other : ClassifiedEvent}
    (hevent : other.event = item.event)
    (hrecord : other.record = item.record.insert Key.enforcementPoint (.text name)) :
    other = item.called name := by
  obtain ⟨event, record⟩ := other
  rw [called, ← hevent, ← hrecord]

namespace Classifier

variable {s : Session} {point : InterceptionPoint} {arguments : CallArguments} {name : String}

/-- What is reported at a point of another name. -/
def renamed (name : String) (result : Except ClassifierError (List ClassifiedEvent)) :
    Except ClassifierError (List ClassifiedEvent) :=
  (result.mapError (ClassifierError.called name)).map fun items =>
    items.map (ClassifiedEvent.called name)

/-- The name of the point goes into a record once, and what is filled in later is read from
other fields. -/
theorem decorate_called (client : ClientInfo) (name other : String) (raw : ClassifiedEvent) :
    decorate client other raw = (decorate client name raw).called other := by
  have hstamped : stamped client other raw =
      (stamped client name raw).insert Key.enforcementPoint (.text other) := by
    simp only [stamped, EventRecord.stamp]
    rw [EventRecord.insert_comm (show Key.comm ≠ Key.enforcementPoint by decide),
      EventRecord.insert_insert_self]
  have hnamed : named client other raw =
      (named client name raw).insert Key.enforcementPoint (.text other) := by
    rw [named, hstamped, EventRecord.fillIfEmpty_insert (by decide), named]
  have hsource : (Capture.ofParameters (named client other raw).toDocument .root).sourceResource =
      (Capture.ofParameters (named client name raw).toDocument .root).sourceResource := by
    rw [hnamed]
    exact EventRecord.captureResource_insert (by decide) (by decide) _ _
  have hdestination :
      (Capture.ofParameters (named client other raw).toDocument .root).destinationResource =
        (Capture.ofParameters (named client name raw).toDocument .root).destinationResource := by
    rw [hnamed]
    exact EventRecord.captureResource_insert (by decide) (by decide) _ _
  have hsourced : sourced client other raw =
      (sourced client name raw).insert Key.enforcementPoint (.text other) := by
    simp only [sourced, hsource]
    rw [hnamed, EventRecord.fillIfEmpty_insert (by decide)]
  have hrecord : (decorate client other raw).record =
      (decorate client name raw).record.insert Key.enforcementPoint (.text other) := by
    rw [decorate_record, decorate_record, hsourced, hdestination,
      EventRecord.fillIfEmpty_insert (by decide)]
  exact ClassifiedEvent.eq_called rfl hrecord

/-- To complete what is reported under another name is to complete it and to write the other
name into it. -/
theorem renamed_decorate (client : ClientInfo) (name other : String)
    (result : Except ClassifierError (List ClassifiedEvent)) :
    renamed other (result.map fun raw => raw.map (decorate client name)) =
      (result.mapError (ClassifierError.called other)).map fun raw =>
        raw.map (decorate client other) := by
  cases result with
  | error e => rfl
  | ok raw =>
    have hcalled (item : ClassifiedEvent) :
        (decorate client name item).called other = decorate client other item :=
      (decorate_called client name other item).symm
    simp [renamed, Except.map, Except.mapError, hcalled]

/-! Each handler under another name -/

section

variable (name)

theorem handleOf_called : handleOf (point.called name) arguments =
    (handleOf point arguments).mapError (ClassifierError.called name) := by
  cases arguments with
  | replicaClose payload =>
    unfold handleOf
    dsimp only
    split
    · rfl
    · split <;> rfl
  | _ => rfl

theorem missingHandle_called (handle : Handle) : missingHandle (point.called name) handle =
    (missingHandle point handle).mapError (ClassifierError.called name) := by
  unfold missingHandle
  have hphase : (point.called name).phase = point.phase := rfl
  rw [hphase]
  split <;> rfl

theorem closeEvents_called (operation : Option String) (record : EventRecord) :
    closeEvents (point.called name) operation record =
      (closeEvents point operation record).mapError (ClassifierError.called name) := by
  cases operation with
  | none => rfl
  | some operation =>
    unfold closeEvents
    dsimp only
    split <;> rfl

theorem closeObject_called : closeObject s (point.called name) arguments =
    ((closeObject s point arguments).1,
      (closeObject s point arguments).2.mapError (ClassifierError.called name)) := by
  unfold closeObject
  rw [handleOf_called]
  cases handleOf point arguments with
  | error e => rfl
  | ok handle =>
    dsimp only [Except.mapError]
    cases s.peek? handle with
    | none => exact congrArg _ (missingHandle_called name handle)
    | some record => exact congrArg _ (closeEvents_called name s.hierarchyOperation record)

theorem seekObject_called : seekObject s (point.called name) arguments =
    (seekObject s point arguments).mapError (ClassifierError.called name) := by
  unfold seekObject
  rw [handleOf_called]
  cases handleOf point arguments with
  | error e => rfl
  | ok handle =>
    dsimp only [Except.mapError]
    cases s.peek? handle with
    | none => exact missingHandle_called name handle
    | some record => rfl

theorem bulkPut_called : bulkPut (point.called name) arguments =
    (bulkPut point arguments).mapError (ClassifierError.called name) := by
  cases arguments with
  | bulkPut paths offsets keywords =>
    unfold bulkPut
    dsimp only
    split
    · rfl
    · split <;> rfl
  | _ => rfl

theorem copyOrRename_called : copyOrRename (point.called name) arguments =
    (copyOrRename point arguments).mapError (ClassifierError.called name) := by
  cases arguments with
  | copy source destination =>
    unfold copyOrRename
    have hbase : (point.called name).base = point.base := rfl
    dsimp only
    rw [hbase]
    split <;> rfl
  | _ => rfl

theorem collection_called : collection (point.called name) arguments =
    (collection point arguments).mapError (ClassifierError.called name) := by
  cases arguments with
  | collection input =>
    unfold collection
    have hbase : (point.called name).base = point.base := rfl
    dsimp only
    rw [hbase]
    split <;> rfl
  | _ => rfl

theorem metadata_called : metadata (point.called name) arguments =
    (metadata point arguments).mapError (ClassifierError.called name) := by
  cases arguments with
  | metadata input =>
    unfold metadata
    dsimp only
    split <;> rfl
  | _ => rfl

theorem generalAdmin_called : generalAdmin (point.called name) arguments =
    (generalAdmin point arguments).mapError (ClassifierError.called name) := by
  cases arguments with
  | admin input =>
    unfold generalAdmin
    dsimp only
    split <;> rfl
  | _ => rfl

theorem resolveHierarchy_called : resolveHierarchy s (point.called name) arguments =
    ((resolveHierarchy s point arguments).1,
      (resolveHierarchy s point arguments).2.mapError (ClassifierError.called name)) := by
  cases arguments <;> rfl

theorem openObject_called : openObject s (point.called name) arguments =
    ((openObject s point arguments).1,
      (openObject s point arguments).2.mapError (ClassifierError.called name)) := by
  cases arguments <;> rfl

theorem dataObject_called (event : Event) : dataObject (point.called name) event arguments =
    (dataObject point event arguments).mapError (ClassifierError.called name) := by
  cases arguments <;> rfl

/-- Which handler a point has depends on its operation alone, and none makes any use of the
name but to quote it in an error. -/
theorem handle_called : handle s (point.called name) arguments =
    ((handle s point arguments).1,
      (handle s point arguments).2.mapError (ClassifierError.called name)) := by
  unfold handle
  have hbase : (point.called name).base = point.base := rfl
  rw [hbase]
  simp only [resolveHierarchy_called, openObject_called, closeObject_called, seekObject_called,
    bulkPut_called, copyOrRename_called, collection_called, metadata_called, generalAdmin_called,
    dataObject_called]
  split
  any_goals rfl
  split <;> rfl

end

end Classifier

/-- What is reported of a call quotes the name that the host gave it. -/
theorem renamed_classify (s : Session) (name : String) (arguments : CallArguments) :
    Classifier.renamed name (classify s name arguments).2 = (classify s name arguments).2 := by
  unfold classify
  cases hpoint : InterceptionPoint.parse? name with
  | none => rfl
  | some point =>
    have hself : point.called name = point := by
      rw [← InterceptionPoint.name_of_parse? hpoint]
      rfl
    have hcalled : Classifier.handle s (point.called name) arguments = _ :=
      Classifier.handle_called name
    rw [hself] at hcalled
    have hresult := congrArg Prod.snd hcalled
    dsimp only at hresult ⊢
    rw [Classifier.renamed_decorate, ← hresult]

/-- A lead of the host changes the name that is quoted and nothing else: the session comes to
be the same, the same events are reported with the same records but for the point, and an
error is of the same kind with the same details. -/
theorem classify_append {lead name : String} (s : Session) (arguments : CallArguments)
    (hlead : lead ∈ InterceptionPoint.hostLeads) (hname : InterceptionPoint.Unled name) :
    (classify s (lead ++ name) arguments).1 = (classify s name arguments).1 ∧
      (classify s (lead ++ name) arguments).2 =
        Classifier.renamed (lead ++ name) (classify s name arguments).2 ∧
      (classify s name arguments).2 = Classifier.renamed name (classify s name arguments).2 := by
  have hboth : classify s (lead ++ name) arguments =
      ((classify s name arguments).1,
        Classifier.renamed (lead ++ name) (classify s name arguments).2) := by
    unfold classify
    rw [InterceptionPoint.parse?_append hlead hname]
    cases InterceptionPoint.parse? name with
    | none => rfl
    | some point =>
      simp only [Option.map_some, Classifier.handle_called, Classifier.renamed_decorate]
  rw [hboth]
  exact ⟨rfl, rfl, (renamed_classify s name arguments).symm⟩

/-- With its lead a call to get an object is reported like the call without; and a name
without a phase is not accepted for the sake of one. -/
theorem classify_append_download :
    let s := Session.start (.forUser "alice" "zone")
    InterceptionPoint.Unled "data_obj_get_post" ∧ InterceptionPoint.Unled "data_obj_get" ∧
      (∃ item, (classify s "data_obj_get_post" Session.download.arguments).2 = .ok [item] ∧
        (classify s "pep_api_data_obj_get_post" Session.download.arguments).2 =
          .ok [item.called "pep_api_data_obj_get_post"]) ∧
      (classify s "pep_resource_data_obj_get" Session.download.arguments).2 =
        .error (.malformedName "pep_resource_data_obj_get") := by
  intro s
  have hapi : "pep_api_" ∈ InterceptionPoint.hostLeads := by decide
  have hresource : "pep_resource_" ∈ InterceptionPoint.hostLeads := by decide
  have hget : InterceptionPoint.Unled "data_obj_get_post" := by decide
  have hcut : InterceptionPoint.Unled "data_obj_get" := by decide
  have hpoint : InterceptionPoint.parse? "data_obj_get_post" =
      some ⟨"data_obj_get_post", "data_obj_get", .post⟩ := by decide
  have hnone : InterceptionPoint.parse? "data_obj_get" = none := by decide
  have hitem : ∃ item, (classify s "data_obj_get_post" Session.download.arguments).2 =
      .ok [item] := by
    simp [classify, Session.download, hpoint, Classifier.handle, tableEvent?,
      Classifier.dataObject, Except.map]
  refine ⟨hget, hcut, ?_, ?_⟩
  · obtain ⟨item, hok⟩ := hitem
    have hled := (classify_append s Session.download.arguments hapi hget).2.1
    rw [hok] at hled
    exact ⟨item, hok, hled⟩
  · have hled := (classify_append s Session.download.arguments hresource hcut).2.1
    simpa [classify, hnone, Classifier.renamed, Except.mapError, Except.map,
      ClassifierError.called] using hled

end GridPolicy
