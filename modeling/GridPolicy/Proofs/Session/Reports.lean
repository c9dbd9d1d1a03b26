import GridPolicy.Proofs.Session.History
import GridPolicy.Proofs.Text.Integer

/-!
# What closes and seeks report

A close is classified by the record of the open, a seek reports that record. The
flags travel through the record as decimal text and come back as they were, so with
the history of a session it is known what each close and each seek in it reports.
-/
namespace GridPolicy

namespace Classifier

/-- The flags of an open come back from the text in its record as they were. -/
theorem openFlags_of_objectRecord (input : DataObjectInput) :
    Text.int32? ((objectRecord input).field "open_flags") = some input.openFlags.toInt := by
  have hfield : (objectRecord input).field "open_flags" = toString input.openFlags.toInt := by
    simp [EventRecord.field, EventRecord.get?, objectRecord, DataObjectInput.toFields, numberText,
      Fields.ofList, Fields.overlay, Fields.get?_insert, Key.logicalPath, Key.condInput,
      Document.text?]
  rw [hfield, Text.int32?_toString]

/-- What is reported of a close: the event, and the truncation that the open asked for. -/
def closing (event : Event) (input : DataObjectInput) : List ClassifiedEvent :=
  ⟨event, objectRecord input⟩ ::
    if hasTruncateFlag input.openFlags.toInt then [⟨.truncate, objectRecord input⟩] else []

theorem closeEvents_eq_ok {point : InterceptionPoint} {operation : String} {event : Event}
    {input : DataObjectInput}
    (h : closeEvent? operation input.openFlags.toInt = some event) :
    closeEvents point (some operation) (objectRecord input) = .ok (closing event input) := by
  simp [closeEvents, openFlags_of_objectRecord, h, closing]

/-- A close fails without an operation, and with one that stands for no event. -/
theorem closeEvents_eq_error_iff {point : InterceptionPoint} {operation : Option String}
    {input : DataObjectInput} :
    (∃ e, closeEvents point operation (objectRecord input) = .error e) ↔
      ∀ word, operation = some word → closeEvent? word input.openFlags.toInt = none := by
  cases operation with
  | none => simp [closeEvents]
  | some word =>
    cases hevent : closeEvent? word input.openFlags.toInt with
    | none => simp [closeEvents, openFlags_of_objectRecord, hevent]
    | some event => simp [closeEvents_eq_ok hevent, hevent]

end Classifier

namespace HookCall

theorem point_of_handleFor? {operations : List String} {call : HookCall} {handle : Handle}
    (h : call.handleFor? operations = some handle) :
    ∃ point, InterceptionPoint.parse? call.name = some point ∧ point.base ∈ operations ∧
      Classifier.handleOf point call.arguments = .ok handle := by
  unfold handleFor? at h
  obtain ⟨point, hpoint, hhandle⟩ := Option.bind_eq_some_iff.mp h
  split at hhandle
  · next hbase =>
    refine ⟨point, hpoint, hbase, ?_⟩
    cases hread : Classifier.handleOf point call.arguments with
    | ok read =>
      rw [hread] at hhandle
      exact congrArg Except.ok (Option.some.inj hhandle)
    | error e =>
      rw [hread] at hhandle
      cases hhandle
  · cases hhandle

end HookCall

namespace Session

variable {s : Session} {call : HookCall} {handle : Handle} {record : EventRecord}

theorem reports_of_close (hcall : call.handleFor? HookCall.closeOperations = some handle)
    (hrecord : s.peek? handle = some record) :
    ∃ point, s.reports call =
      (Classifier.closeEvents point s.hierarchyOperation record).map fun events =>
        events.map (Classifier.decorate s.client call.name) := by
  obtain ⟨point, hpoint, hbase, hhandle⟩ := HookCall.point_of_handleFor? hcall
  have hclient : (Classifier.closeObject s point call.arguments).1.client = s.client := by
    rw [Classifier.closeObject_session, client_apply]
  have hevents : (Classifier.closeObject s point call.arguments).2 =
      Classifier.closeEvents point s.hierarchyOperation record := by
    simp [Classifier.closeObject, hhandle, hrecord]
  refine ⟨point, ?_⟩
  simp only [reports, classify, hpoint, Classifier.handle_of_close hbase, hclient, hevents]

theorem reports_of_seek (hcall : call.handleFor? HookCall.seekOperations = some handle)
    (hrecord : s.peek? handle = some record) :
    s.reports call = .ok [Classifier.decorate s.client call.name ⟨.seek, record⟩] := by
  obtain ⟨point, hpoint, hbase, hhandle⟩ := HookCall.point_of_handleFor? hcall
  simp [reports, classify, hpoint, Classifier.handle_of_seek hbase, Classifier.seekObject,
    hhandle, hrecord, Except.map]

/-- The session is the history of the calls: what it holds, and what the next call
finds in it. -/
structure Remembers (client : ClientInfo) (calls : List HookCall) (s : Session) : Prop where
  /-- A handle is in flight if it was opened and not closed since. -/
  inFlight : ∀ handle, (s.peek? handle).isSome ↔
    ∃ input, Latest (HookCall.Opens handle) (HookCall.Closes handle) calls input
  /-- Its record is that of the last open, undecorated. -/
  record : ∀ handle record, s.peek? handle = some record ↔
    ∃ input, HookCall.LastOpen handle calls input ∧ record = Classifier.objectRecord input
  operation : ∀ operation, s.hierarchyOperation = some operation ↔
    Latest HookCall.Resolves (fun later => ∃ other, later.Resolves other) calls operation
  /-- A close in any phase reports the event that the operation and the flags of the
  open stand for, and fails only if there is none. -/
  close : ∀ (call : HookCall) handle input,
    call.handleFor? HookCall.closeOperations = some handle →
    HookCall.LastOpen handle calls input →
    (∀ operation event, s.hierarchyOperation = some operation →
      closeEvent? operation input.openFlags.toInt = some event →
      s.reports call =
        .ok ((Classifier.closing event input).map (Classifier.decorate client call.name))) ∧
    ((∃ e, s.reports call = .error e) ↔
      ∀ operation, s.hierarchyOperation = some operation →
        closeEvent? operation input.openFlags.toInt = none)
  seek : ∀ (call : HookCall) handle input,
    call.handleFor? HookCall.seekOperations = some handle →
    HookCall.LastOpen handle calls input →
    s.reports call =
      .ok [Classifier.decorate client call.name ⟨.seek, Classifier.objectRecord input⟩]
  /-- A call that neither opens, closes nor resolves leaves the session as it is. -/
  other : ∀ call : HookCall, call.effect = .nothing → s.after call = s

/-- After any calls whatever, the session of a client is their history. -/
theorem replay_remembers (client : ClientInfo) (calls : List HookCall) :
    Remembers client calls ((start client).replay calls) where
  inFlight := inFlight_replay client calls
  record := peek?_replay client calls
  operation := hierarchyOperation_replay client calls
  close := by
    intro call handle input hcall hopen
    have hrecord := (peek?_replay client calls handle _).mpr ⟨input, hopen, rfl⟩
    obtain ⟨point, hreports⟩ := reports_of_close hcall hrecord
    rw [hreports, client_replay]
    constructor
    · intro operation event hoperation hevent
      rw [hoperation, Classifier.closeEvents_eq_ok hevent]
      rfl
    · rw [← Classifier.closeEvents_eq_error_iff]
      cases Classifier.closeEvents point ((start client).replay calls).hierarchyOperation
        (Classifier.objectRecord input) <;> simp [Except.map]
  seek := by
    intro call handle input hcall hopen
    have hrecord := (peek?_replay client calls handle _).mpr ⟨input, hopen, rfl⟩
    rw [reports_of_seek hcall hrecord, client_replay]
    rfl
  other := by
    intro call hnothing
    rw [after_eq_apply, hnothing]
    rfl

/-- An object is opened for writing, anew. -/
def rewriting : List HookCall :=
  [⟨"resolve_hierarchy_post", .hierarchyResolution "OPEN"⟩,
    ⟨"data_obj_open_post", .opened { path := "/zone/home/f", openFlags := 0x201 } (some 3)⟩]

/-- The truncation that was asked for is reported at the close as well. -/
example : (((start {}).replay rewriting).reports
    ⟨"data_obj_close_post", .descriptor { handle := 3 }⟩).toOption.map
      (·.map ClassifiedEvent.event) = some [.write, .truncate] := by decide +kernel

end Session

end GridPolicy
