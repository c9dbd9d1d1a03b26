import GridPolicy.Proofs.Event.Names
import GridPolicy.Proofs.Session.Reports

/-!
# Events that are reported

`OPEN` and `CREATE` are words of hierarchy resolution, and what they stand for shows at the
close. The word is kept without the blanks around it. That matters: a close compares it with
these two names as it is, and reads any other word as an event with blanks around it, so with
blanks kept the two would be read as events themselves.
-/
namespace GridPolicy

/-- What an operation that hierarchy resolution named is at the close of an object. -/
def Event.atClose (openFlags : Int) : Event → Event
  | .create => .put
  | .openObject => if hasWriteFlag openFlags then .write else .get
  | e => e

namespace Event

variable {e : Event} {openFlags : Int}

/-- Neither of the two words is reported of a close. -/
theorem atClose_ne (e : Event) (openFlags : Int) :
    e.atClose openFlags ≠ .openObject ∧ e.atClose openFlags ≠ .create := by
  unfold atClose
  split
  · decide
  · split <;> decide
  · next hcreate hopen => exact ⟨hopen, hcreate⟩

theorem atClose_of_ne (hcreate : e ≠ .create) (hopen : e ≠ .openObject) :
    e.atClose openFlags = e := by
  cases e <;> simp_all [atClose]

end Event

/-- Of a word without blanks around it the close makes what it is read as, and never `CREATE`
or `OPEN` themselves. -/
theorem closeEvent?_of_trimmed {word : String} (h : Text.trim word = word) (openFlags : Int) :
    closeEvent? word openFlags = (Event.read? word).map (Event.atClose openFlags) := by
  have hagain : Event.read? (Text.upper word) = Event.ofName? (Text.upper word) := by
    rw [Event.read?, Text.trim_upper, Text.upper_upper, h]
  have hread : Event.read? word = Event.ofName? (Text.upper word) := by rw [Event.read?, h]
  unfold closeEvent?
  rw [hread]
  dsimp only
  rw [hagain]
  split
  · next hcreate =>
    rw [eq_of_beq hcreate]
    rfl
  · next hcreate =>
    split
    · next hopen =>
      rw [eq_of_beq hopen]
      rfl
    · next hopen =>
      cases hname : Event.ofName? (Text.upper word) with
      | none => rfl
      | some e =>
        rw [Event.ofName?_eq_some.mp hname] at hcreate hopen
        rw [Option.map_some, Event.atClose_of_ne]
        · rintro rfl
          exact hcreate rfl
        · rintro rfl
          exact hopen rfl

/-- With blanks around it the word would be read as `OPEN` itself. -/
example : closeEvent? " open" 0 = some .openObject := by decide

/-- The word of the last hierarchy resolution is kept without blanks around it. -/
def Session.Trimmed (s : Session) : Prop :=
  ∀ word, s.hierarchyOperation = some word → Text.trim word = word

namespace Session

variable {s : Session}

theorem trimmed_start (client : ClientInfo) : (start client).Trimmed := nofun

theorem Trimmed.after (h : s.Trimmed) (call : HookCall) : (s.after call).Trimmed := by
  rw [after_eq_apply]
  cases call.effect with
  | resolves text =>
    intro word hword
    rw [← Option.some.inj hword, Text.trim_trim]
  | opens handle input => exact h
  | closes handle => exact h
  | nothing => exact h

theorem Trimmed.replay (h : s.Trimmed) (calls : List HookCall) : (s.replay calls).Trimmed := by
  induction calls using List.reverseRecOn with
  | nil => exact h
  | append_singleton calls call ih =>
    rw [replay_snoc]
    exact ih.after call

end Session

/-- None of the events that are reported is `OPEN`. -/
def WithoutOpen (result : Except ClassifierError (List ClassifiedEvent)) : Prop :=
  ∀ items, result = .ok items → ∀ item ∈ items, item.event ≠ .openObject

namespace WithoutOpen

theorem error (e : ClassifierError) : WithoutOpen (.error e) := nofun

theorem nil : WithoutOpen (.ok []) := by
  rintro _ ⟨⟩
  exact List.forall_mem_nil _

theorem single {event : Event} (h : event ≠ .openObject) (record : EventRecord) :
    WithoutOpen (.ok [⟨event, record⟩]) := by
  rintro _ ⟨⟩
  exact List.forall_mem_singleton.mpr h

end WithoutOpen

theorem tableEvent?_ne_openObject {base : String} {event : Event}
    (h : tableEvent? base = some event) : event ≠ .openObject := by
  rintro rfl
  unfold tableEvent? at h
  split at h <;> cases h

namespace Classifier

variable {s : Session} {point : InterceptionPoint} {arguments : CallArguments}
  {items : List ClassifiedEvent} {item : ClassifiedEvent}

/-- A close reports what the operation is at the close, and truncation. -/
theorem closeEvents_event {operation : Option String} {record : EventRecord}
    (htrimmed : ∀ word, operation = some word → Text.trim word = word)
    (h : closeEvents point operation record = .ok items) (hitem : item ∈ items) :
    item.event ≠ .openObject ∧ item.event ≠ .create := by
  cases operation with
  | none => cases h
  | some word =>
    unfold closeEvents at h
    dsimp only at h
    rw [closeEvent?_of_trimmed (htrimmed word rfl)] at h
    cases hread : Event.read? word with
    | none =>
      rw [hread] at h
      cases h
    | some e =>
      rw [hread] at h
      cases h
      rcases List.mem_cons.mp hitem with rfl | hitem
      · exact e.atClose_ne _
      · split at hitem
        · obtain rfl := List.mem_singleton.mp hitem
          exact ⟨nofun, nofun⟩
        · cases hitem

/-- A handle that nothing is known of reports nothing. -/
theorem missingHandle_eq_ok {handle : Handle} (h : missingHandle point handle = .ok items) :
    items = [] := by
  unfold missingHandle at h
  split at h
  · cases h
    rfl
  · cases h

theorem missingHandle_withoutOpen (handle : Handle) :
    WithoutOpen (missingHandle point handle) := by
  intro items h
  rw [missingHandle_eq_ok h]
  exact List.forall_mem_nil _

theorem closeObject_event (htrimmed : s.Trimmed)
    (h : (closeObject s point arguments).2 = .ok items) (hitem : item ∈ items) :
    item.event ≠ .openObject ∧ item.event ≠ .create := by
  unfold closeObject at h
  cases hhandle : handleOf point arguments with
  | error e =>
    rw [hhandle] at h
    cases h
  | ok handle =>
    rw [hhandle] at h
    dsimp only at h
    cases hrecord : s.peek? handle with
    | some record =>
      rw [hrecord] at h
      exact closeEvents_event htrimmed h hitem
    | none =>
      rw [hrecord] at h
      rw [missingHandle_eq_ok h] at hitem
      cases hitem

theorem resolveHierarchy_withoutOpen : WithoutOpen (resolveHierarchy s point arguments).2 := by
  cases arguments with
  | hierarchyResolution operation => exact .nil
  | _ => exact .error _

theorem openInput_withoutOpen (input : DataObjectInput) (handle : Option Handle) :
    WithoutOpen (openInput s input handle).2 := by
  unfold openInput
  dsimp only
  split
  · exact .single (by decide) _
  · exact .nil

theorem openObject_withoutOpen : WithoutOpen (openObject s point arguments).2 := by
  cases arguments with
  | opened input handle => exact openInput_withoutOpen input handle
  | dataObject input => exact openInput_withoutOpen input none
  | _ => exact .error _

theorem seekObject_withoutOpen : WithoutOpen (seekObject s point arguments) := by
  unfold seekObject
  split
  · exact .error _
  · split
    · exact .single (by decide) _
    · exact missingHandle_withoutOpen _

theorem bulkPut_withoutOpen : WithoutOpen (bulkPut point arguments) := by
  cases arguments with
  | bulkPut paths offsets keywords =>
    unfold bulkPut
    dsimp only
    split
    · exact .error _
    · split
      · exact .error _
      · rintro _ ⟨⟩ item hitem
        obtain ⟨i, hi, rfl⟩ := List.getElem_of_mem hitem
        rw [List.getElem_zipWith]
        nofun
  | _ => exact .error _

theorem copyOrRename_withoutOpen : WithoutOpen (copyOrRename point arguments) := by
  cases arguments with
  | copy source destination =>
    unfold copyOrRename
    dsimp only
    split
    · exact .single (by decide) _
    · rintro _ ⟨⟩ item hitem
      simp only [List.mem_cons, List.not_mem_nil, or_false] at hitem
      rcases hitem with rfl | rfl <;> nofun
  | _ => exact .error _

theorem collection_withoutOpen : WithoutOpen (collection point arguments) := by
  cases arguments with
  | collection input =>
    unfold collection
    dsimp only
    split
    · next event hevent => exact .single (tableEvent?_ne_openObject hevent) _
    · exact .error _
  | _ => exact .error _

theorem metadata_withoutOpen : WithoutOpen (metadata point arguments) := by
  cases arguments with
  | metadata input =>
    unfold metadata
    dsimp only
    split
    · exact .error _
    · exact .single (by decide) _
  | _ => exact .error _

theorem adminEvent?_ne_openObject {operation : String} {event : Event}
    (h : adminEvent? operation = some event) : event ≠ .openObject := by
  rintro rfl
  unfold adminEvent? at h
  split at h <;> cases h

theorem generalAdmin_withoutOpen : WithoutOpen (generalAdmin point arguments) := by
  cases arguments with
  | admin input =>
    unfold generalAdmin
    dsimp only
    split
    · next event key hevent hkey => exact .single (adminEvent?_ne_openObject hevent) _
    · exact .nil
  | _ => exact .error _

theorem dataObject_withoutOpen {event : Event} (h : event ≠ .openObject) :
    WithoutOpen (dataObject point event arguments) := by
  cases arguments with
  | dataObject input =>
    refine .single ?_ _
    split
    · decide
    · exact h
  | _ => exact .error _

/-- Whatever a point is for, `OPEN` is not reported at it. -/
theorem handle_withoutOpen (htrimmed : s.Trimmed) : WithoutOpen (handle s point arguments).2 := by
  have hclose : WithoutOpen (closeObject s point arguments).2 :=
    fun _ h _ hitem => (closeObject_event htrimmed h hitem).1
  unfold handle
  split
  case h_1 => exact resolveHierarchy_withoutOpen
  case h_2 | h_3 | h_4 | h_5 => exact openObject_withoutOpen
  case h_6 | h_7 => exact hclose
  case h_8 => exact seekObject_withoutOpen
  case h_9 => exact bulkPut_withoutOpen
  case h_10 | h_11 => exact copyOrRename_withoutOpen
  case h_12 | h_13 => exact collection_withoutOpen
  case h_14 => exact metadata_withoutOpen
  case h_15 => exact generalAdmin_withoutOpen
  case h_16 =>
    split
    · next event hevent => exact dataObject_withoutOpen (tableEvent?_ne_openObject hevent)
    · exact .error _

end Classifier

namespace HookCall

/-- The text that the last hierarchy resolution named its operation with. -/
def LastResolved (calls : List HookCall) (text : String) : Prop :=
  Latest (fun call text => call.effect = .resolves text)
    (fun later => ∃ other, later.effect = .resolves other) calls text

end HookCall

namespace Session

variable {s : Session} {call : HookCall} {items : List ClassifiedEvent} {item : ClassifiedEvent}

theorem hierarchyOperation_of_lastResolved {calls : List HookCall} {text : String}
    (client : ClientInfo) (h : HookCall.LastResolved calls text) :
    ((start client).replay calls).hierarchyOperation = some (Text.trim text) := by
  obtain ⟨before, last, after, hcalls, hresolves, hends⟩ := h
  refine (hierarchyOperation_replay client calls _).mpr
    ⟨before, last, after, hcalls, ⟨text, hresolves, rfl⟩, ?_⟩
  rintro later hlater ⟨_, other, hother, -⟩
  exact hends later hlater ⟨other, hother⟩

/-- The events of a call are those of the handler of its point. -/
theorem event_of_reports (h : s.reports call = .ok items) (hitem : item ∈ items) :
    ∃ point raw rawItem, InterceptionPoint.parse? call.name = some point ∧
      (Classifier.handle s point call.arguments).2 = .ok raw ∧ rawItem ∈ raw ∧
      rawItem.event = item.event := by
  unfold reports classify at h
  cases hpoint : InterceptionPoint.parse? call.name with
  | none =>
    rw [hpoint] at h
    cases h
  | some point =>
    rw [hpoint] at h
    dsimp only at h
    cases hraw : (Classifier.handle s point call.arguments).2 with
    | error e =>
      rw [hraw] at h
      cases h
    | ok raw =>
      rw [hraw] at h
      cases h
      obtain ⟨rawItem, hmem, rfl⟩ := List.mem_map.mp hitem
      exact ⟨point, raw, rawItem, rfl, hraw, hmem, rfl⟩

theorem event_ne_openObject (htrimmed : s.Trimmed) (h : s.reports call = .ok items)
    (hitem : item ∈ items) : item.event ≠ .openObject := by
  obtain ⟨point, raw, rawItem, -, hraw, hmem, hevent⟩ := event_of_reports h hitem
  rw [← hevent]
  exact Classifier.handle_withoutOpen htrimmed raw hraw rawItem hmem

theorem event_of_close {point : InterceptionPoint} (htrimmed : s.Trimmed)
    (hpoint : InterceptionPoint.parse? call.name = some point)
    (hbase : point.base ∈ HookCall.closeOperations) (h : s.reports call = .ok items)
    (hitem : item ∈ items) : item.event ≠ .openObject ∧ item.event ≠ .create := by
  obtain ⟨other, raw, rawItem, hother, hraw, hmem, hevent⟩ := event_of_reports h hitem
  obtain rfl : point = other := Option.some.inj (hpoint.symm.trans hother)
  rw [Classifier.handle_of_close hbase] at hraw
  rw [← hevent]
  exact Classifier.closeObject_event htrimmed hraw hmem

/-- The close of an open handle reports what the last resolution is at the close. -/
theorem reports_of_last {client : ClientInfo} {calls : List HookCall} {handle : Handle}
    {input : DataObjectInput} {text : String} {e : Event}
    (hcall : call.handleFor? HookCall.closeOperations = some handle)
    (hopen : HookCall.LastOpen handle calls input) (hresolved : HookCall.LastResolved calls text)
    (hword : Text.sameLetters (Text.trim text) e.name = true) :
    ((start client).replay calls).reports call =
      .ok ((Classifier.closing (e.atClose input.openFlags.toInt) input).map
        (Classifier.decorate client call.name)) := by
  have hrecord := (peek?_replay client calls handle _).mpr ⟨input, hopen, rfl⟩
  obtain ⟨point, hreports⟩ := reports_of_close hcall hrecord
  have hread : Event.read? (Text.trim text) = some e := by
    rw [Event.read?_eq_some, Text.trim_trim]
    exact hword
  have hevent : closeEvent? (Text.trim text) input.openFlags.toInt =
      some (e.atClose input.openFlags.toInt) := by
    rw [closeEvent?_of_trimmed (Text.trim_trim text), hread, Option.map_some]
  rw [hreports, client_replay, hierarchyOperation_of_lastResolved client hresolved,
    Classifier.closeEvents_eq_ok hevent]
  rfl

/-- What the calls of a session are reported as, where `OPEN` and `CREATE` are concerned. -/
structure ReportsNoOpen (client : ClientInfo) (calls : List HookCall) (s : Session) : Prop where
  event : ∀ (call : HookCall) items, s.reports call = .ok items →
    ∀ item ∈ items, item.event ≠ .openObject
  close : ∀ (call : HookCall) point items, InterceptionPoint.parse? call.name = some point →
    point.base ∈ HookCall.closeOperations → s.reports call = .ok items →
    ∀ item ∈ items, item.event ≠ .openObject ∧ item.event ≠ .create
  /-- However `CREATE` was written, the close of what was created is a put. -/
  creation : ∀ (call : HookCall) handle input text,
    call.handleFor? HookCall.closeOperations = some handle →
    HookCall.LastOpen handle calls input → HookCall.LastResolved calls text →
    Text.sameLetters (Text.trim text) "CREATE" = true →
    s.reports call =
      .ok ((Classifier.closing .put input).map (Classifier.decorate client call.name))
  /-- However `OPEN` was written, the flags of the open tell a write from a get. -/
  opening : ∀ (call : HookCall) handle input text,
    call.handleFor? HookCall.closeOperations = some handle →
    HookCall.LastOpen handle calls input → HookCall.LastResolved calls text →
    Text.sameLetters (Text.trim text) "OPEN" = true →
    s.reports call = .ok ((Classifier.closing
      (if hasWriteFlag input.openFlags.toInt then .write else .get) input).map
        (Classifier.decorate client call.name))

/-- After any calls of a session that began without a record, `OPEN` is never reported. -/
theorem replay_reports_no_open (client : ClientInfo) (calls : List HookCall) :
    ReportsNoOpen client calls ((start client).replay calls) where
  event _ _ h _ hitem := event_ne_openObject ((trimmed_start client).replay calls) h hitem
  close _ _ _ hpoint hbase h _ hitem :=
    event_of_close ((trimmed_start client).replay calls) hpoint hbase h hitem
  creation _ _ _ _ hcall hopen hresolved hword :=
    reports_of_last (e := .create) hcall hopen hresolved hword
  opening _ _ _ _ hcall hopen hresolved hword :=
    reports_of_last (e := .openObject) hcall hopen hresolved hword

/-- The lowest bits of the flags are those for writing, without reading and with it. -/
example : ([0, 1, 2, 0x200].map fun flags => closeEvent? "Open" flags) =
    [some .get, some .write, some .write, some .get] := by decide

end Session

end GridPolicy
