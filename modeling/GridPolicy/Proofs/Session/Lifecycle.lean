import GridPolicy.Proofs.Session.Reports

/-!
# Lives of handles side by side

An object is opened after its hierarchy was resolved, and closed later. Between the
two a client may do the same with another object. The record of the open is kept for
the handle, but the operation that was resolved is kept once for the session: a close
is classified by its own open and by the last resolution before it, be it that of
the other object.
-/
namespace GridPolicy

/-- The list is made of both lists, each in its order. -/
inductive Interleaving {α : Type} : List α → List α → List α → Prop
  | nil : Interleaving [] [] []
  | left {a : α} {as bs items : List α} : Interleaving as bs items →
      Interleaving (a :: as) bs (a :: items)
  | right {b : α} {as bs items : List α} : Interleaving as bs items →
      Interleaving as (b :: bs) (b :: items)

namespace Interleaving

variable {α : Type} {as bs items before after : List α} {a : α}

theorem symm (h : Interleaving as bs items) : Interleaving bs as items := by
  induction h with
  | nil => exact .nil
  | left _ ih => exact ih.right
  | right _ ih => exact ih.left

theorem eq_of_nil (h : Interleaving [] bs items) : items = bs := by
  induction bs generalizing items with
  | nil =>
    cases h
    rfl
  | cons b rest ih =>
    cases h with
    | right hrest => rw [ih hrest]

/-- What stands before the last member of one list is made of its others, and of a
first part of the other list. -/
theorem split_last (h : Interleaving (as ++ [a]) bs (before ++ a :: after)) (has : a ∉ as)
    (hbs : a ∉ bs) : ∃ first rest, bs = first ++ rest ∧ Interleaving as first before := by
  induction before generalizing as bs with
  | nil =>
    cases as with
    | nil => exact ⟨[], bs, rfl, .nil⟩
    | cons x as =>
      cases h with
      | left _ => exact absurd (List.mem_cons_self ..) has
      | right _ => exact absurd (List.mem_cons_self ..) hbs
  | cons c before ih =>
    cases as with
    | nil =>
      cases h with
      | left hrest => exact absurd (eq_of_nil hrest ▸ by simp) hbs
      | right hrest =>
        have hsplit : Interleaving ([] ++ [a]) _ (before ++ a :: after) := hrest
        obtain ⟨first, rest, rfl, hfirst⟩ :=
          ih hsplit List.not_mem_nil fun hmem => hbs (List.mem_cons_of_mem _ hmem)
        exact ⟨c :: first, rest, rfl, hfirst.right⟩
    | cons x as =>
      cases h with
      | left hrest =>
        obtain ⟨first, rest, rfl, hfirst⟩ :=
          ih hrest (fun hmem => has (List.mem_cons_of_mem _ hmem)) hbs
        exact ⟨first, rest, rfl, hfirst.left⟩
      | right hrest =>
        have hsplit : Interleaving (x :: as ++ [a]) _ (before ++ a :: after) := hrest
        obtain ⟨first, rest, rfl, hfirst⟩ :=
          ih hsplit has fun hmem => hbs (List.mem_cons_of_mem _ hmem)
        exact ⟨c :: first, rest, rfl, hfirst.right⟩

theorem split_single (h : Interleaving [a] bs items) :
    ∃ first rest, bs = first ++ rest ∧ items = first ++ a :: rest := by
  induction items generalizing bs with
  | nil => cases h
  | cons c items ih =>
    cases h with
    | left hrest => exact ⟨[], bs, rfl, by rw [eq_of_nil hrest]; rfl⟩
    | right hrest =>
      obtain ⟨first, rest, rfl, rfl⟩ := ih hrest
      exact ⟨c :: first, rest, rfl, rfl⟩

end Interleaving

namespace HookCall

theorem handleFor?_of_closes {call : HookCall} {handle : Handle} (h : call.Closes handle) :
    call.handleFor? closeOperations = some handle := by
  unfold Closes effect at h
  unfold handleFor?
  cases hpoint : InterceptionPoint.parse? call.name with
  | none => simp [hpoint] at h
  | some point =>
    simp only [hpoint] at h
    split at h
    · split at h <;> cases h
    split at h
    · next hclose =>
      split at h
      · next closed hhandle =>
        rw [SessionEffect.closes.injEq] at h
        simp [hclose.1, hhandle, h, Except.toOption]
      · cases h
    split at h
    · split at h <;> cases h
    · cases h

end HookCall

namespace Session

variable {s t : Session} {calls : List HookCall} {call : HookCall} {handle : Handle}

theorem replay_append (s : Session) (calls more : List HookCall) :
    s.replay (calls ++ more) = (s.replay calls).replay more := List.foldl_append ..

/-- A record stays as long as its handle is neither opened nor closed. -/
theorem peek?_replay_of_untouched
    (h : ∀ call ∈ calls, ¬ ((∃ input, call.Opens handle input) ∨ call.Closes handle)) :
    (s.replay calls).peek? handle = s.peek? handle := by
  induction calls using List.reverseRecOn with
  | nil => rfl
  | append_singleton calls call ih =>
    have hcall := h call (by simp)
    have hcalls := ih fun other hother => h other (by simp [hother])
    apply Option.ext
    intro record
    rw [replay_snoc, peek?_after, hcalls]
    constructor
    · rintro (⟨input, hopens, -⟩ | ⟨-, hrecord⟩)
      · exact absurd (.inl ⟨input, hopens⟩) hcall
      · exact hrecord
    · exact fun hrecord => .inr ⟨hcall, hrecord⟩

theorem hierarchyOperation_replay_of_unresolved
    (h : ∀ call ∈ calls, ∀ operation, ¬ call.Resolves operation) :
    (s.replay calls).hierarchyOperation = s.hierarchyOperation := by
  induction calls using List.reverseRecOn with
  | nil => rfl
  | append_singleton calls call ih =>
    have hcall : ¬ ∃ operation, call.Resolves operation := by
      rintro ⟨operation, hresolves⟩
      exact h call (by simp) operation hresolves
    have hcalls := ih fun other hother => h other (by simp [hother])
    apply Option.ext
    intro operation
    rw [replay_snoc, hierarchyOperation_after, hcalls]
    constructor
    · rintro (hresolves | ⟨-, hoperation⟩)
      · exact absurd ⟨operation, hresolves⟩ hcall
      · exact hoperation
    · exact fun hoperation => .inr ⟨hcall, hoperation⟩

/-- The report of a close depends on the client, the record and the operation alone. -/
theorem reports_congr (hcall : call.handleFor? HookCall.closeOperations = some handle)
    (hclient : s.client = t.client) (hrecord : s.peek? handle = t.peek? handle)
    (hoperation : s.hierarchyOperation = t.hierarchyOperation) :
    s.reports call = t.reports call := by
  obtain ⟨point, hpoint, hbase, hhandle⟩ := HookCall.point_of_handleFor? hcall
  have hclients : (Classifier.closeObject s point call.arguments).1.client =
      (Classifier.closeObject t point call.arguments).1.client := by
    rw [Classifier.closeObject_session, Classifier.closeObject_session, client_apply,
      client_apply, hclient]
  have hevents : (Classifier.closeObject s point call.arguments).2 =
      (Classifier.closeObject t point call.arguments).2 := by
    simp only [Classifier.closeObject, hhandle, hrecord, hoperation]
    cases t.peek? handle <;> rfl
  simp only [reports, classify, hpoint, Classifier.handle_of_close hbase, hclients, hevents]

end Session

/-- The life of a handle: a resolution, the open right after it, and a close. -/
structure Lifecycle where
  resolve : HookCall
  operation : String
  opening : HookCall
  handle : Handle
  input : DataObjectInput
  close : HookCall
  resolves : resolve.effect = .resolves operation
  opens : opening.effect = .opens handle input
  closes : close.effect = .closes handle

namespace Lifecycle

variable {client : ClientInfo} {l other : Lifecycle}

/-- The resolution and the open, which nothing comes between. -/
def start (l : Lifecycle) : List HookCall := [l.resolve, l.opening]

/-- The calls that stay together, in order. -/
def blocks (l : Lifecycle) : List (List HookCall) := [l.start, [l.close]]

/-- What the close reports in a session of its own. -/
def alone (client : ClientInfo) (l : Lifecycle) : Except ClassifierError (List ClassifiedEvent) :=
  ((Session.start client).replay l.start).reports l.close

/-- The same life under the resolution of another one. -/
def under (l other : Lifecycle) : Lifecycle :=
  { l with resolve := other.resolve, operation := other.operation, resolves := other.resolves }

theorem replay_start (s : Session) (l : Lifecycle) :
    (s.replay l.start).peek? l.handle = some (Classifier.objectRecord l.input) ∧
    (s.replay l.start).hierarchyOperation = some (Text.trim l.operation) := by
  simp [start, Session.replay, Session.after_eq_apply, l.resolves, l.opens, Session.apply,
    Session.track, Session.peek?, Session.setHierarchyOperation]

/-- A session that holds what the life has left in it reports as its own would. -/
theorem reports_eq_alone {s : Session} (hclient : s.client = client)
    (hrecord : s.peek? l.handle = some (Classifier.objectRecord l.input))
    (hoperation : s.hierarchyOperation = some (Text.trim l.operation)) :
    s.reports l.close = l.alone client := by
  obtain ⟨halone, hresolved⟩ := replay_start (Session.start client) l
  refine Session.reports_congr (HookCall.handleFor?_of_closes l.closes) ?_ ?_ ?_
  · rw [hclient, Session.client_replay]
    rfl
  · rw [hrecord, halone]
  · rw [hoperation, hresolved]

/-- The calls of one life do not touch the handle of another. -/
theorem untouched_of_mem_blocks (hne : l.handle ≠ other.handle) {block : List HookCall}
    (hblock : block ∈ other.blocks) {call : HookCall} (hcall : call ∈ block) :
    ¬ ((∃ input, call.Opens l.handle input) ∨ call.Closes l.handle) := by
  unfold HookCall.Opens HookCall.Closes
  simp only [blocks, start, List.mem_cons, List.not_mem_nil, or_false] at hblock
  rcases hblock with rfl | rfl
  · simp only [List.mem_cons, List.not_mem_nil, or_false] at hcall
    rcases hcall with rfl | rfl
    · simp [other.resolves]
    · simp [other.opens, hne.symm]
  · rw [List.mem_singleton] at hcall
    subst hcall
    simp [other.closes, hne.symm]

theorem start_ne_close (l other : Lifecycle) : l.start ≠ [other.close] := by
  simp [start]

/-- A middle part of a life is without its start, or begins with it. -/
theorem part_cases {first rest more : List (List HookCall)}
    (h : l.blocks = first ++ rest ++ more) :
    (l.start ∉ rest ∧ ∀ block ∈ rest, block = [l.close]) ∨
      ∃ tail, rest = l.start :: tail ∧ ∀ block ∈ tail, block = [l.close] := by
  have hclose : ∀ part rest more : List (List HookCall), [[l.close]] = part ++ rest ++ more →
      ∀ block ∈ rest, block = [l.close] := by
    intro part rest more hparts block hblock
    have hmem : block ∈ [[l.close]] := by
      rw [hparts]
      simp [hblock]
    exact List.mem_singleton.mp hmem
  cases first with
  | cons x first =>
    have htail : [[l.close]] = first ++ rest ++ more := (List.cons.inj h).2
    have hrest := hclose first rest more htail
    exact .inl ⟨fun hmem => start_ne_close l l (hrest _ hmem), hrest⟩
  | nil =>
    cases rest with
    | nil => exact .inl ⟨List.not_mem_nil, by simp⟩
    | cons x tail =>
      obtain ⟨rfl, htail⟩ := List.cons.inj h
      exact .inr ⟨tail, rfl, hclose [] tail more htail⟩

theorem unresolved_of_close {blocks : List (List HookCall)}
    (h : ∀ block ∈ blocks, block = [l.close]) {call : HookCall} (hcall : call ∈ blocks.flatten)
    (operation : String) : ¬ call.Resolves operation := by
  obtain ⟨block, hblock, hmem⟩ := List.mem_flatten.mp hcall
  rw [h block hblock, List.mem_singleton] at hmem
  subst hmem
  rintro ⟨text, hresolves, -⟩
  rw [l.closes] at hresolves
  cases hresolves

/-- What is reported of the close after a first part of the other life, its own start
and a second part of the other life. -/
theorem reports_of_parts (client : ClientInfo) (hne : l.handle ≠ other.handle)
    {first rest more : List (List HookCall)}
    (hother : other.blocks = first ++ rest ++ more) :
    let reported :=
      ((Session.start client).replay (first ++ l.start :: rest).flatten).reports l.close
    (other.start ∈ rest → reported = (l.under other).alone client) ∧
      (other.start ∉ rest → reported = l.alone client) := by
  intro reported
  have huntouched : ∀ call ∈ rest.flatten,
      ¬ ((∃ input, call.Opens l.handle input) ∨ call.Closes l.handle) := by
    intro call hcall
    obtain ⟨block, hblock, hmem⟩ := List.mem_flatten.mp hcall
    exact untouched_of_mem_blocks hne (by rw [hother]; simp [hblock]) hmem
  have hflat : (first ++ l.start :: rest).flatten = first.flatten ++ l.start ++ rest.flatten := by
    simp
  have hclient : ∀ calls, ((Session.start client).replay calls).client = client :=
    fun calls => Session.client_replay _ calls
  obtain ⟨hrecord, hoperation⟩ :=
    replay_start ((Session.start client).replay first.flatten) l
  have hreplay : reported = (((((Session.start client).replay first.flatten).replay
      l.start).replay rest.flatten).reports l.close) := by
    rw [← Session.replay_append, ← Session.replay_append, ← List.append_assoc, ← hflat]
  rw [hreplay]
  -- the operation of the other life counts if its start is in the second part
  rcases part_cases hother with ⟨hstart, hrest⟩ | ⟨tail, rfl, htail⟩
  · refine ⟨fun hmem => absurd hmem hstart, fun _ => reports_eq_alone ?_ ?_ ?_⟩
    · rw [Session.client_replay, Session.client_replay, hclient]
    · rw [Session.peek?_replay_of_untouched huntouched, hrecord]
    · rw [Session.hierarchyOperation_replay_of_unresolved
        (fun call hcall => unresolved_of_close hrest hcall), hoperation]
  · refine ⟨fun _ => reports_eq_alone (l := l.under other) ?_ ?_ ?_,
      fun hstart => absurd (List.mem_cons_self ..) hstart⟩
    · rw [Session.client_replay, Session.client_replay, hclient]
    · exact (Session.peek?_replay_of_untouched huntouched).trans hrecord
    · rw [List.flatten_cons, Session.replay_append,
        Session.hierarchyOperation_replay_of_unresolved
          (fun call hcall => unresolved_of_close htail hcall)]
      exact (replay_start _ other).2

theorem mem_of_pair_sublist {α : Type} {x y : α} {first rest : List α}
    (h : [x, y].Sublist (first ++ x :: rest)) (hx : x ∉ first) : y ∈ rest := by
  induction first with
  | nil =>
    rcases List.sublist_cons_iff.mp h with hskip | ⟨tail, htail, hsub⟩
    · exact hskip.subset (by simp)
    · obtain ⟨-, rfl⟩ := List.cons.inj htail
      exact hsub.subset (by simp)
  | cons c first ih =>
    rw [List.mem_cons, not_or] at hx
    rcases List.sublist_cons_iff.mp h with hskip | ⟨tail, htail, -⟩
    · exact ih hskip hx.2
    · exact absurd (List.cons.inj htail).1 hx.1

/-- Among these blocks the close is classified by its own open, under its own resolution
unless the other life starts in between, and then under that of the other. -/
def ClassifiedIn (client : ClientInfo) (l other : Lifecycle) (blocks : List (List HookCall)) :
    Prop :=
  ∀ before after, blocks = before ++ [l.close] :: after →
    let reported := ((Session.start client).replay before.flatten).reports l.close
    ([l.start, other.start].Sublist before → reported = (l.under other).alone client) ∧
      (¬ [l.start, other.start].Sublist before → reported = l.alone client)

theorem classifiedIn_of_interleaving {blocks : List (List HookCall)}
    (hne : l.handle ≠ other.handle) (h : Interleaving l.blocks other.blocks blocks) :
    ClassifiedIn client l other blocks := by
  rintro before after rfl
  have hstart : ∀ block ∈ other.blocks, block ≠ l.start := by
    rintro _ hblock rfl
    exact untouched_of_mem_blocks hne hblock (List.mem_cons_of_mem _ (List.mem_cons_self ..))
      (.inl ⟨l.input, l.opens⟩)
  have hclose : [l.close] ∉ other.blocks := by
    intro hblock
    exact untouched_of_mem_blocks hne hblock (List.mem_cons_self ..) (.inr l.closes)
  have hown : [l.close] ∉ [l.start] := by
    rw [List.mem_singleton]
    exact (start_ne_close l l).symm
  have hsplit : Interleaving ([l.start] ++ [[l.close]]) other.blocks
    (before ++ [l.close] :: after) := h
  obtain ⟨prior, more, hother, hprior⟩ := hsplit.split_last hown hclose
  obtain ⟨first, rest, rfl, rfl⟩ := hprior.split_single
  obtain ⟨hunder, halone⟩ := reports_of_parts client hne hother
  constructor
  · intro hsub
    refine hunder (mem_of_pair_sublist hsub fun hmem => ?_)
    exact hstart _ (by rw [hother]; simp [hmem]) rfl
  · intro hsub
    refine halone fun hmem => hsub ?_
    refine List.Sublist.trans ?_ (List.sublist_append_right first _)
    exact (List.singleton_sublist.mpr hmem).cons_cons _

/-- In a session of its own a life reports what its operation and flags stand for. -/
theorem alone_eq_ok {event : Event}
    (h : closeEvent? (Text.trim l.operation) l.input.openFlags.toInt = some event) :
    l.alone client =
      .ok ((Classifier.closing event l.input).map (Classifier.decorate client l.close.name)) := by
  obtain ⟨hrecord, hoperation⟩ := replay_start (Session.start client) l
  obtain ⟨point, hreports⟩ :=
    Session.reports_of_close (HookCall.handleFor?_of_closes l.closes) hrecord
  rw [alone, hreports, hoperation, Classifier.closeEvents_eq_ok h, Session.client_replay]
  rfl

theorem parse?_resolvePoint : InterceptionPoint.parse? "resolve_hierarchy_pre" =
    some ⟨"resolve_hierarchy_pre", "resolve_hierarchy", .pre⟩ := by rfl

theorem parse?_closePoint : InterceptionPoint.parse? "data_obj_close_post" =
    some ⟨"data_obj_close_post", "data_obj_close", .post⟩ := by rfl

theorem parse?_openPoint : InterceptionPoint.parse? "data_obj_open_post" =
    some ⟨"data_obj_open_post", "data_obj_open", .post⟩ := by rfl

/-- The life of an object that is opened under a handle for an operation. -/
def opened (operation : String) (input : DataObjectInput) (handle : Handle) : Lifecycle where
  resolve := ⟨"resolve_hierarchy_pre", .hierarchyResolution operation⟩
  operation := operation
  opening := ⟨"data_obj_open_post", .opened input handle⟩
  handle := handle
  input := input
  close := ⟨"data_obj_close_post", .descriptor { handle }⟩
  resolves := HookCall.effect_of_resolve parse?_resolvePoint rfl rfl
  opens := HookCall.effect_of_open parse?_openPoint (by decide) rfl
  closes := HookCall.effect_of_close parse?_closePoint (by decide) (.inl rfl) rfl

/-- An object is created for writing. -/
def creation (handle : Handle) : Lifecycle :=
  opened "CREATE" { path := "/zone/home/a", openFlags := 65 } handle

/-- An object is opened for reading. -/
def reading (handle : Handle) : Lifecycle := opened "OPEN" { path := "/zone/home/b" } handle

/-- The reading starts after the creation, and both are closed then. -/
def overlapping : List (List HookCall) :=
  [(creation 3).start, (reading 4).start, [(creation 3).close], [(reading 4).close]]

theorem interleaving_overlapping :
    Interleaving (creation 3).blocks (reading 4).blocks overlapping :=
  .left (.right (.left (.right .nil)))

/-- Of two lives with different handles, however their calls come after one another,
each close is classified by its own open and under the last resolution before it. -/
theorem interleaved_classifiedIn (client : ClientInfo) {blocks : List (List HookCall)}
    (hne : l.handle ≠ other.handle) (h : Interleaving l.blocks other.blocks blocks) :
    ClassifiedIn client l other blocks ∧ ClassifiedIn client other l blocks :=
  ⟨classifiedIn_of_interleaving hne h, classifiedIn_of_interleaving hne.symm h.symm⟩

theorem interleaved_classifiedIn_overlapping :
    Interleaving (creation 3).blocks (reading 4).blocks overlapping ∧
    ClassifiedIn (.forUser "alice" "zone") (creation 3) (reading 4) overlapping ∧
    ClassifiedIn (.forUser "alice" "zone") (reading 4) (creation 3) overlapping :=
  ⟨interleaving_overlapping,
    interleaved_classifiedIn (.forUser "alice" "zone") (by decide) interleaving_overlapping⟩

/-- The operation is not kept for each handle: the close of what was created reports a
write when an open was resolved in between, and a put when nothing was. -/
theorem creation_not_classified_alone :
    let client := ClientInfo.forUser "alice" "zone"
    let session := (Session.start client).replay ((creation 3).start ++ (reading 4).start)
    (session.reports (creation 3).close).map (·.map (·.event)) = .ok [.write] ∧
    ((creation 3).alone client).map (·.map (·.event)) = .ok [.put] := by
  intro client session
  have hclassified : ClassifiedIn client (creation 3) (reading 4) overlapping :=
    classifiedIn_of_interleaving (by decide) interleaving_overlapping
  have hsession : session.reports (creation 3).close =
      ((creation 3).under (reading 4)).alone client := by
    have hsplit := hclassified [(creation 3).start, (reading 4).start] [[(reading 4).close]] rfl
    simpa [session] using hsplit.1 (List.Sublist.refl _)
  have hwrite : closeEvent? (Text.trim "OPEN") (65 : Int32).toInt = some .write := by decide
  have hput : closeEvent? (Text.trim "CREATE") (65 : Int32).toInt = some .put := by decide
  constructor
  · rw [hsession, alone_eq_ok (l := (creation 3).under (reading 4)) hwrite]
    rfl
  · rw [alone_eq_ok (l := creation 3) hput]
    rfl

end Lifecycle

end GridPolicy
