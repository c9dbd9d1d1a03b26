import GridPolicy.Proofs.LogicalPath.Segments
import GridPolicy.Proofs.Query.ObjectQueries
import GridPolicy.Proofs.Retention.Safety

/-!
# Retention from a row of a query

A row names an object by its collection and its name. Retention joins them to a path, and
splits the path again where it asks for the replicas, so it asks about the object of the
row wherever splitting undoes joining. Whatever it removes later it removes at the path.
-/
namespace GridPolicy.ReplicaRetention

variable {i : Invocation} {grid : Grid} {log : List Entry}

/-! What is read off an accepted request -/

theorem capture_of_capturedFrom {captured : Capture} (h : CapturedFrom i.parameters captured) :
    capture i = pure captured := by
  unfold CapturedFrom at h
  unfold capture
  cases hresults : i.parameters.get? Key.queryResults with
  | none =>
    rw [hresults] at h
    exact congrArg pure h.symm
  | some value =>
    rw [hresults] at h
    cases value with
    | array row =>
      dsimp only at h ⊢
      rw [h]
    | _ => exact congrArg pure h.symm

/-- A source that is permitted passes the check against the whitelist, whatever is listed. -/
theorem whitelist_of_permitted {source : String}
    (h : ∀ value, i.configuration.get? whitelistKey = some value → value ≠ .null →
      source ≠ "" ∧ Whitelisted i.configuration source) :
    ∃ listed, whitelist i = pure listed ∧ checkSource i source listed = pure () := by
  have hkey : whitelistKey = "resource_white_list" := rfl
  unfold whitelist
  rw [← hkey]
  cases hvalue : i.configuration.get? whitelistKey with
  | none => exact ⟨none, rfl, rfl⟩
  | some value =>
    by_cases hnull : value = .null
    · rw [hnull]
      exact ⟨none, rfl, rfl⟩
    · obtain ⟨hfilled, hlisted⟩ := h value hvalue hnull
      obtain ⟨items, rfl, hmem⟩ := (hlisted value hvalue).resolve_left hnull
      refine ⟨_, rfl, ?_⟩
      have hcontains : (items.filterMap Document.text?).contains source = true :=
        List.contains_iff_mem.mpr (mem_texts.mpr hmem)
      simp only [checkSource, beq_iff_eq, hfilled, hcontains, ↓reduceIte, Bool.not_true,
        Bool.false_eq_true]

theorem mode_of_modeFor {source : String} {m : RetentionMode}
    (h : ModeFor i.configuration source m) : mode i source = pure m := by
  unfold ModeFor at h
  unfold mode
  cases hword : i.configuration.filledField? "mode" with
  | some word =>
    rw [hword] at h
    dsimp only at h ⊢
    rw [h]
    rfl
  | none =>
    rw [hword] at h
    dsimp only at h ⊢
    rw [h]
    simp only [beq_iff_eq]

/-- An accepted invocation applies retention to the path of the request. -/
theorem body_of_accepted {request : RetentionRequest}
    (h : Accepted i.parameters i.configuration request) (invoke : Invoker) :
    ∃ applied : RetentionRequest, applied.logicalPath = request.logicalPath ∧
      body invoke i = (do
        let _ ← (Retention.apply applied).mapError PolicyError.retention
        return .null) := by
  obtain ⟨listed, hlisted, hchecked⟩ := whitelist_of_permitted h.permitted
  have hcapture := capture_of_capturedFrom h.captured
  have hmode := mode_of_modeFor h.mode
  refine ⟨{ request with whitelist := listed, preservationAttribute := marker i.configuration },
    rfl, ?_⟩
  simp only [body, hcapture, hlisted, hchecked, hmode, pure_bind]
  rfl

/-! What is asked and removed -/

/-- An entry that asks for the preservation of resources, or removes at the path. -/
inductive Concerns (path : String) : Entry → Prop
  | preservation (resources : List String) (marker : String) :
      Concerns path (.call (Retention.preservationCall resources marker))
  | trim (user resource : String) : Concerns path (.call (.trim user path resource))
  | unlink (user : String) : Concerns path (.call (.unlink user path))

/-- The replicas of the object are asked for first, and all that comes later concerns the path
that the parts make up. -/
def AsksAbout (collection name : String) (added : List Entry) : Prop :=
  ∃ rest, added = .call (.query (Retention.replicaQuery collection name) 0 .general) :: rest ∧
    ∀ e ∈ rest, Concerns (LogicalPath.join collection name) e

theorem concerns_of_carried {request : RetentionRequest} {plan : RemovalPlan}
    {removed : List Entry} (h : Retention.Carried request plan removed) :
    ∀ e ∈ removed, Concerns request.logicalPath e := by
  intro e he
  cases h with
  | unlink =>
    obtain rfl := List.mem_singleton.mp he
    exact .unlink _
  | trim hmade =>
    obtain ⟨resource, -, rfl⟩ := List.mem_map.mp he
    exact .trim _ resource
  | retain => cases he

theorem concerns_of_trace {request : RetentionRequest} {added : List Entry}
    (h : Retention.Trace grid log request added) :
    added = [] ∨ ∃ rest, added = .call (Retention.replicaCall request.logicalPath) :: rest ∧
      ∀ e ∈ rest, Concerns request.logicalPath e := by
  cases h with
  | refused => exact .inl rfl
  | unfound => exact .inr ⟨[], rfl, by simp⟩
  | unanswered =>
    refine .inr ⟨_, rfl, fun e he => ?_⟩
    obtain rfl := List.mem_singleton.mp he
    exact .preservation _ _
  | carried hcarried =>
    refine .inr ⟨_, rfl, fun e he => ?_⟩
    rcases List.mem_cons.mp he with rfl | hremoved
    · exact .preservation _ _
    · exact concerns_of_carried hcarried e hremoved

/-- With a path, what is applied begins with the question for the replicas. -/
theorem apply_asks (grid : Grid) (log : List Entry) {request : RetentionRequest}
    (hpath : request.logicalPath ≠ "") :
    ∃ rest, ((Retention.apply request) grid log).2 =
        log ++ .call (Retention.replicaCall request.logicalPath) :: rest ∧
      ∀ e ∈ rest, Concerns request.logicalPath e := by
  obtain ⟨added, hlog, htrace⟩ : (Retention.apply request).Yields grid log
    fun _ added => Retention.Trace grid log request added := Retention.apply_yields request
  have hfirst : (Retention.apply request).firstQuery grid log = _ :=
    Retention.firstQuery_apply hpath
  rw [Run.firstQuery, hlog, List.drop_left] at hfirst
  rcases concerns_of_trace htrace with rfl | ⟨rest, rfl, hrest⟩
  · cases hfirst
  · exact ⟨rest, hlog, hrest⟩

/-- The parameters carry a row that names a user, a collection and an object. -/
def RowGiven (parameters : Document) (collection name : String) : Prop :=
  ∃ user more, parameters.get? Key.queryResults =
    some (.array (.text user :: .text collection :: .text name :: more))

/-- An invocation with a row is not accepted and leaves no log, or it is accepted, and what it
leaves is about the object of the row. -/
def AsksForRow (collection name : String) : Prop :=
  ∀ invoke (i : Invocation) grid log, RowGiven i.parameters collection name →
    (body invoke i).Yields grid log fun _ added =>
      ((∃ request, Accepted i.parameters i.configuration request) ∧
        AsksAbout collection name added) ∨
      ((¬ ∃ request, Accepted i.parameters i.configuration request) ∧ added = [])

theorem logicalPath_of_rowGiven {collection name : String} {request : RetentionRequest}
    (hrow : RowGiven i.parameters collection name)
    (h : Accepted i.parameters i.configuration request) :
    request.logicalPath = LogicalPath.join collection name := by
  obtain ⟨user, more, hrow⟩ := hrow
  have hcaptured := h.captured
  simp only [CapturedFrom, hrow, captureRow?, List.getElem?_cons_zero, List.getElem?_cons_succ,
    Option.bind_some, Document.text?, Option.bind_eq_bind, Option.pure_def, Option.some.injEq,
    Capture.mk.injEq] at hcaptured
  exact hcaptured.2.1.symm

/-- Where splitting undoes joining, retention asks about the object of the row. -/
theorem asksForRow_of_split {collection name : String}
    (hsplit : LogicalPath.split (LogicalPath.join collection name) = (collection, name)) :
    AsksForRow collection name := by
  intro invoke i grid log hrow
  by_cases haccepted : ∃ request, Accepted i.parameters i.configuration request
  · obtain ⟨request, hrequest⟩ := haccepted
    obtain ⟨applied, hpath, hbody⟩ := body_of_accepted hrequest invoke
    rw [logicalPath_of_rowGiven hrow hrequest] at hpath
    obtain ⟨rest, hlog, hrest⟩ := apply_asks grid log
      (hpath ▸ LogicalPath.join_ne_empty collection name)
    rw [hpath, Retention.replicaCall, hsplit] at hlog
    refine ⟨_, ?_, .inl ⟨⟨request, hrequest⟩, rest, rfl, hpath ▸ hrest⟩⟩
    rw [hbody, Run.bind_pure_snd, Run.mapError_apply]
    exact hlog
  · refine (body_yields invoke i grid log).mono ?_
    rintro _ added (hnil | ⟨request, hrequest, -⟩)
    · exact .inr ⟨haccepted, hnil⟩
    · exact absurd ⟨request, hrequest⟩ haccepted

/-- Splitting and joining undo each other on canonical paths, and slashes behind a path do not
change its parts. So retention asks about the object of the row that it is given. -/
theorem split_join_inverse :
    (∀ path, LogicalPath.Canonical path →
      LogicalPath.join (LogicalPath.split path).1 (LogicalPath.split path).2 = path) ∧
    (∀ collection name, collection = "/" ∨ LogicalPath.Canonical collection →
      name ≠ "" → '/' ∉ name.toList →
        LogicalPath.split (LogicalPath.join collection name) = (collection, name) ∧
        AsksForRow collection name) ∧
    ∀ path k, LogicalPath.split (LogicalPath.slashed path k) = LogicalPath.split path := by
  refine ⟨fun path => LogicalPath.join_split, ?_, LogicalPath.split_slashed⟩
  intro collection name hcollection hfilled hname
  have hsplit := LogicalPath.split_join hcollection hfilled hname
  exact ⟨hsplit, asksForRow_of_split hsplit⟩

/-- An invocation with the row of an object in a home collection, and nothing else. -/
def homeRow : Invocation where
  policy := name
  parameters := .object
    [(Key.queryResults, .array [.text "alice", .text "/zone/home", .text "f"])]
  configuration := .emptyObject

/-- Whatever the catalog answers, it is asked about this object. -/
theorem split_join_inverse_home :
    LogicalPath.join (LogicalPath.split "/zone/home/f").1 (LogicalPath.split "/zone/home/f").2 =
      "/zone/home/f" ∧
    LogicalPath.split (LogicalPath.join "/" "zone") = ("/", "zone") ∧
    LogicalPath.split (LogicalPath.slashed "/zone/home" 2) = ("/zone", "home") ∧
    ∀ invoke grid, ∃ rest, (body invoke homeRow grid []).2 =
      .call (.query ("SELECT RESC_NAME, DATA_RESC_HIER WHERE COLL_NAME = '/zone/home'" ++
        " AND DATA_NAME = 'f'") 0 .general) :: rest := by
  have hhome : LogicalPath.Canonical "/zone/home" :=
    ⟨[⟨"zone", by decide, by decide⟩, ⟨"home", by decide, by decide⟩], by simp, by decide⟩
  have hobject : LogicalPath.Canonical "/zone/home/f" :=
    ⟨[⟨"zone", by decide, by decide⟩, ⟨"home", by decide, by decide⟩,
      ⟨"f", by decide, by decide⟩], by simp, by decide⟩
  have haccepted : Accepted homeRow.parameters homeRow.configuration
      ⟨.removeAllReplicas, "alice", "/zone/home/f", "", "", none,
        defaultPreservationAttribute⟩ := by
    have hcaptured : captureRow? [.text "alice", .text "/zone/home", .text "f"] =
        some ⟨"alice", "/zone/home/f", "", ""⟩ := by decide
    exact ⟨hcaptured, fun _ => ⟨fun _ => nofun, fun _ => nofun⟩, nofun, rfl, rfl⟩
  obtain ⟨hjoin, hsplit, hslashed⟩ := split_join_inverse
  refine ⟨hjoin _ hobject, (hsplit "/" "zone" (.inl rfl) (by decide) (by decide)).1,
    (hslashed "/zone/home" 2).trans (by decide), ?_⟩
  intro invoke grid
  obtain ⟨-, hrow⟩ := hsplit "/zone/home" "f" (.inr hhome) (by decide) (by decide)
  obtain ⟨added, hlog, hadded⟩ := hrow invoke homeRow grid [] ⟨"alice", [], rfl⟩
  rcases hadded with ⟨-, rest, rfl, -⟩ | ⟨hrefused, -⟩
  · exact ⟨rest, hlog⟩
  · exact absurd ⟨_, haccepted⟩ hrefused

end GridPolicy.ReplicaRetention
