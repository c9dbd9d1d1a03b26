import GridPolicy.Proofs.Policy.Invocation
import GridPolicy.Proofs.Retention.Trace

/-!
# What one invocation of retention may remove

An invocation is read in four steps that ask nothing: whose replicas are meant,
which resources are whitelisted, whether the source is one of them, and the mode.
An invocation that passes them is `Accepted` as a request, and only then the grid
is called. The main statement is that nothing protected is ever removed: neither
what the whitelist leaves out nor what the catalog says is to be preserved.
-/
namespace GridPolicy.ReplicaRetention

/-- The key of the whitelist in a configuration. -/
def whitelistKey : String := "resource_white_list"

/-- The resource is on the whitelist wherever there is one. -/
def Whitelisted (configuration : Document) (resource : String) : Prop :=
  ∀ value, configuration.get? whitelistKey = some value →
    value = .null ∨ ∃ items, value = .array items ∧ .text resource ∈ items

/-- What the parameters say: a row of a query counts before everything else. -/
def CapturedFrom (parameters : Document) (captured : Capture) : Prop :=
  match parameters.get? Key.queryResults with
  | some (.array row) => captureRow? row = some captured
  | _ => captured = Capture.ofParameters parameters .root

/-- The source that the parameters name, empty if they name none. -/
def sourceNamed (parameters : Document) : String :=
  match parameters.get? Key.queryResults with
  | some (.array row) => (row[3]?.bind Document.text?).getD ""
  | _ => (Capture.ofParameters parameters .root).sourceResource

/-- The attribute that marks what is to be preserved. -/
def marker (configuration : Document) : String :=
  (configuration.filledField? "attribute").getD defaultPreservationAttribute

/-- The mode that a configuration and a source stand for. -/
def ModeFor (configuration : Document) (source : String) (mode : RetentionMode) : Prop :=
  match configuration.filledField? "mode" with
  | some word => RetentionMode.parse word = .ok mode
  | none => mode = if source = "" then .removeAllReplicas else .trimSingleReplica

/-- The documents pass all checks, and are carried out as this request. -/
structure Accepted (parameters configuration : Document) (request : RetentionRequest) :
    Prop where
  captured : CapturedFrom parameters ⟨request.userName, request.logicalPath,
    request.sourceResource, request.destinationResource⟩
  whitelisted : ∀ resource, (∀ listed, request.whitelist = some listed → resource ∈ listed) ↔
    Whitelisted configuration resource
  permitted : ∀ value, configuration.get? whitelistKey = some value → value ≠ .null →
    request.sourceResource ≠ "" ∧ Whitelisted configuration request.sourceResource
  mode : ModeFor configuration request.sourceResource request.mode
  marker : request.preservationAttribute = marker configuration

/-- A missing configuration counts as an empty one. -/
theorem Accepted.of_effectiveConfiguration {parameters configuration : Document}
    {request : RetentionRequest}
    (h : Accepted parameters (Policy.effectiveConfiguration configuration) request) :
    Accepted parameters configuration request := by
  cases configuration with
  | null => exact ⟨h.captured, h.whitelisted, h.permitted, h.mode, h.marker⟩
  | _ => exact h

theorem sourceNamed_of_capturedFrom {parameters : Document} {captured : Capture}
    (h : CapturedFrom parameters captured) : captured.sourceResource = sourceNamed parameters := by
  unfold CapturedFrom at h
  unfold sourceNamed
  split at h
  · next row hrow =>
    simp only [captureRow?, Option.bind_eq_bind, Option.bind_eq_some_iff, Option.pure_def,
      Option.some.injEq] at h
    obtain ⟨_, _, _, _, _, _, rfl⟩ := h
    rfl
  · rw [h]

theorem capture_silent (i : Invocation) :
    (capture i).Silent (CapturedFrom i.parameters) := by
  unfold capture
  split
  · next row hrow =>
    cases hcaptured : captureRow? row with
    | some captured => exact .pure (by simp [CapturedFrom, hrow, hcaptured])
    | none => exact .fail _
  · next hrow =>
    refine .pure ?_
    unfold CapturedFrom
    split
    · next row h => exact absurd h (hrow row)
    · rfl

theorem mem_texts {items : List Document} {s : String} :
    s ∈ items.filterMap Document.text? ↔ .text s ∈ items := by
  simp only [List.mem_filterMap]
  constructor
  · rintro ⟨d, hd, hs⟩
    cases d <;> simp_all [Document.text?]
  · intro h
    exact ⟨_, h, rfl⟩

/-- The list that is read says of each resource whether it is whitelisted. -/
theorem whitelist_silent (i : Invocation) : (whitelist i).Silent fun listed =>
    (∀ resource, (∀ l, listed = some l → resource ∈ l) ↔
      Whitelisted i.configuration resource) ∧
    ∀ value, i.configuration.get? whitelistKey = some value → value ≠ .null →
      listed.isSome := by
  have hkey : whitelistKey = "resource_white_list" := rfl
  unfold whitelist Whitelisted
  rw [hkey]
  split
  · next h => exact .pure (by simp [h])
  · next h => exact .pure (by simp [h])
  · next items h =>
    refine .pure ⟨fun resource => ?_, fun _ _ _ => rfl⟩
    simp only [Option.some.injEq, forall_eq', h, mem_texts]
    simp
  · exact .fail _

theorem checkSource_silent (i : Invocation) (source : String) (listed : Option (List String)) :
    (checkSource i source listed).Silent fun _ =>
      ∀ l, listed = some l → source ≠ "" ∧ source ∈ l := by
  unfold checkSource
  split
  · exact .pure (by simp)
  · next allowed =>
    split
    · exact .fail _
    · split
      · exact .fail _
      · next hempty hlisted => exact .pure (by simp_all)

theorem mode_silent (i : Invocation) (source : String) :
    (mode i source).Silent (ModeFor i.configuration source) := by
  unfold mode ModeFor
  cases i.configuration.filledField? "mode" with
  | some word => exact .mapError (.ofExcept fun _ h => h)
  | none => exact .pure (by simp)

/-- An invocation is refused before the grid is called, or it is accepted as one
request and leaves the log of that. -/
theorem body_yields (invoke : Invoker) (i : Invocation) (grid : Grid) (log : List Entry) :
    (body invoke i).Yields grid log fun _ added =>
      added = [] ∨ ∃ request, Accepted i.parameters i.configuration request ∧
        Retention.Trace grid log request added := by
  unfold body
  refine (capture_silent i).bind_yields (fun _ _ => .inl rfl) ?_
  intro captured hcaptured
  refine (whitelist_silent i).bind_yields (fun _ _ => .inl rfl) ?_
  rintro listed ⟨hlisted, hset⟩
  refine (checkSource_silent i captured.sourceResource listed).bind_yields
    (fun _ _ => .inl rfl) ?_
  intro _ hpermitted
  refine (mode_silent i captured.sourceResource).bind_yields (fun _ _ => .inl rfl) ?_
  intro mode hmode
  have haccepted : ∀ request : RetentionRequest,
      (request = ⟨mode, captured.userName, captured.logicalPath, captured.sourceResource,
        captured.destinationResource, listed, marker i.configuration⟩) →
        Accepted i.parameters i.configuration request := by
    rintro _ rfl
    refine ⟨hcaptured, hlisted, ?_, hmode, rfl⟩
    intro value hvalue hnull
    obtain ⟨l, hl⟩ := Option.isSome_iff_exists.mp (hset value hvalue hnull)
    refine ⟨(hpermitted l hl).1, (hlisted _).mp ?_⟩
    intro l' hl'
    exact (hpermitted l' hl').2
  refine (Run.Yields.mapError (Q := fun _ added => Retention.Trace grid log _ added)
    (Retention.apply_yields _)).bind ?_ ?_
  · rintro _ _ _ htrace _
    exact .inr ⟨_, haccepted _ rfl, htrace⟩
  · rintro _ _ htrace _
    refine Run.Yields.pure (.inr ⟨_, haccepted _ rfl, ?_⟩)
    rwa [List.append_nil]

theorem mem_builtin : ⟨name, body⟩ ∈ builtinPolicies := by simp [builtinPolicies]

/-- An invocation by name leaves no log, or that of the request it was accepted as. -/
theorem builtinLog_cases (depth : Nat) (grid : Grid) (parameters configuration : Document) :
    builtinLog depth grid name parameters configuration = [] ∨
      ∃ request, Accepted parameters configuration request ∧
        Retention.Trace grid [] request
          (builtinLog depth grid name parameters configuration) := by
  refine builtinLog_of_yields mem_builtin
    (Q := fun log => log = [] ∨ ∃ request, Accepted parameters configuration request ∧
      Retention.Trace grid [] request log) (.inl rfl) ?_ depth
  intro depth
  refine (body_yields _ _ grid []).mono ?_
  rintro _ added (hnil | ⟨request, haccepted, htrace⟩)
  · exact .inl hnil
  · exact .inr ⟨request, haccepted.of_effectiveConfiguration, htrace⟩

/-- The log removes nothing that is protected. What the catalog says is read at the
place in the log where it was asked. -/
structure Protects (grid : Grid) (parameters configuration : Document) (log : List Entry) :
    Prop where
  /-- A resource that is trimmed is whitelisted, was asked about, and was not said to
  be preserved. -/
  trim : ∀ user path resource, .call (.trim user path resource) ∈ log →
    Whitelisted configuration resource ∧
    ∃ resources removed,
      log = .call (Retention.replicaCall path) ::
        .call (Retention.preservationCall resources (marker configuration)) :: removed ∧
      resource ∈ resources ∧
      resource ∉ Retention.names (grid.answer [.call (Retention.replicaCall path)]
        (Retention.preservationCall resources (marker configuration)))
  /-- Of an object that is unlinked the same holds for the root of every replica. -/
  unlink : ∀ user path, .call (.unlink user path) ∈ log →
    ∃ resources removed,
      log = .call (Retention.replicaCall path) ::
        .call (Retention.preservationCall resources (marker configuration)) :: removed ∧
      ∀ root ∈ Retention.roots (grid.answer [] (Retention.replicaCall path)),
        Whitelisted configuration root ∧ root ∈ resources ∧
        root ∉ Retention.names (grid.answer [.call (Retention.replicaCall path)]
          (Retention.preservationCall resources (marker configuration)))
  /-- An object is unlinked once, and then nothing is trimmed. -/
  once : ∀ user path, .call (.unlink user path) ∈ log →
    removals log = [.unlink user path]
  /-- With a whitelist the grid is not called for a source that is not on it. -/
  refused : ∀ value, configuration.get? whitelistKey = some value → value ≠ .null →
    (sourceNamed parameters = "" ∨ ¬ Whitelisted configuration (sourceNamed parameters)) →
    log = []

theorem Protects.nil (grid : Grid) (parameters configuration : Document) :
    Protects grid parameters configuration [] where
  trim := by simp
  unlink := by simp
  once := by simp
  refused _ _ _ _ := rfl

end GridPolicy.ReplicaRetention
