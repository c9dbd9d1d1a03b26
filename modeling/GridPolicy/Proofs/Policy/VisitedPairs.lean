import GridPolicy.Proofs.Policy.Delegated
import GridPolicy.Proofs.Policy.FilledMetadata

/-!
# The pairs of a chain of resources

Every two neighbours among the resources are visited once for each listed policy, in the order
of the list and of the answer. A failure stops nothing: all invocations are made, and those that
failed are reported together. Before the resources are asked for nothing is invoked.
-/
namespace GridPolicy

/-- A catalog that finds these rows for every query. -/
def Grid.ofRows (rows : List Row) : Grid where
  now := 0
  answer _ call :=
    match call with
    | .query _ _ _ => .ok rows
    | _ => .error (.unknownResource "")

/-- The run of an invocation. -/
def Invocation.runBy (invoke : Invoker) (j : Invocation) : Run PolicyError Document :=
  invoke j.policy j.parameters j.configuration

namespace ResourcePairs

open Delegation (Answered)

variable {invoke : Invoker} {i : Invocation} {grid : Grid} {log : List Entry}
  {resources : List String}

/-! Neighbours -/

theorem length_neighbours (resources : List String) :
    (neighbours resources).length = resources.length - 1 := by
  rw [neighbours, List.length_zip, List.length_tail]
  omega

theorem getElem?_neighbours {k : Nat} {source destination : String}
    (hsource : resources[k]? = some source) (hdestination : resources[k + 1]? = some destination) :
    (neighbours resources)[k]? = some (source, destination) := by
  have htail : resources.tail[k]? = some destination := by rwa [List.getElem?_tail]
  exact List.getElem?_zip_eq_some.mpr ⟨hsource, htail⟩

/-- A resource that is listed twice is a neighbour of itself only where it is listed so. -/
example : neighbours ["hot", "warm", "warm", "cold"] =
    [("hot", "warm"), ("warm", "warm"), ("warm", "cold")] := rfl

/-- The parameters of the caller, but for the source and the destination. -/
structure Directs (parameters : Document) (source destination : String) (handed : Document) :
    Prop where
  source : handed.get? Key.sourceResource = some (.text source)
  destination : handed.get? Key.destinationResource = some (.text destination)
  others : ∀ key, key ≠ Key.sourceResource → key ≠ Key.destinationResource →
    handed.get? key = parameters.get? key

theorem directs_pairParameters (parameters : Document) (source destination : String) :
    Directs parameters source destination
      (pairParameters parameters.fields source destination) where
  source := by
    have hne : Key.sourceResource ≠ Key.destinationResource := by decide
    exact (Fields.get?_insert_of_ne hne _ _).trans (Fields.get?_insert_self ..)
  destination := Fields.get?_insert_self ..
  others key hsource hdestination :=
    (Fields.get?_insert_of_ne hdestination _ _).trans (Fields.get?_insert_of_ne hsource _ _)

/-! The invocations -/

/-- One policy for the resources: one invocation for each two neighbours, in their order. -/
structure Visits (parameters : Document) (policy : String) (configuration : Document)
    (resources : List String) (made : List Invocation) : Prop where
  count : made.length = resources.length - 1
  pair : ∀ k source destination, resources[k]? = some source →
    resources[k + 1]? = some destination →
      ∃ handed, made[k]? = some ⟨policy, handed, configuration⟩ ∧
        Directs parameters source destination handed

/-- The invocations of the entries, one entry after the other. -/
inductive Tour (i : Invocation) (resources : List String) :
    List Document → List Invocation → Prop
  | nil : Tour i resources [] []
  | unnamed {entry : Document} {rest : List Document} {made : List Invocation}
      (hname : entryName? entry = none) (hrest : Tour i resources rest made) :
      Tour i resources (entry :: rest) made
  /-- An entry without a configuration has that of the generator. -/
  | named {entry : Document} {rest : List Document} {policy : String}
      {first made : List Invocation} (hname : entryName? entry = some policy)
      (hvisits : Visits i.parameters policy
        ((entry.get? Key.configuration).getD i.configuration) resources first)
      (hrest : Tour i resources rest made) :
      Tour i resources (entry :: rest) (first ++ made)

/-- The invocations of a policy for pairs of resources. -/
def invocationsFor (parameters : Document) (policy : String) (configuration : Document)
    (pairs : List (String × String)) : List Invocation :=
  pairs.map fun pair =>
    ⟨policy, pairParameters parameters.fields pair.1 pair.2, configuration⟩

theorem visits_invocationsFor (parameters : Document) (policy : String)
    (configuration : Document) (resources : List String) :
    Visits parameters policy configuration resources
      (invocationsFor parameters policy configuration (neighbours resources)) where
  count := by rw [invocationsFor, List.length_map, length_neighbours]
  pair k source destination hsource hdestination := by
    refine ⟨pairParameters parameters.fields source destination, ?_,
      directs_pairParameters parameters source destination⟩
    rw [invocationsFor, List.getElem?_map, getElem?_neighbours hsource hdestination]
    rfl

/-- The invocations of an entry; without a name it has none. -/
def invocationsOf (i : Invocation) (pairs : List (String × String)) (entry : Document) :
    List Invocation :=
  match entryName? entry with
  | none => []
  | some policy => invocationsFor i.parameters policy
      ((entry.get? Key.configuration).getD i.configuration) pairs

theorem tour_invocationsOf (i : Invocation) (resources : List String) (entries : List Document) :
    Tour i resources entries (entries.flatMap (invocationsOf i (neighbours resources))) := by
  induction entries with
  | nil => exact .nil
  | cons entry rest ih =>
    rw [List.flatMap_cons]
    cases hname : entryName? entry with
    | none =>
      rw [invocationsOf, hname]
      exact .unnamed hname ih
    | some policy =>
      rw [invocationsOf, hname]
      exact .named hname (visits_invocationsFor ..) ih

/-! What they come to -/

/-- Makes invocations in order and collects the failures. -/
def makeAll (invoke : Invoker) (invocations : List Invocation) :
    Run PolicyError (List InvocationFailure) := do
  let made ← Run.tryEach (Invocation.runBy invoke) invocations
  return made.filterMap Answered.failure?

theorem makeAll_append (first rest : List Invocation) :
    makeAll invoke (first ++ rest) = do
      let failures ← makeAll invoke first
      return failures ++ (← makeAll invoke rest) := by
  simp only [makeAll, Run.tryEach_append, bind_assoc, pure_bind, List.filterMap_append]

theorem runPairs_eq (policy : String) (configuration : Document)
    (pairs : List (String × String)) :
    runPairs invoke policy i.parameters.fields configuration pairs =
      makeAll invoke (invocationsFor i.parameters policy configuration pairs) := by
  induction pairs with
  | nil => rfl
  | cons pair rest ih =>
    obtain ⟨source, destination⟩ := pair
    rw [runPairs, ih]
    simp only [makeAll, invocationsFor, List.map_cons, Run.tryEach, Run.forEach_cons, bind_assoc,
      pure_bind, Invocation.runBy]
    congr 1
    funext answer
    congr 1
    funext made
    -- only an error puts a failure in front of those of the other pairs
    cases answer with
    | ok output => rfl
    | error e => rfl

theorem runEntries_eq (pairs : List (String × String)) (entries : List Document) :
    runEntries invoke i pairs entries =
      makeAll invoke (entries.flatMap (invocationsOf i pairs)) := by
  induction entries with
  | nil => rfl
  | cons entry rest ih =>
    rw [runEntries, ih, List.flatMap_cons, makeAll_append, invocationsOf]
    cases entryName? entry with
    | none => rfl
    | some policy =>
      dsimp only
      rw [runPairs_eq]

/-- There are entries, and metadata to ask for resources with. -/
structure Asks (i : Invocation) (metadata : Document) : Prop where
  entries : chainEntries i.configuration ≠ []
  metadata : ∃ configured, configuredMetadata? i.configuration = some configured ∧
    wantedMetadata i configured = pure metadata

/-- The call that asks for the resources. -/
abbrev resourceCall (metadata : Document) : Call := .query (resourceQuery metadata) 0 .general

/-- The catalog answers with these resources, the first columns of its rows. -/
structure Found (i : Invocation) (grid : Grid) (log : List Entry) (metadata : Document)
    (resources : List String) : Prop where
  asks : Asks i metadata
  rows : ∃ rows, rowsFound (grid.answer log (resourceCall metadata)) = .ok rows ∧
    resources = rows.filterMap List.head?

/-- How the generation of events may go, and the log that it leaves. -/
inductive Generated (invoke : Invoker) (i : Invocation) (grid : Grid) (log : List Entry) :
    Outcome PolicyError Document × List Entry → Prop
  | unlisted (hentries : chainEntries i.configuration = []) :
      Generated invoke i grid log
        (.failed (.invalidInput i.policy "policies_to_invoke is empty"), log)
  | unconfigured (hentries : chainEntries i.configuration ≠ [])
      (hmetadata : configuredMetadata? i.configuration = none) :
      Generated invoke i grid log
        (.failed (.invalidInput i.policy "missing conditional metadata"), log)
  /-- The metadata cannot be read once the values of the row are put in. -/
  | malformed {configured : Document} {row : List Document}
      (hentries : chainEntries i.configuration ≠ [])
      (hmetadata : configuredMetadata? i.configuration = some configured)
      (hrow : i.parameters.get? Key.queryResults = some (.array row))
      (hfilled : fillMetadata? configured row = none) :
      Generated invoke i grid log (.failed (.invalidInput i.policy
        "conditional metadata after substitution: malformed"), log)
  | unanswered {metadata : Document} {cause : ServiceError} (hasks : Asks i metadata)
      (hrows : rowsFound (grid.answer log (resourceCall metadata)) = .error cause) :
      Generated invoke i grid log
        (.failed (.service cause), log ++ [.call (resourceCall metadata)])
  /-- Every invocation is made, and none fails. -/
  | succeeded {metadata : Document} {resources : List String} {made : List Answered}
      {after : List Entry} (hfound : Found i grid log metadata resources)
      (htour : Tour i resources (chainEntries i.configuration) (made.map Prod.fst))
      (hmade : Run.Answers (Invocation.runBy invoke) grid
        (log ++ [.call (resourceCall metadata)]) made after)
      (hnone : ∀ m ∈ made, m.failure? = none) :
      Generated invoke i grid log (.done .null, after)
  /-- Every invocation is made, and each that failed is reported. -/
  | failed {metadata : Document} {resources : List String} {made : List Answered}
      {after : List Entry} (hfound : Found i grid log metadata resources)
      (htour : Tour i resources (chainEntries i.configuration) (made.map Prod.fst))
      (hmade : Run.Answers (Invocation.runBy invoke) grid
        (log ++ [.call (resourceCall metadata)]) made after)
      (hsome : ∃ m ∈ made, m.failure? ≠ none) :
      Generated invoke i grid log
        (.failed (.aggregated (made.filterMap Answered.failure?)), after)
  /-- An invocation in its turn gives no answer at all, and so there is none. -/
  | lost {metadata : Document} {resources : List String} {made : List Answered}
      {j : Invocation} {rest : List Invocation} {loss : Loss} {mid after : List Entry}
      (hfound : Found i grid log metadata resources)
      (htour : Tour i resources (chainEntries i.configuration) (made.map Prod.fst ++ j :: rest))
      (hmade : Run.Answers (Invocation.runBy invoke) grid
        (log ++ [.call (resourceCall metadata)]) made mid)
      (hrun : j.runBy invoke grid mid = (Outcome.ofLoss loss, after)) :
      Generated invoke i grid log (Outcome.ofLoss loss, after)

/-- The metadata is read, or the row that is put in makes it unreadable. -/
theorem wantedMetadata_cases (i : Invocation) (configured : Document) :
    (∃ metadata, wantedMetadata i configured = pure metadata) ∨
    ∃ row, i.parameters.get? Key.queryResults = some (.array row) ∧
      fillMetadata? configured row = none := by
  unfold wantedMetadata
  split
  · next row hrow =>
    cases hfilled : fillMetadata? configured row with
    | some metadata => exact .inl ⟨metadata, rfl⟩
    | none => exact .inr ⟨row, hrow, hfilled⟩
  · exact .inl ⟨configured, rfl⟩

/-- The invocations that were made are the whole tour, or end before one without an answer. -/
theorem generated_of_rows {metadata : Document} {rows : List Row} (hasks : Asks i metadata)
    (hrows : rowsFound (grid.answer log (resourceCall metadata)) = .ok rows) (invoke : Invoker) :
    Generated invoke i grid log
      (pairsOf invoke i rows grid (log ++ [.call (resourceCall metadata)])) := by
  have hfound : Found i grid log metadata (rows.filterMap List.head?) := ⟨hasks, rows, hrows, rfl⟩
  have htour := tour_invocationsOf i (rows.filterMap List.head?) (chainEntries i.configuration)
  rw [pairsOf, runEntries_eq, makeAll, bind_assoc]
  rcases Run.answers_or_lost (Invocation.runBy invoke) grid
    ((chainEntries i.configuration).flatMap
      (invocationsOf i (neighbours (rows.filterMap List.head?))))
    (log ++ [.call (resourceCall metadata)]) with
    ⟨made, after, hmade, hall⟩ | ⟨made, mid, j, rest, loss, after, hmade, hsome, hrun⟩
  · rw [← hall] at htour ⊢
    have htried : (Run.tryEach (Invocation.runBy invoke) (made.map Prod.fst) :
        Run PolicyError _) grid _ = _ := Run.tryEach_of_answers hmade
    rw [Run.bind_of_done htried, pure_bind]
    rcases Answered.reported made grid after with ⟨hnone, hreport⟩ | ⟨hfailed, hreport⟩
    · rw [hreport]
      exact .succeeded hfound htour hmade hnone
    · rw [hreport]
      exact .failed hfound htour hmade hfailed
  · rw [hsome] at htour ⊢
    have htried : (Run.tryEach (Invocation.runBy invoke) (made.map Prod.fst ++ j :: rest) :
        Run PolicyError _) grid _ = _ := Run.tryEach_of_loss rest hmade hrun
    rw [Run.bind_of_loss htried]
    exact .lost hfound htour hmade hrun

theorem generated_of_asks {metadata : Document} (h : Asks i metadata) (invoke : Invoker)
    (grid : Grid) (log : List Entry) : Generated invoke i grid log (body invoke i grid log) := by
  obtain ⟨configured, hmetadata, hwanted⟩ := h.metadata
  have hasked := Run.mapError_queryRows_apply grid log PolicyError.service
    (resourceQuery metadata) 0 .general
  rw [body_eq_pairsOf h.entries hmetadata hwanted invoke]
  cases hrows : rowsFound (grid.answer log (resourceCall metadata)) with
  | error cause =>
    rw [hrows] at hasked
    rw [Run.bind_of_stop hasked rfl]
    exact .unanswered h hrows
  | ok rows =>
    rw [hrows] at hasked
    rw [Run.bind_of_done hasked]
    exact generated_of_rows h hrows invoke

/-- Every two neighbours are visited once for each entry with a name, whatever comes of the
invocations, and what is reported are the failures in their order. -/
theorem pairs_visited (invoke : Invoker) (i : Invocation) (grid : Grid) (log : List Entry) :
    Generated invoke i grid log (body invoke i grid log) := by
  by_cases hentries : chainEntries i.configuration = []
  · have hbody : body invoke i grid log =
        (.failed (.invalidInput i.policy "policies_to_invoke is empty"), log) := by
      simp only [body, hentries]
      rfl
    rw [hbody]
    exact .unlisted hentries
  have hfilled : (chainEntries i.configuration).isEmpty = false := by simpa using hentries
  cases hmetadata : configuredMetadata? i.configuration with
  | none =>
    have hbody : body invoke i grid log =
        (.failed (.invalidInput i.policy "missing conditional metadata"), log) := by
      simp only [body, hfilled, hmetadata]
      rfl
    rw [hbody]
    exact .unconfigured hentries hmetadata
  | some configured =>
    rcases wantedMetadata_cases i configured with ⟨metadata, hwanted⟩ | ⟨row, hrow, hnone⟩
    · exact generated_of_asks ⟨hentries, configured, hmetadata, hwanted⟩ invoke grid log
    · have hbody : body invoke i grid log = (.failed (.invalidInput i.policy
          "conditional metadata after substitution: malformed"), log) := by
        simp only [body, hfilled, hmetadata, wantedMetadata, hrow, hnone]
        rfl
      rw [hbody]
      exact .malformed hentries hmetadata hrow hnone

/-- Two entries that name their policy, one under either key, and one without a name. -/
def tiers : Invocation where
  policy := name
  parameters := .emptyObject
  configuration := .ofFields
    [(Key.conditional, .ofFields [(Key.metadata, .ofFields [("attribute", .text "tier")])]),
      (Key.policiesToInvoke, .array [.ofFields [("policy", .text "copy")],
        .ofFields [("policy_to_invoke", .text "trim")], .emptyObject])]

/-- Both have their turns for both pairs, though all of them fail. -/
example :
    let invoke : Invoker := fun policy parameters configuration => do
      Run.note (.invocation policy parameters configuration)
      Run.fail (.unknownPolicy policy)
    (body invoke tiers (.ofRows [["hot"], ["warm"], ["cold"]]) []).2.filterMap (fun
      | .invocation policy parameters _ => some (policy,
          parameters.textField? Key.sourceResource, parameters.textField? Key.destinationResource)
      | .call _ => none) =
      [("copy", some "hot", some "warm"), ("copy", some "warm", some "cold"),
        ("trim", some "hot", some "warm"), ("trim", some "warm", some "cold")] := by
  decide +kernel

end ResourcePairs

end GridPolicy
