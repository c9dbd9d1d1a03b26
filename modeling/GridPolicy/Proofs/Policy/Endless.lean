import GridPolicy.Proofs.Policy.Depth
import GridPolicy.Proofs.Query.NamedTokens

/-!
# Invocations without end

A generator that lists itself without a configuration gives itself its own, and a query
processor without parameters for its chain gives its own parameters on. Where the first
thing that either invokes is the same again, no depth is enough: a run ends for want of
depth as soon as one of its parts does.
-/
namespace GridPolicy

variable {invoke : Invoker} {i : Invocation} {grid : Grid} {log asked answered : List Entry}

/-- What comes to one of its own kind again runs out of any depth. -/
theorem Registry.runsOut_of_again (again : Invocation → Prop)
    (hagain : ∀ depth i log, again i → ∃ handed child mid,
      Nested (builtin.invoke depth) grid i.received log handed child mid ∧ again child)
    (depth : Nat) (h : again i) (log : List Entry) :
    (i.runBy (builtin.invoke depth)).RunsOut grid log := by
  induction depth generalizing i log with
  | zero => rfl
  | succ depth ih =>
    obtain ⟨handed, child, mid, hchild, hlast⟩ := hagain depth i log h
    exact runsOut_of_nested hchild (invoke_approximates (Nat.le_refl depth)) (ih hlast mid)

namespace ResourcePairs

variable {configuration metadata entry : Document} {entries : List Document}
  {resources : List String} {pair : String × String} {pairs : List (String × String)}

theorem effectiveConfiguration_of_chainEntries (h : chainEntries configuration = entry :: entries) :
    Policy.effectiveConfiguration configuration = configuration := by
  cases configuration with
  | null => cases h
  | flag => rfl
  | number => rfl
  | text => rfl
  | array => rfl
  | object => rfl

/-- The first entry is the generator itself, and there are two resources for it. -/
theorem nested_self (hname : i.policy = name) (hfound : Found i grid log metadata resources)
    (hentries : chainEntries i.configuration = entry :: entries)
    (hself : entryName? entry = some name) (hbare : entry.get? Key.configuration = none)
    (hpairs : neighbours resources = pair :: pairs) :
    Nested invoke grid i log true
      ⟨name, pairParameters i.parameters.fields pair.1 pair.2, i.configuration⟩
      (log ++ [.call (resourceCall metadata)]) := by
  have hfirst : chainEntries i.configuration = [] ++ entry :: entries := hentries
  have hpair : neighbours resources = [] ++ (pair.1, pair.2) :: pairs := hpairs
  have hnested : Nested invoke grid i log true
      ⟨name, pairParameters i.parameters.fields pair.1 pair.2,
        (entry.get? Key.configuration).getD i.configuration⟩ _ :=
    .pair hname hfound hfirst rfl hself hpair rfl (by simp [hbare])
  rwa [hbare] at hnested

/-- A generator whose first entry is itself without a configuration runs out of any depth
on a grid that finds two resources with the wanted metadata. -/
theorem invoke_self_runsOut (hentries : chainEntries configuration = entry :: entries)
    (hself : entryName? entry = some name) (hbare : entry.get? Key.configuration = none)
    (hmetadata : configuredMetadata? configuration = some metadata) {rows : List Row}
    (hrows : ∀ log, rowsFound (grid.answer log (resourceCall metadata)) = .ok rows)
    (hpairs : neighbours (rows.filterMap List.head?) = pair :: pairs)
    (hparameters : i.parameters.get? Key.queryResults = none) (hname : i.policy = name)
    (hconfiguration : i.configuration = configuration) (depth : Nat) (log : List Entry) :
    (i.runBy (Registry.builtin.invoke depth)).RunsOut grid log := by
  refine Registry.runsOut_of_again (fun i => i.policy = name ∧
    i.parameters.get? Key.queryResults = none ∧ i.configuration = configuration) ?_ depth
    ⟨hname, hparameters, hconfiguration⟩ log
  rintro depth i log ⟨hname, hparameters, hconfiguration⟩
  have hreceived : i.received.configuration = configuration := by
    rw [Invocation.received, hconfiguration]
    exact effectiveConfiguration_of_chainEntries hentries
  have hwanted : wantedMetadata i.received metadata = pure metadata := by
    have hparameters : i.received.parameters.get? Key.queryResults = none := hparameters
    unfold wantedMetadata
    rw [hparameters]
  rw [← hreceived] at hentries hmetadata
  have hfound : Found i.received grid log metadata (rows.filterMap List.head?) :=
    ⟨⟨by simp [hentries], metadata, hmetadata, hwanted⟩, rows, hrows log, rfl⟩
  refine ⟨true, _, _, nested_self hname hfound hentries hself hbare hpairs, rfl, ?_, hreceived⟩
  have hdestination : Key.queryResults ≠ Key.destinationResource := by decide
  have hsource : Key.queryResults ≠ Key.sourceResource := by decide
  exact ((Fields.get?_insert_of_ne hdestination _ _).trans
    (Fields.get?_insert_of_ne hsource _ _)).trans hparameters

end ResourcePairs

namespace QueryProcessor

variable {it : QueryIteration} {fetched more : List Row} {row : Row} {chained : ChainedPolicy}
  {others : List ChainedPolicy}

/-- The first policy of the chain has its turn for the first row. -/
theorem nested_first (hname : i.policy = name)
    (hiteration : iteration i grid log = (.done it, asked))
    (hfetched : queryRows it.query it.limit it.kind grid asked = (.done fetched, answered))
    (hrows : it.rowsFor fetched = row :: more) (hchain : it.chain = chained :: others) :
    ∃ handed, Nested invoke grid i log handed (it.invocation row chained) answered := by
  classical
  have hfirst : it.rowsFor fetched = [] ++ row :: more := hrows
  have hpolicy : it.chain = [] ++ chained :: others := hchain
  exact ⟨decide (HandsOn i (it.invocation row chained) chained),
    .row hname hiteration hfetched hfirst rfl hpolicy rfl (fun _ => rfl) (by simp)⟩

/-- A query processor whose first invocation is the same as itself runs out of any depth. -/
theorem invoke_self_runsOut (hname : i.policy = name)
    (hiteration : ∀ log, ∃ mid, iteration i.received grid log = (.done it, mid))
    (hfetched : ∀ log, ∃ mid, queryRows it.query it.limit it.kind grid log =
      (.done fetched, mid))
    (hrows : it.rowsFor fetched = row :: more) (hchain : it.chain = chained :: others)
    (hself : it.invocation row chained = i) (depth : Nat) (log : List Entry) :
    (i.runBy (Registry.builtin.invoke depth)).RunsOut grid log := by
  refine Registry.runsOut_of_again (· = i) ?_ depth rfl log
  rintro depth j log rfl
  obtain ⟨asked, hasked⟩ := hiteration log
  obtain ⟨answered, hanswered⟩ := hfetched asked
  obtain ⟨handed, hnested⟩ := nested_first (i := j.received) hname hasked hanswered hrows hchain
  exact ⟨handed, _, answered, hnested, hself⟩

end QueryProcessor

/-- A query processor that lists itself and was invoked by itself for the row `a`. -/
def selfInvoked : Invocation where
  policy := QueryProcessor.name
  parameters := .ofFields
    [(Key.policiesToInvoke, .array [.ofFields [(singleEntryKey, .text QueryProcessor.name)]]),
      (Key.queryResults, .ofTexts ["a"]), ("query_string", .text "SELECT DATA_NAME")]
  configuration := .null

/-- What it iterates over. -/
def selfInvokedIteration : QueryIteration where
  query := "SELECT DATA_NAME"
  workers := defaultWorkers
  chain := [{ policy := QueryProcessor.name }]
  baseParameters := selfInvoked.parameters.fields

theorem iteration_selfInvoked (log : List Entry) :
    QueryProcessor.iteration selfInvoked.received (Grid.ofRows [["a"]]) log =
      (.done selfInvokedIteration, log) := by
  have hquery : selfInvoked.received.parameters.filledField? "query_string" =
    some "SELECT DATA_NAME" := rfl
  have hrow : Template.fillRow "SELECT DATA_NAME"
    (QueryProcessor.ownRow selfInvoked.received.parameters) = "SELECT DATA_NAME" := by decide
  have hplain : ¬ Token.opening.toList <:+: "SELECT DATA_NAME".toList := by decide
  have hchain : QueryProcessor.chain selfInvoked.received (Grid.ofRows [["a"]]) log =
    (.done selfInvokedIteration.chain, log) := rfl
  have hkind : QueryProcessor.kind selfInvoked.received (Grid.ofRows [["a"]]) log =
    (.done .general, log) := rfl
  have hcircumstances : QueryProcessor.circumstances selfInvoked.received
    (Grid.ofRows [["a"]]) log = (.done {}, log) := rfl
  unfold QueryProcessor.iteration
  rw [hquery]
  dsimp only
  rw [hrow, Run.bind_of_done hchain, Run.bind_of_done hkind, Run.bind_of_done hcircumstances,
    Template.fillNamed_of_plain hplain]
  rfl

/-- There is no depth that either is content with. -/
theorem Registry.invoke_builtin_endless :
    (∀ depth log, (builtin.invoke depth ResourcePairs.name .emptyObject selfListing
      (Grid.ofRows [["alpha"], ["beta"]]) log).1 = .tooDeep) ∧
    ∀ depth log, (builtin.invoke depth selfInvoked.policy selfInvoked.parameters
      selfInvoked.configuration (Grid.ofRows [["a"]]) log).1 = .tooDeep := by
  constructor
  · intro depth log
    have hentries : chainEntries selfListing =
      [.ofFields [("policy", .text ResourcePairs.name)]] := rfl
    have hmetadata : ResourcePairs.configuredMetadata? selfListing =
      some (.ofFields [("attribute", .text "a")]) := rfl
    have hpairs : ResourcePairs.neighbours ([["alpha"], ["beta"]].filterMap List.head?) =
      [("alpha", "beta")] := rfl
    have hparameters : selfListed.parameters.get? Key.queryResults = none := rfl
    exact ResourcePairs.invoke_self_runsOut hentries rfl rfl hmetadata (fun log => rfl) hpairs
      hparameters rfl rfl depth log
  · intro depth log
    have hrows : selfInvokedIteration.rowsFor [["a"]] = [["a"]] := rfl
    exact QueryProcessor.invoke_self_runsOut rfl (fun log => ⟨_, iteration_selfInvoked log⟩)
      (fun log => ⟨_, rfl⟩) hrows rfl rfl depth log

end GridPolicy
