import GridPolicy.Proofs.Policy.ChainWeight
import GridPolicy.Proofs.Policy.Nesting

/-!
# What gets smaller from one invocation to the next

The documents that a policy hands down stand inside its own. An entry's parameters and
configuration are smaller than the list that the entry stands in, so with each invocation
either the weight of the chain in the parameters goes down, or that stays and the weight
of the chain in the configuration does. Only where a chain is handed on as it is does
neither, and even then nothing gets larger than the documents were at first.
-/
namespace GridPolicy

open Document (size?)

namespace QueryProcessor

variable {i : Invocation}

/-- The chain of an iteration is listed in the parameters, and so is what its policies
receive besides. -/
theorem listed_of_iteration {grid : Grid} {log mid : List Entry} {it : QueryIteration}
    (h : iteration i grid log = (.done it, mid)) :
    (∀ chained ∈ it.chain, ∃ entry ∈ chainEntries i.parameters,
      ChainedPolicy.decode entry = some chained) ∧
    it.baseParameters = baseParameters i.parameters ∧
    it.defaultConfiguration = (i.parameters.get? Key.configuration).getD .null := by
  obtain ⟨_, listed, _, _, _, _, _, _, -, hchain, -, -, -, rfl⟩ := of_iteration h
  obtain ⟨-, hread, -⟩ := chain_silent.of_done hchain
  refine ⟨fun chained hchained => ?_, rfl, rfl⟩
  have hdecoded : some chained ∈ listed.map some := List.mem_map_of_mem hchained
  rw [hread] at hdecoded
  exact List.mem_map.mp hdecoded

/-- The parameters that are given for the chain. -/
def givenParameters? (parameters : Document) : Option Document :=
  match parameters.get? Key.parameters with
  | some (.object fields) => some (.object fields)
  | _ => none

theorem size?_givenParameters?_le (parameters : Document) :
    size? (givenParameters? parameters) ≤ size? (parameters.get? Key.parameters) := by
  unfold givenParameters?
  split
  · next h => exact Nat.le_of_eq (congrArg size? h).symm
  · exact Nat.zero_le _

theorem baseParameters_of_given {parameters given : Document}
    (h : givenParameters? parameters = some given) :
    parameters.get? Key.parameters = some given ∧
      ∀ key, (baseParameters parameters).get? key = given.get? key := by
  unfold givenParameters? at h
  split at h
  · next fields hfields =>
    cases h
    refine ⟨hfields, fun key => ?_⟩
    rw [baseParameters, hfields]
    rfl
  · cases h

theorem baseParameters_of_none {parameters : Document} (h : givenParameters? parameters = none) :
    (∀ fields, parameters.get? Key.parameters ≠ some (.object fields)) ∧
      ∀ key, (baseParameters parameters).get? key = parameters.get? key := by
  unfold givenParameters? at h
  split at h
  · cases h
  · next hother =>
    refine ⟨hother, fun key => ?_⟩
    rw [baseParameters]
    split
    · next fields hfields => exact absurd hfields (hother fields)
    · rfl

end QueryProcessor

open QueryProcessor (givenParameters?)

/-- The fields by which chains are passed on. -/
def chainKeys : List String :=
  [Key.policiesToInvoke, singleEntryKey, Key.parameters, Key.configuration]

theorem chainEntries_congr {d d' : Document}
    (hlist : d.get? Key.policiesToInvoke = d'.get? Key.policiesToInvoke)
    (hsingle : d.get? singleEntryKey = d'.get? singleEntryKey) :
    chainEntries d = chainEntries d' := by
  unfold chainEntries
  rw [hlist, hsingle]

namespace Invocation

/-- The weight of the chain in the parameters, with the parameters that are given for it. -/
def parametersRank (i : Invocation) : Nat :=
  chainWeight ChainedPolicy.ownParameters? i.parameters +
    size? (givenParameters? i.parameters)

/-- The weight of the chain in the configuration. -/
def configurationRank (i : Invocation) : Nat :=
  chainWeight (·.get? Key.configuration) i.configuration

/-- A generator may pass its configuration on to others, and a movement does to its steps. -/
def callerRank (i : Invocation) : Nat :=
  if i.policy = ResourcePairs.name then 2
  else if i.policy = Movement.name then 1
  else 0

/-- What can be passed on is not larger than this. -/
structure Fits (bound : Nat) (i : Invocation) : Prop where
  parameters : ∀ key ∈ chainKeys, size? (i.parameters.get? key) ≤ bound
  configuration : i.configurationRank ≤ bound

/-- What an invocation has that another one does not: more in its parameters, else more in
its configuration, else more that it may do with the latter. -/
inductive Descends (child i : Invocation) : Prop
  | parameters (h : child.parametersRank < i.parametersRank)
  | configuration (hparameters : child.parametersRank ≤ i.parametersRank)
      (h : child.configurationRank < i.configurationRank)
  | caller (hparameters : child.parametersRank ≤ i.parametersRank)
      (hconfiguration : child.configurationRank ≤ i.configurationRank)
      (h : child.callerRank < i.callerRank)

variable {i child : Invocation} {bound : Nat}

theorem fits_self (i : Invocation) : i.Fits (i.parameters.size + i.configuration.size) where
  parameters key _ := by
    have hlt := i.parameters.size?_get?_lt key
    omega
  configuration := by
    have hweight := chainWeight_lt_size isPart_configuration i.configuration
    unfold configurationRank
    omega

theorem parametersRank_congr
    (h : ∀ key ∈ chainKeys, child.parameters.get? key = i.parameters.get? key) :
    child.parametersRank = i.parametersRank := by
  have hentries : chainEntries child.parameters = chainEntries i.parameters :=
    chainEntries_congr (h _ (by simp [chainKeys])) (h _ (by simp [chainKeys]))
  have hgiven : givenParameters? child.parameters = givenParameters? i.parameters := by
    rw [givenParameters?, h Key.parameters (by simp [chainKeys])]
    rfl
  rw [parametersRank, parametersRank, chainWeight, chainWeight, hentries, hgiven]

theorem Fits.chainWeight_le (h : i.Fits bound) {part : Document → Option Document}
    (hpart : IsPart part) : chainWeight part i.parameters ≤ bound := by
  obtain ⟨key, hkey, hle⟩ := GridPolicy.chainWeight_le hpart i.parameters
  refine Nat.le_trans hle (h.parameters key ?_)
  rcases hkey with rfl | rfl <;> simp [chainKeys]

theorem Fits.parametersRank_le (h : i.Fits bound) : i.parametersRank ≤ 2 * bound := by
  have hweight := h.chainWeight_le ChainedPolicy.isPart_ownParameters?
  have hgiven := QueryProcessor.size?_givenParameters?_le i.parameters
  have hsize := h.parameters Key.parameters (by simp [chainKeys])
  unfold parametersRank
  omega

theorem callerRank_le (i : Invocation) : i.callerRank ≤ 2 := by
  unfold callerRank
  split
  · omega
  split
  · omega
  · omega

end Invocation

section

variable {it : QueryIteration} {row : Row} {chained : ChainedPolicy} {i : Invocation}
  {entry : Document} {bound : Nat}

/-- The own parameters of the policy of an entry. -/
theorem own_lt_chainWeight (hentry : entry ∈ chainEntries i.parameters)
    (hdecode : ChainedPolicy.decode entry = some chained) :
    size? chained.parameters < chainWeight ChainedPolicy.ownParameters? i.parameters := by
  have h := le_chainWeight ChainedPolicy.ownParameters? hentry
  rwa [ChainedPolicy.ownParameters?, hdecode] at h

theorem size?_own_lt (chained : ChainedPolicy) {key other : String} (hne : key ≠ other) :
    size? (chained.parameters.bind (·.get? key)) +
      size? (chained.parameters.bind (·.get? other)) ≤ size? chained.parameters := by
  cases chained.parameters with
  | none => exact Nat.le_refl _
  | some own => exact Nat.le_of_lt (own.size?_add_lt hne)

theorem get?_row {key : String} (hkey : key ∈ chainKeys) :
    (it.invocation row chained).parameters.get? key =
      (chained.parameters.bind (·.get? key)).or (it.baseParameters.get? key) := by
  have hne : key ≠ Key.queryResults := ne_of_mem_of_not_mem hkey (by decide)
  rw [QueryIteration.invocation, QueryIteration.get?_parametersFor, if_neg hne]

/-- With parameters for the chain, nothing else of what the query processor has goes on. -/
theorem parametersRank_row_lt_of_given {given : Document}
    (hbase : it.baseParameters = QueryProcessor.baseParameters i.parameters)
    (hentry : entry ∈ chainEntries i.parameters)
    (hdecode : ChainedPolicy.decode entry = some chained)
    (hgiven : givenParameters? i.parameters = some given) :
    (it.invocation row chained).parametersRank < i.parametersRank := by
  obtain ⟨-, hget⟩ := QueryProcessor.baseParameters_of_given hgiven
  have hown := own_lt_chainWeight hentry hdecode
  have hsize {key : String} (hkey : key ∈ chainKeys) :
      size? ((it.invocation row chained).parameters.get? key) ≤
        size? (chained.parameters.bind (·.get? key)) + size? (given.get? key) := by
    rw [get?_row hkey, hbase, hget]
    exact Document.size?_or_le _ _
  obtain ⟨key, hkey, hweight⟩ := chainWeight_le ChainedPolicy.isPart_ownParameters?
    (it.invocation row chained).parameters
  have hkeys : key ∈ chainKeys ∧ key ≠ Key.parameters := by
    rcases hkey with rfl | rfl <;> decide
  have hlist := hsize hkeys.1
  have hgivenKey : Key.parameters ∈ chainKeys := by decide
  have hparameters := hsize hgivenKey
  have hchild :=
    QueryProcessor.size?_givenParameters?_le (it.invocation row chained).parameters
  have hfirst := size?_own_lt chained hkeys.2
  have hsecond := given.size?_add_lt hkeys.2
  unfold Invocation.parametersRank
  rw [hgiven, Document.size?_some]
  omega

/-- Without, the chain of the entry's own parameters is listed in them. -/
theorem parametersRank_row_lt_of_own
    (hbase : it.baseParameters = QueryProcessor.baseParameters i.parameters)
    (hentry : entry ∈ chainEntries i.parameters)
    (hdecode : ChainedPolicy.decode entry = some chained)
    (hgiven : givenParameters? i.parameters = none)
    (hchain : chainEntries (it.invocation row chained).parameters =
      chainEntries (chained.parameters.getD .emptyObject)) :
    (it.invocation row chained).parametersRank < i.parametersRank := by
  obtain ⟨hother, hget⟩ := QueryProcessor.baseParameters_of_none hgiven
  have hown := own_lt_chainWeight hentry hdecode
  have hweight : chainWeight ChainedPolicy.ownParameters?
      (it.invocation row chained).parameters = chainWeight ChainedPolicy.ownParameters?
        (chained.parameters.getD .emptyObject) := by
    rw [chainWeight, chainWeight, hchain]
  have hparameters : size? (givenParameters? (it.invocation row chained).parameters) ≤
      size? (chained.parameters.bind (·.get? Key.parameters)) := by
    have hgivenKey : Key.parameters ∈ chainKeys := by decide
    have hrow : (it.invocation row chained).parameters.get? Key.parameters = _ :=
      get?_row hgivenKey
    rw [hbase, hget] at hrow
    cases hvalue : chained.parameters.bind (·.get? Key.parameters) with
    | some value =>
      rw [hvalue, Option.some_or] at hrow
      exact hrow ▸ QueryProcessor.size?_givenParameters?_le _
    | none =>
      rw [hvalue, Option.none_or] at hrow
      unfold givenParameters?
      rw [hrow]
      split
      · next fields hfields => exact absurd hfields (hother fields)
      · exact Nat.le_refl _
  unfold Invocation.parametersRank
  rw [hweight]
  cases hvalue : chained.parameters with
  | none =>
    rw [hvalue] at hparameters hown
    have hnone : chainWeight ChainedPolicy.ownParameters? .emptyObject = 0 := rfl
    simp only [Option.getD_none, hnone, Option.bind_none, Document.size?_none] at hparameters ⊢
    omega
  | some own =>
    rw [hvalue] at hparameters hown
    have hlist : Key.parameters ≠ Key.policiesToInvoke := by decide
    have hsingle : Key.parameters ≠ singleEntryKey := by decide
    have hsum := chainWeight_add_lt ChainedPolicy.isPart_ownParameters? own hlist hsingle
    simp only [Option.getD_some, Option.bind_some, Document.size?_some] at hparameters hown ⊢
    omega

theorem size?_baseParameters_le (hfits : i.Fits bound)
    (hbase : it.baseParameters = QueryProcessor.baseParameters i.parameters) {key : String}
    (hkey : key ∈ chainKeys) : size? (it.baseParameters.get? key) ≤ bound := by
  rw [hbase]
  cases hgiven : givenParameters? i.parameters with
  | some given =>
    obtain ⟨hfield, hget⟩ := QueryProcessor.baseParameters_of_given hgiven
    have hsize := hfits.parameters Key.parameters (by decide)
    have hlt := given.size?_get?_lt key
    rw [hfield, Document.size?_some] at hsize
    rw [hget]
    omega
  | none =>
    rw [(QueryProcessor.baseParameters_of_none hgiven).2]
    exact hfits.parameters key hkey

/-- Its configuration is that of its entry or the one for the chain. -/
theorem chainWeight_configurationFor_le (hfits : i.Fits bound)
    (hdefault : it.defaultConfiguration = (i.parameters.get? Key.configuration).getD .null)
    (hentry : entry ∈ chainEntries i.parameters)
    (hdecode : ChainedPolicy.decode entry = some chained) :
    chainWeight (·.get? Key.configuration) (it.configurationFor chained) ≤ bound := by
  have hrank (d : Document) : chainWeight (fun entry => entry.get? Key.configuration) d ≤ d.size :=
    Nat.le_of_lt (chainWeight_lt_size isPart_configuration d)
  unfold QueryIteration.configurationFor
  cases hconfiguration : chained.configuration with
  | some configuration =>
    have hle := hfits.chainWeight_le ChainedPolicy.isPart_ownConfiguration?
    have hmem := le_chainWeight ChainedPolicy.ownConfiguration? hentry
    have hweight := hrank configuration
    rw [ChainedPolicy.ownConfiguration?, hdecode, Option.bind_some, hconfiguration,
      Document.size?_some] at hmem
    rw [Option.getD_some]
    omega
  | none =>
    rw [Option.getD_none, hdefault]
    have hsize := hfits.parameters Key.configuration (by decide)
    cases hvalue : i.parameters.get? Key.configuration with
    | some configuration =>
      have hweight := hrank configuration
      rw [hvalue, Document.size?_some] at hsize
      rw [Option.getD_some]
      omega
    | none => exact Nat.zero_le _

theorem fits_row (hfits : i.Fits bound)
    (hbase : it.baseParameters = QueryProcessor.baseParameters i.parameters)
    (hdefault : it.defaultConfiguration = (i.parameters.get? Key.configuration).getD .null)
    (hentry : entry ∈ chainEntries i.parameters)
    (hdecode : ChainedPolicy.decode entry = some chained) :
    (it.invocation row chained).Fits bound := by
  refine ⟨fun key hkey => ?_, chainWeight_configurationFor_le hfits hdefault hentry hdecode⟩
  rw [get?_row hkey]
  cases hvalue : chained.parameters.bind (·.get? key) with
  | some value =>
    have hown := own_lt_chainWeight hentry hdecode
    have hbound := hfits.chainWeight_le ChainedPolicy.isPart_ownParameters?
    obtain ⟨own, hownValue, hvalue⟩ := Option.bind_eq_some_iff.mp hvalue
    have hlt := own.size?_get?_lt key
    rw [hownValue] at hown
    rw [hvalue] at hlt
    simp only [Option.some_or, Document.size?_some] at hown hlt ⊢
    omega
  | none =>
    rw [Option.none_or]
    exact size?_baseParameters_le hfits hbase hkey

end

/-! The ways from one invocation to the next -/

section

variable {grid : Grid} {i child : Invocation} {bound : Nat}

theorem get?_forwarded (parameters : Document) (entity : EntityType) (avu : Avu) {key : String}
    (hkey : key ∈ chainKeys) :
    (Delegation.forwarded parameters entity avu).get? key = parameters.get? key := by
  have hne : key ≠ Key.conditional := ne_of_mem_of_not_mem hkey (by decide)
  exact Fields.get?_insert_of_ne hne _ _

theorem get?_pairParameters (parameters : Document) (source destination : String) {key : String}
    (hkey : key ∈ chainKeys) :
    (ResourcePairs.pairParameters parameters.fields source destination).get? key =
      parameters.get? key := by
  have hdestination : key ≠ Key.destinationResource := ne_of_mem_of_not_mem hkey (by decide)
  have hsource : key ≠ Key.sourceResource := ne_of_mem_of_not_mem hkey (by decide)
  exact (Fields.get?_insert_of_ne hdestination _ _).trans (Fields.get?_insert_of_ne hsource _ _)

theorem get?_stepParameters_of_chainKeys (captured : Capture) (destination : String)
    {key : String} (hkey : key ∈ chainKeys) :
    (Movement.stepParameters captured destination).get? key = none := by
  have huser : key ≠ Key.userName := ne_of_mem_of_not_mem hkey (by decide)
  have hpath : key ≠ Key.logicalPath := ne_of_mem_of_not_mem hkey (by decide)
  have hsource : key ≠ Key.sourceResource := ne_of_mem_of_not_mem hkey (by decide)
  have hdestination : key ≠ Key.destinationResource := ne_of_mem_of_not_mem hkey (by decide)
  rw [Movement.get?_stepParameters, if_neg huser, if_neg hpath, if_neg hsource,
    if_neg hdestination]

/-- The configuration of an entry is less than the chain it stands in. -/
theorem chainWeight_configuration_lt {entry d : Document} (hentry : entry ∈ chainEntries d) :
    chainWeight (·.get? Key.configuration) ((entry.get? Key.configuration).getD .null) <
      chainWeight (·.get? Key.configuration) d := by
  have hmem := le_chainWeight (·.get? Key.configuration) hentry
  cases hvalue : entry.get? Key.configuration with
  | none =>
    rw [hvalue] at hmem
    have hnull : chainWeight (·.get? Key.configuration) Document.null = 0 := rfl
    rw [Option.getD_none, hnull]
    omega
  | some configuration =>
    have hlt := chainWeight_lt_size isPart_configuration configuration
    rw [hvalue, Document.size?_some] at hmem
    rw [Option.getD_some]
    omega

theorem configuration_of_delegate {entry : Document} {d : Delegation.Delegate}
    (h : Delegation.Delegate.ofEntry? entry = some d) :
    d.configuration = (entry.get? Key.configuration).getD .null := by
  unfold Delegation.Delegate.ofEntry? at h
  simp only [Option.bind_eq_bind, Option.bind_eq_some_iff] at h
  obtain ⟨policy, -, conditional, -, metadata, -, heq⟩ := h
  cases heq
  rfl

/-- The trial of an entry that stands in the list. -/
theorem Delegation.entry_of_turn {t : Delegation.Trial}
    (h : .trial t ∈ Delegation.turns i) :
    ∃ entry ∈ chainEntries i.configuration,
      Delegation.Delegate.ofEntry? entry = some t.delegate := by
  obtain ⟨d, hd, hturn⟩ := List.mem_flatMap.mp h
  have htrial : t.delegate = d := by
    unfold Delegation.Delegate.turns at hturn
    split at hturn
    · obtain ⟨t', ht', heq⟩ := List.mem_map.mp hturn
      cases heq
      generalize LogicalPath.ancestors (Delegation.eventPath i) = paths at ht'
      cases paths with
      | nil => cases ht'
      | cons first above =>
        rcases List.mem_cons.mp ht' with rfl | habove
        · rfl
        · obtain ⟨path, -, rfl⟩ := List.mem_map.mp habove
          rfl
    · cases List.mem_singleton.mp hturn
  obtain ⟨entry, hentry, hfor⟩ := List.mem_filterMap.mp hd
  exact ⟨entry, hentry, htrial ▸ (Option.filter_eq_some_iff.mp hfor).1⟩

/-- A step is given nothing of what could be passed on but the configuration, which it does
not pass on. -/
theorem descends_step {policy destination : String} (hname : i.policy = Movement.name)
    (hstep : policy ∈ Movement.steps) :
    Invocation.Descends ⟨policy, Movement.stepParameters
      (Capture.ofParameters i.parameters .root) destination, i.configuration⟩ i := by
  refine .caller ?_ (Nat.le_refl _) ?_
  · have hzero : Invocation.parametersRank ⟨policy, Movement.stepParameters
        (Capture.ofParameters i.parameters .root) destination, i.configuration⟩ =
        Invocation.parametersRank ⟨policy, .emptyObject, i.configuration⟩ :=
      Invocation.parametersRank_congr fun key hkey =>
        get?_stepParameters_of_chainKeys _ _ hkey
    rw [hzero]
    exact Nat.zero_le _
  · have hcaller : i.callerRank = 1 := by
      rw [Invocation.callerRank, hname]
      rfl
    have hleaf : ∀ policy ∈ Movement.steps, policy ≠ ResourcePairs.name ∧
        policy ≠ Movement.name := by decide
    obtain ⟨hgenerator, hmovement⟩ := hleaf policy hstep
    rw [hcaller, Invocation.callerRank, if_neg hgenerator, if_neg hmovement]
    exact Nat.zero_lt_one

theorem fits_pair {entry : Document} (hfits : i.Fits bound)
    (hentry : entry ∈ chainEntries i.configuration) (policy source destination : String) :
    Invocation.Fits bound ⟨policy,
      ResourcePairs.pairParameters i.parameters.fields source destination,
      (entry.get? Key.configuration).getD i.configuration⟩ := by
  refine ⟨fun key hkey => ?_, ?_⟩
  · rw [get?_pairParameters _ _ _ hkey]
    exact hfits.parameters key hkey
  · have hlt := chainWeight_configuration_lt hentry
    have hbound := hfits.configuration
    unfold Invocation.configurationRank at hbound ⊢
    dsimp only
    cases hvalue : entry.get? Key.configuration with
    | none => exact hbound
    | some configuration =>
      rw [hvalue, Option.getD_some] at hlt
      rw [Option.getD_some]
      omega

/-- Only to itself does a generator give its own configuration without loss. -/
theorem descends_pair {entry : Document} {policy : String} (hname : i.policy = ResourcePairs.name)
    (hentry : entry ∈ chainEntries i.configuration)
    (hother : ¬(policy = ResourcePairs.name ∧ entry.get? Key.configuration = none))
    (source destination : String) :
    Invocation.Descends ⟨policy,
      ResourcePairs.pairParameters i.parameters.fields source destination,
      (entry.get? Key.configuration).getD i.configuration⟩ i := by
  have hparameters : Invocation.parametersRank ⟨policy, ResourcePairs.pairParameters
      i.parameters.fields source destination,
      (entry.get? Key.configuration).getD i.configuration⟩ = i.parametersRank :=
    Invocation.parametersRank_congr fun key hkey => get?_pairParameters _ _ _ hkey
  cases hvalue : entry.get? Key.configuration with
  | some configuration =>
    rw [hvalue] at hparameters
    refine .configuration (Nat.le_of_eq hparameters) ?_
    have hlt := chainWeight_configuration_lt hentry
    rw [hvalue] at hlt
    exact hlt
  | none =>
    rw [hvalue] at hparameters
    refine .caller (Nat.le_of_eq hparameters) (Nat.le_refl _) ?_
    have hcaller : i.callerRank = 2 := by
      rw [Invocation.callerRank, if_pos hname]
    rw [hcaller, Invocation.callerRank, if_neg fun hself => hother ⟨hself, hvalue⟩]
    split
    · exact Nat.lt_succ_self 1
    · exact Nat.succ_pos 1

variable {invoke : Invoker} {log mid : List Entry} {handed : Bool}

/-- Nothing that is passed on is larger than what could be passed on before. -/
theorem Nested.fits (h : Nested invoke grid i log handed child mid) (hfits : i.Fits bound) :
    child.Fits bound := by
  cases h with
  | step =>
    refine ⟨fun key hkey => ?_, hfits.configuration⟩
    rw [get?_stepParameters_of_chainKeys _ _ hkey]
    exact Nat.zero_le _
  | row hname hiteration hfetched hrows hearlier hchain =>
    obtain ⟨hlisted, hbase, hdefault⟩ := QueryProcessor.listed_of_iteration hiteration
    obtain ⟨entry, hentry, hdecode⟩ := hlisted _ (hchain ▸ List.mem_append_cons_self)
    exact fits_row hfits hbase hdefault hentry hdecode
  | found hname hentries hpath hstart hturns hbefore hleads =>
    obtain ⟨entry, hentry, hdelegate⟩ :=
      Delegation.entry_of_turn (hturns ▸ List.mem_append_cons_self)
    cases hleads with
    | matched =>
      refine ⟨fun key hkey => ?_, ?_⟩
      · rw [get?_forwarded _ _ _ hkey]
        exact hfits.parameters key hkey
      · have hlt := chainWeight_configuration_lt hentry
        have hbound := hfits.configuration
        unfold Invocation.configurationRank at hbound ⊢
        dsimp only
        rw [configuration_of_delegate hdelegate]
        omega
  | pair hname hfound hentries =>
    exact fits_pair hfits (hentries ▸ List.mem_append_cons_self) _ _ _

/-- Where no chain is handed on, something gets less. -/
theorem Nested.descends (h : Nested invoke grid i log false child mid) : child.Descends i := by
  cases h with
  | step hname hdestinations hsteps =>
    exact descends_step hname (hsteps ▸ List.mem_append_cons_self)
  | row hname hiteration hfetched hrows hearlier hchain hfirst hgoesOn hhanded =>
    obtain ⟨hlisted, hbase, -⟩ := QueryProcessor.listed_of_iteration hiteration
    obtain ⟨entry, hentry, hdecode⟩ := hlisted _ (hchain ▸ List.mem_append_cons_self)
    cases hgiven : givenParameters? i.parameters with
    | some given => exact .parameters (parametersRank_row_lt_of_given hbase hentry hdecode hgiven)
    | none =>
      have hkept := mt hhanded.mpr Bool.false_ne_true
      have hown := (QueryProcessor.baseParameters_of_none hgiven).1
      refine .parameters (parametersRank_row_lt_of_own hbase hentry hdecode hgiven ?_)
      exact Classical.not_not.mp fun hne => hkept ⟨hown, hne⟩
  | found hname hentries hpath hstart hturns hbefore hleads =>
    obtain ⟨entry, hentry, hdelegate⟩ :=
      Delegation.entry_of_turn (hturns ▸ List.mem_append_cons_self)
    cases hleads with
    | matched =>
      refine .configuration (Nat.le_of_eq ?_) ?_
      · exact Invocation.parametersRank_congr fun key hkey => get?_forwarded _ _ _ hkey
      · unfold Invocation.configurationRank
        dsimp only
        rw [configuration_of_delegate hdelegate]
        exact chainWeight_configuration_lt hentry
  | pair hname hfound hentries hbefore hpolicy hpairs hearlier hhanded =>
    exact descends_pair hname (hentries ▸ List.mem_append_cons_self)
      (mt hhanded.mpr Bool.false_ne_true) _ _

end

end GridPolicy
