import GridPolicy.Proofs.Policy.Descent

/-!
# How deep invocations nest

An invocation leads to another one along a chain of nested invocations. What there is to
pass on is counted by three digits, which are those that get smaller from one invocation
to the next; where a chain is handed on they start anew, but no larger than at first. So
the length of a chain of nested invocations is bounded by how often a chain is handed on
along it. Where that is bounded too, some depth is enough for the whole run.
-/
namespace GridPolicy

/-- The invocation as the body of its policy receives it. -/
def Invocation.received (i : Invocation) : Invocation :=
  { i with configuration := Policy.effectiveConfiguration i.configuration }

/-- With this depth to go an invocation leads from this log to another one by as many nested
invocations, each made when it is its turn. It is counted how many of these hand a chain on. -/
inductive Leads (grid : Grid) :
    (depth : Nat) → Invocation → List Entry → (handings length : Nat) → Invocation → Prop
  | refl {depth : Nat} {log : List Entry} (i : Invocation) : Leads grid depth i log 0 0 i
  | nest {depth handings length : Nat} {i child last : Invocation} {log mid : List Entry}
      {handed : Bool}
      (hchild : Nested (Registry.builtin.invoke depth) grid i.received log handed child mid)
      (hlast : Leads grid depth child mid handings length last) :
      Leads grid (depth + 1) i log (handings + handed.toNat) (length + 1) last

/-- The higher digit decides. -/
theorem digit_lt {a b c d base : Nat} (hhigh : a < b) (hlow : c < base) :
    a * base + c < b * base + d := by
  have hmul := Nat.mul_le_mul_right base (Nat.succ_le_of_lt hhigh)
  rw [Nat.succ_mul] at hmul
  omega

theorem digit_lt_of_le {a b c d base : Nat} (hhigh : a ≤ b) (hlow : c < d) :
    a * base + c < b * base + d := by
  have hmul := Nat.mul_le_mul_right base hhigh
  omega

namespace Invocation

/-- The size of the documents. -/
def size (i : Invocation) : Nat := i.parameters.size + i.configuration.size

/-- What an invocation can still pass on, if chains are handed on as often as given and
nothing is larger than the bound. -/
def measure (bound handings : Nat) (i : Invocation) : Nat :=
  ((handings * (2 * bound + 1) + i.parametersRank) * (bound + 1) + i.configurationRank) * 3 +
    i.callerRank

/-- More than any measure of the invocation. -/
def depthBound (i : Invocation) (handings : Nat) : Nat :=
  (handings + 1) * (2 * i.size + 1) * (i.size + 1) * 3

variable {i child : Invocation} {bound : Nat}

theorem configurationRank_received (i : Invocation) :
    i.received.configurationRank = i.configurationRank := by
  have hentries : chainEntries i.received.configuration = chainEntries i.configuration :=
    chainEntries_congr (Policy.get?_effectiveConfiguration _ _)
      (Policy.get?_effectiveConfiguration _ _)
  rw [configurationRank, configurationRank, chainWeight, chainWeight, hentries]

theorem measure_received (bound handings : Nat) (i : Invocation) :
    i.received.measure bound handings = i.measure bound handings := by
  rw [measure, configurationRank_received]
  rfl

theorem Fits.received (h : i.Fits bound) : i.received.Fits bound where
  parameters := h.parameters
  configuration := by
    rw [configurationRank_received]
    exact h.configuration

theorem measure_lt_depthBound (i : Invocation) (handings : Nat) :
    i.measure i.size handings < i.depthBound handings := by
  have hfits : i.Fits i.size := i.fits_self
  have hparameters := hfits.parametersRank_le
  have hconfiguration := hfits.configuration
  have hcaller := i.callerRank_le
  have hfirst := digit_lt (d := 0) handings.lt_succ_self (Nat.lt_succ_of_le hparameters)
  have hsecond := digit_lt (d := 0) hfirst (Nat.lt_succ_of_le hconfiguration)
  exact digit_lt (d := 0) hsecond (Nat.lt_succ_of_le hcaller)

theorem Descends.measure_lt (h : child.Descends i) (hfits : child.Fits bound)
    (handings : Nat) : child.measure bound handings < i.measure bound handings := by
  have hcaller := Nat.lt_succ_of_le child.callerRank_le
  have hconfiguration := Nat.lt_succ_of_le hfits.configuration
  -- The first digit that gets smaller decides, whatever those after it do.
  cases h with
  | parameters h =>
    have hfirst := Nat.add_lt_add_left h (handings * (2 * bound + 1))
    exact digit_lt (digit_lt hfirst hconfiguration) hcaller
  | configuration hparameters h =>
    have hfirst := Nat.add_le_add_left hparameters (handings * (2 * bound + 1))
    exact digit_lt (digit_lt_of_le hfirst h) hcaller
  | caller hparameters hconfiguration h =>
    have hfirst := Nat.add_le_add_left hparameters (handings * (2 * bound + 1))
    have hsecond := Nat.add_le_add (Nat.mul_le_mul_right (bound + 1) hfirst) hconfiguration
    exact digit_lt_of_le hsecond h

end Invocation

/-- The more handings, the deeper. -/
theorem Invocation.depthBound_mono (i : Invocation) {handings more : Nat} (h : handings ≤ more) :
    i.depthBound handings ≤ i.depthBound more := by
  have hfirst := Nat.mul_le_mul_right (2 * i.size + 1) (Nat.succ_le_succ h)
  exact Nat.mul_le_mul_right 3 (Nat.mul_le_mul_right (i.size + 1) hfirst)

section

variable {grid : Grid} {i child last : Invocation} {bound handings length depth : Nat}
  {log mid : List Entry} {invoke : Invoker} {handed : Bool}

theorem Nested.measure_lt (h : Nested invoke grid i log handed child mid)
    (hfits : i.Fits bound) (handings : Nat) :
    child.measure bound handings < i.measure bound (handings + handed.toNat) := by
  have hchild := h.fits hfits
  cases handed with
  | false => exact h.descends.measure_lt hchild handings
  | true =>
    have hparameters := Nat.lt_succ_of_le hchild.parametersRank_le
    have hfirst := digit_lt (d := i.parametersRank) handings.lt_succ_self hparameters
    have hconfiguration := Nat.lt_succ_of_le hchild.configuration
    have hcaller := Nat.lt_succ_of_le child.callerRank_le
    exact digit_lt (digit_lt hfirst hconfiguration) hcaller

/-- Each nested invocation takes something from what can be passed on. -/
theorem Leads.length_add_measure_le (h : Leads grid depth i log handings length last)
    (hfits : i.Fits bound) : length + last.measure bound 0 ≤ i.measure bound handings := by
  induction h with
  | refl i => exact Nat.le_of_eq (Nat.zero_add _)
  | @nest _ handings _ i child _ _ _ handed hchild hlast ih =>
    have hlt := hchild.measure_lt hfits.received handings
    have hle := ih (hchild.fits hfits.received)
    rw [Invocation.measure_received] at hlt
    omega

theorem Leads.handings_le (h : Leads grid depth i log handings length last) :
    handings ≤ length := by
  induction h with
  | refl => exact Nat.le_refl 0
  | nest _ _ ih => exact Nat.add_le_add ih (Bool.toNat_le _)

theorem Leads.length_le (h : Leads grid depth i log handings length last) : length ≤ depth := by
  induction h with
  | refl => exact Nat.zero_le _
  | nest _ _ ih => exact Nat.succ_le_succ ih

theorem Leads.length_lt (h : Leads grid depth i log handings length last) :
    length < i.depthBound handings := by
  have hle := h.length_add_measure_le i.fits_self
  have hlt := i.measure_lt_depthBound handings
  unfold Invocation.size at hlt
  omega

end

/-! Where depth runs out -/

namespace Registry

variable {grid : Grid} {i child last : Invocation} {handings length depth : Nat}
  {log mid : List Entry} {invoke : Invoker} {handed : Bool}

theorem runBy_builtin {name : String} {body : Invoker → Invocation → Run PolicyError Document}
    (hp : ⟨name, body⟩ ∈ builtinPolicies) (hname : i.received.policy = name) (depth : Nat) :
    i.runBy (builtin.invoke (depth + 1)) = body (builtin.invoke depth) i.received := by
  subst hname
  exact invoke_builtin hp depth i.parameters i.configuration

/-- An invocation runs out of depth with each of those that it makes, even if only one at a
greater depth makes it. -/
theorem runsOut_of_nested (h : Nested invoke grid i.received log handed child mid)
    (happrox : Invoker.Approximates (builtin.invoke depth) invoke)
    (hout : (child.runBy (builtin.invoke depth)).RunsOut grid mid) :
    (i.runBy (builtin.invoke (depth + 1))).RunsOut grid log := by
  cases h with
  | step hname hdestinations hsteps hbefore =>
    rw [runBy_builtin Movement.mem_builtin hname]
    exact Movement.runsOut_of_step happrox hdestinations hsteps hbefore hout
  | row hname hiteration hfetched hrows hearlier hchain hfirst hgoesOn =>
    rw [runBy_builtin QueryProcessor.mem_builtin hname]
    exact QueryProcessor.runsOut_of_row happrox hiteration hfetched hrows hearlier hchain hfirst
      hgoesOn hout
  | found hname hentries hpath hstart hturns hbefore hleads =>
    rw [runBy_builtin Delegation.mem_builtin hname]
    exact Delegation.runsOut_of_found happrox hentries hpath hstart hturns hbefore hleads hout
  | pair hname hfound hentries hbefore hpolicy hpairs hearlier =>
    rw [runBy_builtin ResourcePairs.mem_builtin hname]
    exact ResourcePairs.runsOut_of_pair happrox hfound hentries hbefore hpolicy hpairs hearlier
      hout

theorem exhausts_of_runsOut (h : (i.runBy (builtin.invoke (depth + 1))).RunsOut grid log) :
    Exhausts (builtin.invoke depth) grid i.received log := by
  unfold Invocation.runBy invoke at h
  cases hfind : builtin.find? i.policy with
  | none =>
    rw [hfind] at h
    cases h
  | some p =>
    rw [hfind] at h
    obtain ⟨hp, hname⟩ := mem_of_find?_builtin hfind
    unfold Policy.run at h
    dsimp only at h
    rw [hname] at h
    exact exhausts_of_mem hp hname.symm (invoke_approximates (Nat.le_refl depth)) h

/-- What runs out of depth leads down to where there is none left. -/
theorem exists_leads_of_runsOut (h : (i.runBy (builtin.invoke depth)).RunsOut grid log) :
    ∃ handings last, Leads grid depth i log handings depth last := by
  induction depth generalizing i log with
  | zero => exact ⟨0, i, .refl i⟩
  | succ depth ih =>
    obtain ⟨handed, child, mid, hchild, hout⟩ := exhausts_of_runsOut h
    obtain ⟨handings, last, hlast⟩ := ih hout
    exact ⟨_, last, .nest hchild hlast⟩

/-- No chain of nested invocations is longer than there is depth for. -/
theorem runsOut_of_leads {deeper : Nat} (h : Leads grid deeper i log handings length last)
    (hdepth : depth ≤ length) : (i.runBy (builtin.invoke depth)).RunsOut grid log := by
  induction h generalizing depth with
  | refl =>
    cases Nat.le_zero.mp hdepth
    rfl
  | nest hchild hlast ih =>
    cases depth with
    | zero => rfl
    | succ depth =>
      have hle := Nat.le_of_succ_le_succ hdepth
      exact runsOut_of_nested hchild (invoke_approximates (hle.trans hlast.length_le)) (ih hle)

/-- A chain of nested invocations is not longer than the documents and the handings along it
allow. So where there are not more handings than given along any, there is a depth beyond which
nothing is invoked: no run ends for want of more, and every run with more depth is the same. A
run does end for want of depth just where there is a chain for which it does not suffice. -/
theorem invoke_builtin_bounded (grid : Grid) (i : Invocation) (log : List Entry) :
    (∀ depth handings length last, Leads grid depth i log handings length last →
      handings ≤ length ∧ length < i.depthBound handings) ∧
    (∀ handings, (∀ depth n length last, Leads grid depth i log n length last → n ≤ handings) →
      ∀ depth, i.depthBound handings ≤ depth →
        (builtin.invoke depth i.policy i.parameters i.configuration grid log).1 ≠ .tooDeep ∧
        builtin.invoke depth i.policy i.parameters i.configuration grid log =
          builtin.invoke (i.depthBound handings) i.policy i.parameters i.configuration grid
            log) ∧
    ∀ depth, (builtin.invoke depth i.policy i.parameters i.configuration grid log).1 = .tooDeep ↔
      ∃ deeper handings length last, depth ≤ length ∧
        Leads grid deeper i log handings length last := by
  refine ⟨fun depth handings length last h => ⟨h.handings_le, h.length_lt⟩, ?_, ?_⟩
  · intro handings hhandings depth hdepth
    -- A run that ended for want of depth would have made a chain as long as that.
    have hends {depth : Nat} (hdepth : i.depthBound handings ≤ depth) :
        ¬(i.runBy (builtin.invoke depth)).RunsOut grid log := by
      intro hout
      obtain ⟨n, last, hleads⟩ := exists_leads_of_runsOut hout
      have hbound := i.depthBound_mono (hhandings _ _ _ _ hleads)
      exact absurd hleads.length_lt (Nat.not_lt_of_le (hbound.trans hdepth))
    exact ⟨hends hdepth, (invoke_approximates hdepth _ _ _).same (hends (Nat.le_refl _))⟩
  · intro depth
    constructor
    · intro hout
      obtain ⟨handings, last, hleads⟩ := exists_leads_of_runsOut hout
      exact ⟨depth, handings, depth, last, Nat.le_refl depth, hleads⟩
    · rintro ⟨deeper, handings, length, last, hdepth, hleads⟩
      exact runsOut_of_leads hleads hdepth

end Registry

/-- A query processor that has every row logged. Its chain is handed on with the rest of its
parameters. -/
def loggedRows : Invocation where
  policy := QueryProcessor.name
  parameters := .ofFields
    [(Key.policiesToInvoke, .array [.ofFields [(singleEntryKey, .text ContextLog.name)]]),
      ("query_string", .text "SELECT DATA_NAME")]
  configuration := .null

/-- A configuration in which a generator lists itself. -/
def selfListing : Document := .ofFields
  [(Key.conditional, .ofFields [(Key.metadata, .ofFields [("attribute", .text "a")])]),
    (Key.policiesToInvoke, .array [.ofFields [("policy", .text ResourcePairs.name)]])]

/-- A generator that is configured so. -/
def selfListed : Invocation where
  policy := ResourcePairs.name
  parameters := .emptyObject
  configuration := selfListing

/-- Only four of the policies invoke others. -/
theorem Nested.policy_mem {invoke : Invoker} {grid : Grid} {i child : Invocation}
    {log mid : List Entry} {handed : Bool} (h : Nested invoke grid i log handed child mid) :
    i.policy ∈ [Movement.name, QueryProcessor.name, Delegation.name, ResourcePairs.name] := by
  cases h with
  | step hname => simp [hname]
  | row hname => simp [hname]
  | found hname => simp [hname]
  | pair hname => simp [hname]

/-- From whatever log, nothing but the log is invoked for the rows. -/
theorem policy_of_nested_loggedRows {invoke : Invoker} {grid : Grid} {child : Invocation}
    {log mid : List Entry} {handed : Bool}
    (h : Nested invoke grid loggedRows.received log handed child mid) :
    child.policy = ContextLog.name := by
  cases h with
  | step hname => exact absurd hname (by decide)
  | found hname => exact absurd hname (by decide)
  | pair hname => exact absurd hname (by decide)
  | row hname hiteration hfetched hrows hearlier hchain =>
    obtain ⟨hlisted, -, -⟩ := QueryProcessor.listed_of_iteration hiteration
    obtain ⟨entry, hentry, hdecode⟩ := hlisted _ (hchain ▸ List.mem_append_cons_self)
    rw [List.mem_singleton.mp hentry] at hdecode
    cases hdecode
    rfl

/-- A generator invokes nothing where no resources are found. -/
theorem not_nested_selfListed {invoke : Invoker} {child : Invocation} {log mid : List Entry}
    {handed : Bool} : ¬Nested invoke (.ofRows []) selfListed.received log handed child mid := by
  intro h
  cases h with
  | step hname => exact absurd hname (by decide)
  | row hname => exact absurd hname (by decide)
  | found hname => exact absurd hname (by decide)
  | pair hname hfound hentries hbefore hpolicy hpairs =>
    obtain ⟨-, rows, hrows, rfl⟩ := hfound
    cases hrows
    exact absurd hpairs.symm (by simp [ResourcePairs.neighbours])

/-- The log is reached with the chain of the query processor, and there it ends. A generator
that lists itself hands nothing on where no resources are found. -/
theorem Registry.invoke_builtin_bounded_logged :
    (∀ log, (∀ depth n length last,
        Leads (.ofRows [["a"]]) depth loggedRows log n length last → n ≤ 1) ∧
      ∀ depth, loggedRows.depthBound 1 ≤ depth →
        (builtin.invoke depth loggedRows.policy loggedRows.parameters loggedRows.configuration
          (.ofRows [["a"]]) log).1 ≠ .tooDeep) ∧
    ∀ log, (∀ depth n length last,
        Leads (.ofRows []) depth selfListed log n length last → n ≤ 0) ∧
      ∀ depth, selfListed.depthBound 0 ≤ depth →
        (builtin.invoke depth selfListed.policy selfListed.parameters selfListed.configuration
          (.ofRows []) log).1 ≠ .tooDeep := by
  constructor
  · intro log
    have hhandings : ∀ depth n length last,
        Leads (.ofRows [["a"]]) depth loggedRows log n length last → n ≤ 1 := by
      intro depth n length last h
      cases h with
      | refl => exact Nat.zero_le 1
      | @nest _ _ _ _ child _ _ _ handed hchild hlast =>
        cases hlast with
        | refl => simpa using handed.toNat_le
        | nest hnext =>
          have hleaf := hnext.policy_mem
          rw [Invocation.received, policy_of_nested_loggedRows hchild] at hleaf
          exact absurd hleaf (by decide)
    obtain ⟨-, hends, -⟩ := invoke_builtin_bounded (.ofRows [["a"]]) loggedRows log
    exact ⟨hhandings, fun depth hdepth => (hends 1 hhandings depth hdepth).1⟩
  · intro log
    have hhandings : ∀ depth n length last,
        Leads (.ofRows []) depth selfListed log n length last → n ≤ 0 := by
      intro depth n length last h
      cases h with
      | refl => exact Nat.le_refl 0
      | nest hchild => exact absurd hchild not_nested_selfListed
    obtain ⟨-, hends, -⟩ := invoke_builtin_bounded (.ofRows []) selfListed log
    exact ⟨hhandings, fun depth hdepth => (hends 0 hhandings depth hdepth).1⟩

end GridPolicy
