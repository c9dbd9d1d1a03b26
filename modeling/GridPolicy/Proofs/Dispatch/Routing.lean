import GridPolicy.Proofs.Conditional.Meaning
import GridPolicy.Proofs.Document.Fields
import GridPolicy.Proofs.Event.Names
import GridPolicy.Proofs.Handler.Isolation

/-!
# Where events are sent

What a dispatcher does is all in the descriptors that it is made of. A descriptor has an
occasion for an event for each of its clauses that ends the point and each name of the
event that it lists; to dispatch is to use the occasions of all descriptors in order.
-/
namespace GridPolicy

namespace PolicyDescriptor

/-- What the descriptor constrains records by. -/
def condition (d : PolicyDescriptor) : Document := d.conditional.getD .null

/-- No dispatcher is made with the descriptor. -/
def Faulty (registry : Registry) (d : PolicyDescriptor) : Prop :=
  d.policy = "" ∨ registry.contains d.policy = false ∨
    ∃ cause, Conditional.parse d.condition = .error cause

/-- What is said about a faulty descriptor at this place. -/
inductive Fault (registry : Registry) (index : Nat) (d : PolicyDescriptor) : DispatchError → Prop
  | unnamed (hname : d.policy = "") : Fault registry index d (.missingPolicyName index)
  | unregistered (hname : d.policy ≠ "") (hpolicy : registry.contains d.policy = false) :
      Fault registry index d (.unknownPolicy d.policy)
  | invalid {cause : ConditionalError} (hname : d.policy ≠ "")
      (hpolicy : registry.contains d.policy = true)
      (hcondition : Conditional.parse d.condition = .error cause) :
      Fault registry index d (.invalidConditional d.policy cause)

/-- Whether the conditional of the descriptor accepts a record. -/
def admits (d : PolicyDescriptor) (record : EventRecord) : Bool :=
  match Conditional.parse d.condition with
  | .ok conditional => conditional.accepts record
  | .error _ => false

end PolicyDescriptor

/-- Whether a listed name stands for the event, in whatever case and with blanks around. -/
def Event.isListed (event : Event) (listed : String) : Bool :=
  Text.sameLetters (Text.trim listed) event.name

/-- A clause and a listed name by which a descriptor is for an event. -/
structure Occasion where
  descriptor : PolicyDescriptor
  clause : String
  listed : String

/-- The occasions of a descriptor for an event: each clause, and for each clause each name. -/
def PolicyDescriptor.occasions (event : Event) (point : String) (record : EventRecord)
    (d : PolicyDescriptor) : List Occasion :=
  if d.admits record then
    (d.clauses.filter (ResolvedDescriptor.endsWithClause point)).flatMap fun clause =>
      (d.events.filter event.isListed).map fun listed => ⟨d, clause, listed⟩
  else []

theorem PolicyDescriptor.descriptor_of_mem_occasions {d : PolicyDescriptor} {event : Event}
    {point : String} {record : EventRecord} {o : Occasion}
    (ho : o ∈ d.occasions event point record) : o.descriptor = d := by
  unfold occasions at ho
  split at ho
  · simp only [List.mem_flatMap, List.mem_map] at ho
    obtain ⟨clause, -, listed, -, rfl⟩ := ho
    rfl
  · cases ho

/-- An attempt is what a descriptor asks for on an occasion. -/
structure Occasion.Serves (registry : Registry) (record : EventRecord) (o : Occasion)
    (a : Attempt) : Prop where
  registered : registry.find? o.descriptor.policy = some a.policy
  policy : a.invocation.policy = o.descriptor.policy
  /-- An absent configuration is an empty one, and so is `null`. -/
  configuration : a.invocation.configuration =
    if (o.descriptor.configuration.getD .null).isNull then .emptyObject
    else o.descriptor.configuration.getD .null
  /-- The conditional stands before the record, and the record before the parameters. -/
  parameters : ∃ fields : Fields, a.invocation.parameters = .object fields ∧ ∀ key,
    fields.get? key =
    if key = Key.conditional ∧ o.descriptor.condition.isNull = false then
      some o.descriptor.condition
    else (record.get? key).or (o.descriptor.parameters.bind (·.get? key))
  /-- The policy receives the invocation. -/
  received : ∀ invoke, a.run invoke = a.policy.body invoke a.invocation

namespace ResolvedDescriptor

/-- The descriptor is resolved to this. -/
structure Resolves (registry : Registry) (d : PolicyDescriptor) (r : ResolvedDescriptor) :
    Prop where
  policy : registry.find? d.policy = some r.policy
  conditional : Conditional.parse d.condition = .ok r.conditional
  events : r.events = d.events.filterMap Event.read?
  clauses : r.clauses = d.clauses
  configuration : r.configuration = d.configuration.getD .null
  parameters : r.parameters = d.parameters

section Resolve

variable {registry : Registry} {index : Nat} {d : PolicyDescriptor} {r : ResolvedDescriptor}
  {e : DispatchError}

theorem contains_eq_false {name : String} :
    registry.contains name = false ↔ registry.find? name = none := by
  rw [Registry.contains, Option.isSome_eq_false_iff, Option.isNone_iff_eq_none]

/-- A descriptor is resolved or has a fault. -/
theorem resolve_cases (registry : Registry) (index : Nat) (d : PolicyDescriptor) :
    (∃ r, resolve registry index d = .ok r ∧ Resolves registry d r ∧ ¬ d.Faulty registry) ∨
    ∃ e, resolve registry index d = .error e ∧ d.Fault registry index e ∧ d.Faulty registry := by
  have hcondition : d.condition = d.conditional.getD .null := rfl
  unfold resolve
  rw [← hcondition]
  by_cases hname : d.policy = ""
  · exact .inr ⟨_, by simp [hname], .unnamed hname, .inl hname⟩
  rw [if_neg (by simpa using hname)]
  cases hpolicy : registry.find? d.policy with
  | none =>
    have habsent := contains_eq_false.mpr hpolicy
    exact .inr ⟨_, rfl, .unregistered hname habsent, .inr (.inl habsent)⟩
  | some policy =>
    have hpresent : registry.contains d.policy = true := by simp [Registry.contains, hpolicy]
    cases hparse : Conditional.parse d.condition with
    | error cause =>
      exact .inr ⟨_, rfl, .invalid hname hpresent hparse, .inr (.inr ⟨cause, hparse⟩)⟩
    | ok conditional =>
      have hsound : ¬ d.Faulty registry := by
        rintro (h | h | ⟨cause, h⟩)
        · exact hname h
        · rw [hpresent] at h
          cases h
        · rw [hparse] at h
          cases h
      refine .inl ⟨_, rfl, ?_, hsound⟩
      constructor
      · exact hpolicy
      · exact hparse
      all_goals rfl

theorem Resolves.raw_eq (h : Resolves registry d r) : r.conditional.raw = d.condition := by
  obtain ⟨-, -, hdeclared⟩ := Conditional.parse_eq_ok.mp h.conditional
  rw [← hdeclared]
  rfl

/-- There are as many occasions as the descriptor has clauses and names that fit. -/
theorem Resolves.occasions_eq (h : Resolves registry d r) (event : Event) (point : String)
    (record : EventRecord) :
    r.occasions event point record = (d.occasions event point record).length := by
  have hlisted (listed : String) : event.isListed listed = (Event.read? listed == some event) := by
    rw [Bool.eq_iff_iff, beq_iff_eq, Event.read?_eq_some]
    rfl
  have hevents : (d.events.filter event.isListed).length = r.events.countP fun e => e == event := by
    rw [h.events, List.countP_filterMap, ← List.countP_eq_length_filter]
    refine List.countP_congr fun listed _ => ?_
    rw [hlisted]
    cases Event.read? listed <;> simp
  have hadmits : d.admits record = r.conditional.accepts record := by
    rw [PolicyDescriptor.admits, h.conditional]
  unfold occasions PolicyDescriptor.occasions
  rw [hadmits, h.clauses, ← hevents]
  split
  · simp [List.length_flatMap, List.countP_eq_length_filter]
  · rfl

/-- The attempt for a record is the one that its occasions ask for. -/
theorem Resolves.serves (h : Resolves registry d r) {record : EventRecord}
    (hrecord : record.fields.Distinct) {o : Occasion} (ho : o.descriptor = d) :
    o.Serves registry record (r.attempt record) := by
  subst ho
  refine ⟨h.policy, Registry.name_of_find? h.policy, ?_, ?_, fun invoke => rfl⟩
  · rw [← h.configuration]
    rfl
  · refine ⟨_, rfl, fun key => ?_⟩
    have hbase : Fields.get? key ((r.parameters.map Document.fields).getD []) =
        o.descriptor.parameters.bind (·.get? key) := by
      rw [h.parameters]
      cases o.descriptor.parameters <;> rfl
    have hmerged := Fields.get?_overlay hrecord ((r.parameters.map Document.fields).getD []) key
    rw [hbase] at hmerged
    rw [h.raw_eq]
    cases hnull : o.descriptor.condition.isNull with
    | true => simpa [EventRecord.get?] using hmerged
    | false => simp [Fields.get?_insert, hmerged, EventRecord.get?]

end Resolve

end ResolvedDescriptor

namespace Dispatcher

variable {registry : Registry} {ds : List PolicyDescriptor} {resolved : List ResolvedDescriptor}

/-- Descriptors are resolved one by one, or the first that is faulty is reported. -/
theorem resolveFrom_cases (registry : Registry) (index : Nat) (ds : List PolicyDescriptor) :
    (∃ resolved, resolveFrom registry index ds = .ok resolved ∧
      List.Forall₂ (ResolvedDescriptor.Resolves registry) ds resolved ∧
      ∀ d ∈ ds, ¬ d.Faulty registry) ∨
    ∃ e before d after, resolveFrom registry index ds = .error e ∧ ds = before ++ d :: after ∧
      (∀ d' ∈ before, ¬ d'.Faulty registry) ∧ d.Fault registry (index + before.length) e ∧
      d.Faulty registry := by
  induction ds generalizing index with
  | nil => exact .inl ⟨[], rfl, .nil, by simp⟩
  | cons d rest ih =>
    rw [resolveFrom]
    rcases ResolvedDescriptor.resolve_cases registry index d with
      ⟨r, hr, hresolves, hsound⟩ | ⟨e, he, hfault, hfaulty⟩
    · rw [hr]
      rcases ih (index + 1) with ⟨rs, hrs, hall, hsounds⟩ |
        ⟨e, before, d', after, he, rfl, hbefore, hfault, hfaulty⟩
      · rw [hrs]
        exact .inl ⟨r :: rs, rfl, .cons hresolves hall, List.forall_mem_cons.mpr ⟨hsound, hsounds⟩⟩
      · rw [he]
        have hindex : index + 1 + before.length = index + (d :: before).length := by
          rw [List.length_cons]
          omega
        rw [hindex] at hfault
        exact .inr ⟨e, d :: before, d', after, rfl, rfl,
          List.forall_mem_cons.mpr ⟨hsound, hbefore⟩, hfault, hfaulty⟩
    · rw [he]
      exact .inr ⟨e, [], d, rest, rfl, rfl, by simp, hfault, hfaulty⟩

/-- What is attempted is what the occasions of the descriptors ask for. -/
theorem forall₂_attempts (h : List.Forall₂ (ResolvedDescriptor.Resolves registry) ds resolved)
    (event : Event) (point : String) {record : EventRecord} (hrecord : record.fields.Distinct) :
    List.Forall₂ (Occasion.Serves registry record)
      (ds.flatMap (PolicyDescriptor.occasions event point record))
      (attempts ⟨resolved⟩ event point record) := by
  refine List.rel_flatMap h fun d r hresolves => ?_
  have hserves : ∀ o ∈ d.occasions event point record,
      o.Serves registry record (r.attempt record) :=
    fun o ho => hresolves.serves hrecord (PolicyDescriptor.descriptor_of_mem_occasions ho)
  rw [hresolves.occasions_eq]
  generalize d.occasions event point record = occasions at hserves
  induction occasions with
  | nil => exact .nil
  | cons o rest ih =>
    obtain ⟨ho, hrest⟩ := List.forall_mem_cons.mp hserves
    exact .cons ho (ih hrest)

/-- A dispatcher is made of descriptors unless one of them is faulty, and the first that is
faulty is reported. To dispatch an event is to make, in order, one attempt for each occasion
that a descriptor has for it. The record is a mapping: it has no key twice, and no record that
a session reports has (`Session.distinct_of_reports`). -/
theorem dispatch_routes (registry : Registry) (ds : List PolicyDescriptor) :
    ((∃ e, ofDescriptors registry ds = .error e) ↔ ∃ d ∈ ds, d.Faulty registry) ∧
    (∀ e, ofDescriptors registry ds = .error e → ∃ before d after, ds = before ++ d :: after ∧
      (∀ d' ∈ before, ¬ d'.Faulty registry) ∧ d.Fault registry before.length e) ∧
    ∀ dispatcher, ofDescriptors registry ds = .ok dispatcher →
      ∀ event point record, record.fields.Distinct → ∃ attempts,
        List.Forall₂ (Occasion.Serves registry record)
          (ds.flatMap (PolicyDescriptor.occasions event point record)) attempts ∧
        ∀ invoke, dispatcher.dispatch invoke event point record = do
          let made ← Attempt.makeAll invoke attempts
          return .ofAttempted made := by
  unfold ofDescriptors
  rcases resolveFrom_cases registry 0 ds with ⟨resolved, hok, hall, hsounds⟩ |
    ⟨e, before, d, after, he, rfl, hbefore, hfault, hfaulty⟩
  · rw [hok]
    refine ⟨⟨nofun, ?_⟩, nofun, ?_⟩
    · rintro ⟨d, hd, hfaulty⟩
      exact absurd hfaulty (hsounds d hd)
    · rintro dispatcher hdispatcher event point record hrecord
      cases hdispatcher
      exact ⟨_, forall₂_attempts hall event point hrecord,
        fun invoke => dispatch_eq ⟨resolved⟩ event point⟩
  · rw [he]
    refine ⟨⟨fun _ => ⟨d, by simp, hfaulty⟩, fun _ => ⟨e, rfl⟩⟩, ?_, nofun⟩
    intro e' he'
    cases he'
    rw [Nat.zero_add] at hfault
    exact ⟨before, d, after, rfl, hbefore, hfault⟩

/-- For writes of an object, whichever way their name is written, and for no other event. -/
def writing : PolicyDescriptor where
  policy := "alpha"
  events := ["write", " Write\n", "writing", "PUT"]
  clauses := ["post", "pre", "close_post"]
  conditional := some (.object [(Key.entityType, .text "data_object")])
  configuration := some .null
  parameters := some (.object [("checksum", .text "sha2"), (Key.userName, .text "nobody")])

def written : EventRecord :=
  ⟨.ofList [(Key.entityType, .text "data_object"), (Key.userName, .text "alice")]⟩

def alone : Registry := .ofList [.external "alpha" fun _ _ => .done .null]

/-- Two clauses that fit and two names that do make four attempts. -/
theorem dispatch_routes_written : ∃ dispatcher, ofDescriptors alone [writing] = .ok dispatcher ∧
    written.fields.Distinct ∧ ∃ attempts,
      List.Forall₂ (Occasion.Serves alone written)
        [⟨writing, "post", "write"⟩, ⟨writing, "post", " Write\n"⟩,
          ⟨writing, "close_post", "write"⟩, ⟨writing, "close_post", " Write\n"⟩] attempts ∧
      ∀ invoke, dispatcher.dispatch invoke .write "pep_api_data_obj_close_post" written = do
        let made ← Attempt.makeAll invoke attempts
        return .ofAttempted made := by
  have hrecord : written.fields.Distinct := by decide +kernel
  have hdispatcher : ofDescriptors alone [writing] = .ok _ := rfl
  have hroutes := (dispatch_routes alone [writing]).2.2 _ hdispatcher .write
    "pep_api_data_obj_close_post" written hrecord
  exact ⟨_, hdispatcher, hrecord, hroutes⟩

end Dispatcher

end GridPolicy
