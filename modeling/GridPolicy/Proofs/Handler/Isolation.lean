import GridPolicy.Handler
import GridPolicy.Proofs.Dispatch.Attempts
import Mathlib.Data.List.Forall2

/-!
# Isolation of the invocations for a call

The attempts for a call are those for its events, one event after the other. They do
not depend on what any policy does: over another registry with policies of the same
names the same invocations are attempted, whichever of them fail. The session is
left as the classifier leaves it, and the report says of every attempt whether it
succeeded.
-/
namespace GridPolicy

namespace Attempt

variable {invoke : Invoker} {grid : Grid} {log mid after : List Entry} {made : List Attempted}

/-- From this log the attempts are made one after the other, each answers, and the log
is left as it is then. -/
inductive Made (invoke : Invoker) (grid : Grid) : List Entry → List Attempted → List Entry → Prop
  | nil {log : List Entry} : Made invoke grid log [] log
  | cons {log mid after : List Entry} {a : Attempt} {answer : Except PolicyError Document}
      {made : List Attempted} (hrun : a.run invoke grid log = (Outcome.ofExcept answer, mid))
      (hrest : Made invoke grid mid made after) :
      Made invoke grid log ((a, answer) :: made) after

theorem made_iff : Made invoke grid log made after ↔
    Run.Answers (Attempt.run invoke) grid log made after := by
  constructor
  · intro h
    induction h with
    | nil => exact .nil
    | cons hrun _ ih => exact .cons hrun ih
  · intro h
    induction h with
    | nil => exact .nil
    | cons hrun _ ih => exact .cons hrun ih

theorem makeAll_of_made (h : Made invoke grid log made after) :
    makeAll invoke (made.map Prod.fst) grid log = (.done made, after) :=
  Run.tryEach_of_answers (made_iff.mp h)

/-- An attempt without an answer is the last that is made. -/
theorem makeAll_of_loss {a : Attempt} {loss : Loss} (rest : List Attempt)
    (hmade : Made invoke grid log made mid)
    (hrun : a.run invoke grid mid = (Outcome.ofLoss loss, after)) :
    makeAll invoke (made.map Prod.fst ++ a :: rest) grid log = (Outcome.ofLoss loss, after) :=
  Run.tryEach_of_loss rest (made_iff.mp hmade) hrun

/-- All attempts are made, or those up to one without an answer. -/
theorem made_or_lost (invoke : Invoker) (grid : Grid) (attempts : List Attempt)
    (log : List Entry) :
    (∃ made after, Made invoke grid log made after ∧ made.map Prod.fst = attempts) ∨
    ∃ made mid a rest loss after, Made invoke grid log made mid ∧
      attempts = made.map Prod.fst ++ a :: rest ∧
      a.run invoke grid mid = (Outcome.ofLoss loss, after) := by
  simp only [made_iff]
  exact Run.answers_or_lost (Attempt.run invoke) grid attempts log

end Attempt

/-- The report says of each attempt that was made whether it succeeded, and keeps their
order. -/
structure DispatchReport.Accounts (report : DispatchReport) (made : List Attempted) : Prop where
  invoked : report.invoked = (made.filter Attempted.succeeded).map (·.1.policy.name)
  failures : report.failures = made.filterMap Attempted.failure?
  complete : report.invoked.length + report.failures.length = made.length
  toExcept : report.toExcept = .ok () ↔ ∀ m ∈ made, m.succeeded = true

theorem DispatchReport.accounts_ofAttempted (made : List Attempted) :
    (ofAttempted made).Accounts made :=
  ⟨rfl, rfl, length_ofAttempted made, toExcept_ofAttempted made⟩

namespace ResolvedDescriptor

/-- The descriptors differ at most in what their policies do. -/
structure Alike (a b : ResolvedDescriptor) : Prop where
  name : a.policy.name = b.policy.name
  rest : { a with policy := b.policy } = b

theorem Alike.occasions_eq {a b : ResolvedDescriptor} (h : a.Alike b) (event : Event)
    (point : String) (record : EventRecord) :
    a.occasions event point record = b.occasions event point record := by
  rw [← h.rest]
  rfl

theorem Alike.invocation_eq {a b : ResolvedDescriptor} (h : a.Alike b) (record : EventRecord) :
    (a.attempt record).invocation = (b.attempt record).invocation := by
  have hparameters : b.parametersFor record = a.parametersFor record := by rw [← h.rest]; rfl
  have hconfiguration : b.configuration = a.configuration := by rw [← h.rest]
  simp only [attempt, Attempt.invocation, h.name, hparameters, hconfiguration]

end ResolvedDescriptor

/-- The registries have policies of the same names. -/
def Registry.SameNames (registry other : Registry) : Prop :=
  ∀ name, registry.contains name = other.contains name

namespace Registry

variable {registry other : Registry} {name : String} {p : Policy}

theorem name_of_find? (h : registry.find? name = some p) : p.name = name := by
  simpa using List.find?_some h

theorem contains_eq (registry : Registry) (name : String) :
    registry.contains name = registry.names.contains name := by
  rw [contains, find?, names, List.isSome_find?, List.contains_eq_any_beq, List.any_map]
  congr 1
  funext p
  exact BEq.comm

theorem SameNames.of_names (h : registry.names = other.names) : registry.SameNames other := by
  intro name
  rw [contains_eq, contains_eq, h]

theorem SameNames.find? (hnames : registry.SameNames other) (h : registry.find? name = some p) :
    ∃ q, other.find? name = some q ∧ p.name = q.name := by
  have hname := hnames name
  rw [contains, h, Option.isSome_some] at hname
  obtain ⟨q, hq⟩ := Option.isSome_iff_exists.mp hname.symm
  exact ⟨q, hq, (name_of_find? h).trans (name_of_find? hq).symm⟩

end Registry

/-- Over a registry with the same names a descriptor is resolved alike. -/
theorem ResolvedDescriptor.alike_of_resolve {registry other : Registry}
    (hnames : registry.SameNames other) {index : Nat} {d : PolicyDescriptor}
    {a : ResolvedDescriptor} (h : resolve registry index d = .ok a) :
    ∃ b, resolve other index d = .ok b ∧ a.Alike b := by
  unfold resolve at h ⊢
  split at h
  · cases h
  · next hnamed =>
    rw [if_neg hnamed]
    split at h
    · cases h
    · next p hp =>
      obtain ⟨q, hq, hname⟩ := hnames.find? hp
      rw [hq]
      dsimp only
      split at h
      · cases h
      · rw [Except.ok.injEq] at h
        subst h
        exact ⟨_, rfl, hname, rfl⟩

namespace Dispatcher

theorem alike_of_resolveFrom {registry other : Registry} (hnames : registry.SameNames other)
    {index : Nat} {descriptors : List PolicyDescriptor} {resolved : List ResolvedDescriptor}
    (h : resolveFrom registry index descriptors = .ok resolved) :
    ∃ resolved', resolveFrom other index descriptors = .ok resolved' ∧
      List.Forall₂ ResolvedDescriptor.Alike resolved resolved' := by
  induction descriptors generalizing index resolved with
  | nil =>
    cases h
    exact ⟨[], rfl, .nil⟩
  | cons d rest ih =>
    unfold resolveFrom at h ⊢
    cases ha : ResolvedDescriptor.resolve registry index d with
    | error e =>
      rw [ha] at h
      cases h
    | ok a =>
      cases hrest : resolveFrom registry (index + 1) rest with
      | error e =>
        rw [ha, hrest] at h
        cases h
      | ok as =>
        rw [ha, hrest] at h
        cases h
        obtain ⟨b, hb, halike⟩ := ResolvedDescriptor.alike_of_resolve hnames ha
        obtain ⟨bs, hbs, halikes⟩ := ih hrest
        rw [hb, hbs]
        exact ⟨b :: bs, rfl, .cons halike halikes⟩

/-- Alike descriptors attempt the same invocations. -/
theorem attempts_of_alike {resolved resolved' : List ResolvedDescriptor}
    (h : List.Forall₂ ResolvedDescriptor.Alike resolved resolved') (event : Event)
    (point : String) (record : EventRecord) :
    (attempts ⟨resolved'⟩ event point record).map Attempt.invocation =
      (attempts ⟨resolved⟩ event point record).map Attempt.invocation := by
  unfold attempts
  induction h with
  | nil => rfl
  | cons halike _ ih =>
    simp only [List.flatMap_cons, List.map_append, List.map_replicate, halike.invocation_eq,
      halike.occasions_eq, ih]

end Dispatcher

namespace Handler

/-- The attempts for events, one event after the other. -/
def attempts (dispatcher : Dispatcher) (point : String) (events : List ClassifiedEvent) :
    List Attempt :=
  events.flatMap fun item => dispatcher.attempts item.event point item.record

theorem dispatchAll_eq (dispatcher : Dispatcher) (invoke : Invoker) (point : String)
    (events : List ClassifiedEvent) :
    dispatchAll dispatcher invoke point events = do
      let made ← Attempt.makeAll invoke (attempts dispatcher point events)
      return .ofAttempted made := by
  induction events with
  | nil => rfl
  | cons item rest ih =>
    simp only [dispatchAll, Dispatcher.dispatch_eq, ih, attempts, Attempt.makeAll,
      List.flatMap_cons, Run.forEach_append, bind_assoc, pure_bind,
      DispatchReport.ofAttempted_append]

section

variable (dispatcher : Dispatcher) (invoke : Invoker) (grid : Grid) (log : List Entry)
  (s : Session) (point : String) (arguments : CallArguments)

/-- How the handling of a call may go. -/
inductive Handled :
    Outcome Empty (Session × Except ClassifierError HandlerOutcome) × List Entry → Prop
  /-- The call is not classified. Nothing is invoked. -/
  | unclassified {e : ClassifierError} (hclassified : (classify s point arguments).2 = .error e) :
      Handled (.done ((classify s point arguments).1, .error e), log)
  /-- Every attempt is made, and the report accounts for them. -/
  | dispatched {events : List ClassifiedEvent} {made : List Attempted} {report : DispatchReport}
      {after : List Entry} (hclassified : (classify s point arguments).2 = .ok events)
      (hall : made.map Prod.fst = attempts dispatcher point events)
      (hmade : Attempt.Made invoke grid log made after) (hreport : report.Accounts made) :
      Handled (.done ((classify s point arguments).1, .ok ⟨events, report⟩), after)
  /-- An attempt in its turn gives no answer at all, and so the call has none. -/
  | lost {events : List ClassifiedEvent} {made : List Attempted} {a : Attempt}
      {rest : List Attempt} {loss : Loss} {mid after : List Entry}
      (hclassified : (classify s point arguments).2 = .ok events)
      (hsome : attempts dispatcher point events = made.map Prod.fst ++ a :: rest)
      (hmade : Attempt.Made invoke grid log made mid)
      (hrun : a.run invoke grid mid = (Outcome.ofLoss loss, after)) :
      Handled (Outcome.ofLoss loss, after)

theorem handled_of_handle : Handled dispatcher invoke grid log s point arguments
    (handle dispatcher invoke s point arguments grid log) := by
  unfold handle
  rcases hclassify : classify s point arguments with ⟨session, result⟩
  have hsession : (classify s point arguments).1 = session := by rw [hclassify]
  cases result with
  | error e =>
    rw [← hsession]
    exact .unclassified (by rw [hclassify])
  | ok events =>
    have hclassified : (classify s point arguments).2 = .ok events := by rw [hclassify]
    simp only [dispatchAll_eq, bind_assoc, pure_bind]
    rcases Attempt.made_or_lost invoke grid (attempts dispatcher point events) log with
      ⟨made, after, hmade, hall⟩ | ⟨made, mid, a, rest, loss, after, hmade, hsome, hrun⟩
    · rw [← hall, Run.bind_of_done (Attempt.makeAll_of_made hmade), ← hsession]
      exact .dispatched hclassified hall hmade (DispatchReport.accounts_ofAttempted made)
    · rw [hsome, Run.bind_of_loss (Attempt.makeAll_of_loss rest hmade hrun)]
      exact .lost hclassified hsome hmade hrun

end

/-- A handled call makes every attempt of every event in its turn, whatever came of those
before. Over another registry of the same names the descriptors are resolved as well, and
for every call the same invocations are attempted, with whatever answers. -/
theorem handle_isolated {registry other : Registry} {descriptors : List PolicyDescriptor}
    {dispatcher : Dispatcher} (hnames : registry.SameNames other)
    (hdispatcher : Dispatcher.ofDescriptors registry descriptors = .ok dispatcher) :
    (∀ invoke event point record, dispatcher.dispatch invoke event point record = do
      let made ← Attempt.makeAll invoke (dispatcher.attempts event point record)
      return .ofAttempted made) ∧
    (∀ invoke grid log s point arguments, Handled dispatcher invoke grid log s point arguments
      (handle dispatcher invoke s point arguments grid log)) ∧
    ∃ dispatcher', Dispatcher.ofDescriptors other descriptors = .ok dispatcher' ∧
      (∀ invoke grid log s point arguments, Handled dispatcher' invoke grid log s point arguments
        (handle dispatcher' invoke s point arguments grid log)) ∧
      ∀ point events, (attempts dispatcher' point events).map Attempt.invocation =
        (attempts dispatcher point events).map Attempt.invocation := by
  have hdispatch : ∀ invoke event point record, dispatcher.dispatch invoke event point record = do
      let made ← Attempt.makeAll invoke (dispatcher.attempts event point record)
      return .ofAttempted made :=
    fun invoke event point record => dispatcher.dispatch_eq event point
  refine ⟨hdispatch, fun _ _ _ _ _ _ => handled_of_handle .., ?_⟩
  unfold Dispatcher.ofDescriptors at hdispatcher ⊢
  cases hresolved : Dispatcher.resolveFrom registry 0 descriptors with
  | error e =>
    rw [hresolved] at hdispatcher
    cases hdispatcher
  | ok resolved =>
    rw [hresolved] at hdispatcher
    cases hdispatcher
    obtain ⟨resolved', hresolved', halike⟩ := Dispatcher.alike_of_resolveFrom hnames hresolved
    rw [hresolved']
    refine ⟨⟨resolved'⟩, rfl, fun _ _ _ _ _ _ => handled_of_handle .., ?_⟩
    intro point events
    simp only [attempts, List.map_flatMap, Dispatcher.attempts_of_alike halike]

/-- Two policies that answer every invocation alike. -/
def echoes (reply : Policy.Reply) : Registry :=
  .ofList [.external "alpha" fun _ _ => reply, .external "beta" fun _ _ => reply]

/-- One is for writes at the end of a call, the other for writes and for truncations. -/
def watching : List PolicyDescriptor :=
  [{ policy := "alpha", events := ["write"], clauses := ["post"] },
   { policy := "beta", events := ["WRITE", "TRUNCATE"], clauses := ["post"] }]

/-- What is known of the object that is closed. -/
def closed : EventRecord := ⟨.ofList [(Key.logicalPath, .text "/zone/home/f")]⟩

/-- Over policies that all refuse, a close that has written and truncated still leads to the
three invocations that it leads to over policies that all succeed. -/
theorem handle_isolated_refused :
    let willing := echoes (.done .null)
    let unwilling := echoes (.refused (.unknownPolicy "gamma"))
    willing.SameNames unwilling ∧
    ∃ dispatcher dispatcher', Dispatcher.ofDescriptors willing watching = .ok dispatcher ∧
      Dispatcher.ofDescriptors unwilling watching = .ok dispatcher' ∧
      (attempts dispatcher' "pep_api_data_obj_close_post"
          [⟨.write, closed⟩, ⟨.truncate, closed⟩]).map Attempt.invocation =
        [⟨"alpha", .object closed.fields, .emptyObject⟩,
          ⟨"beta", .object closed.fields, .emptyObject⟩,
          ⟨"beta", .object closed.fields, .emptyObject⟩] := by
  intro willing unwilling
  have hnames : willing.SameNames unwilling := .of_names (by decide +kernel)
  have hdispatcher : Dispatcher.ofDescriptors willing watching = .ok _ := rfl
  obtain ⟨-, -, dispatcher', hdispatcher', -, hsame⟩ := handle_isolated hnames hdispatcher
  refine ⟨hnames, _, dispatcher', rfl, hdispatcher', ?_⟩
  rw [hsame]
  rfl

end Handler

end GridPolicy
