import GridPolicy.Dispatch
import GridPolicy.Proofs.Run.Sequence

/-!
# What a dispatcher attempts

Which policies are invoked for an event, and with what, follows from the descriptors
and the record alone. Here these attempts are listed, and to dispatch is shown to be
to make them in order: each has its turn whatever came of those before it, and the
report tells those that succeeded from those that failed.
-/
namespace GridPolicy

/-- An invocation that a dispatcher makes of a policy that it holds. -/
structure Attempt where
  policy : Policy
  parameters : Document
  configuration : Document

/-- An attempt that was made, and its answer. -/
abbrev Attempted := Attempt × Except PolicyError Document

namespace Attempt

/-- What the policy receives. -/
def invocation (a : Attempt) : Invocation :=
  ⟨a.policy.name, a.parameters, Policy.effectiveConfiguration a.configuration⟩

def run (invoke : Invoker) (a : Attempt) : Run PolicyError Document :=
  a.policy.run invoke a.parameters a.configuration

/-- Makes an attempt and keeps its answer. -/
def make (invoke : Invoker) (a : Attempt) : Run Empty Attempted := do
  return (a, ← (a.run invoke).attempt)

/-- Makes attempts in order. -/
def makeAll (invoke : Invoker) (attempts : List Attempt) : Run Empty (List Attempted) :=
  Run.forEach (make invoke) attempts

end Attempt

namespace Attempted

def succeeded : Attempted → Bool
  | (_, .ok _) => true
  | (_, .error _) => false

/-- How a failure is reported: by the name of the policy, and code and message of its
error. -/
def failure? : Attempted → Option InvocationFailure
  | (_, .ok _) => none
  | (a, .error e) => some ⟨a.policy.name, e.status.code, e.message⟩

end Attempted

namespace DispatchReport

/-- The report on attempts: who succeeded, and every failure. -/
def ofAttempted (made : List Attempted) : DispatchReport :=
  ⟨(made.filter Attempted.succeeded).map (·.1.policy.name), made.filterMap Attempted.failure?⟩

@[simp] theorem ofAttempted_append (made more : List Attempted) :
    ofAttempted (made ++ more) = (ofAttempted made).append (ofAttempted more) := by
  simp [ofAttempted, append]

theorem ofAttempted_cons (m : Attempted) (made : List Attempted) :
    ofAttempted (m :: made) = (ofAttempted [m]).append (ofAttempted made) :=
  ofAttempted_append [m] made

/-- Every attempt is reported once. -/
theorem length_ofAttempted (made : List Attempted) :
    (ofAttempted made).invoked.length + (ofAttempted made).failures.length = made.length := by
  induction made with
  | nil => rfl
  | cons m made ih =>
    obtain ⟨a, answer⟩ := m
    rw [ofAttempted_cons]
    cases answer <;>
      simp only [ofAttempted, append, Attempted.succeeded, Attempted.failure?, List.filter_cons,
        List.filterMap_cons, List.filter_nil, List.filterMap_nil, List.map_cons, List.map_nil,
        List.length_append, List.length_cons, List.length_nil, Bool.false_eq_true,
        ↓reduceIte] at ih ⊢ <;> omega

theorem toExcept_ofAttempted (made : List Attempted) :
    (ofAttempted made).toExcept = .ok () ↔ ∀ m ∈ made, m.succeeded = true := by
  have hfailures : (ofAttempted made).toExcept = .ok () ↔ (ofAttempted made).failures = [] := by
    unfold toExcept PolicyError.ofFailures
    split <;> simp_all
  rw [hfailures, ofAttempted, List.filterMap_eq_nil_iff]
  refine forall₂_congr fun m _ => ?_
  obtain ⟨a, answer⟩ := m
  cases answer <;> simp [Attempted.failure?, Attempted.succeeded]

end DispatchReport

namespace ResolvedDescriptor

/-- The attempt for a record. -/
def attempt (d : ResolvedDescriptor) (record : EventRecord) : Attempt :=
  ⟨d.policy, d.parametersFor record, d.configuration⟩

end ResolvedDescriptor

namespace Dispatcher

variable {invoke : Invoker} {record : EventRecord}

/-- The attempts for an event: for each descriptor as many as it has occasions. -/
def attempts (dispatcher : Dispatcher) (event : Event) (point : String) (record : EventRecord) :
    List Attempt :=
  dispatcher.descriptors.flatMap fun d =>
    List.replicate (d.occasions event point record) (d.attempt record)

theorem invokeOnce_eq (d : ResolvedDescriptor) :
    invokeOnce invoke d record = do
      let m ← (d.attempt record).make invoke
      return .ofAttempted [m] := by
  unfold invokeOnce Attempt.make Attempt.run ResolvedDescriptor.attempt
  simp only [bind_assoc, pure_bind]
  congr 1
  funext answer
  cases answer <;> rfl

theorem invokeTimes_eq (d : ResolvedDescriptor) (n : Nat) :
    invokeTimes invoke d record n = do
      let made ← Attempt.makeAll invoke (List.replicate n (d.attempt record))
      return .ofAttempted made := by
  induction n with
  | zero => rfl
  | succ n ih =>
    simp only [invokeTimes, invokeOnce_eq, ih, Attempt.makeAll, List.replicate_succ,
      Run.forEach_cons, bind_assoc, pure_bind]
    congr 1
    funext m
    congr 1
    funext made
    rw [DispatchReport.ofAttempted_cons m made]

/-- To dispatch an event is to make its attempts in order. -/
theorem dispatch_eq (dispatcher : Dispatcher) (event : Event) (point : String) :
    dispatcher.dispatch invoke event point record = do
      let made ← Attempt.makeAll invoke (dispatcher.attempts event point record)
      return .ofAttempted made := by
  unfold dispatch attempts
  induction dispatcher.descriptors with
  | nil => rfl
  | cons d rest ih =>
    simp only [dispatchTo, invokeTimes_eq, ih, Attempt.makeAll, List.flatMap_cons,
      Run.forEach_append, bind_assoc, pure_bind, DispatchReport.ofAttempted_append]

end Dispatcher

end GridPolicy
