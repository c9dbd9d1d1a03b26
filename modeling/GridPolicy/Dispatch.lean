import GridPolicy.Conditional
import GridPolicy.Document.Decode
import GridPolicy.Policy.Basic

/-!
# Dispatch

A descriptor says which policy is to be invoked for which events, at the end of
which interception points, and under what conditional. Descriptors are resolved
once, so a mistake in one shows before the first event. For an event every
descriptor is looked at in order, and a failure of one invocation keeps none of
the others from being made.
-/
namespace GridPolicy

/-- A policy as it is configured. -/
structure PolicyDescriptor where
  policy : String
  /-- The names of the events that it is for, in any case. -/
  events : List String := []
  /-- The ends of the names of the points that it is active at. -/
  clauses : List String := []
  conditional : Option Document := none
  configuration : Option Document := none
  /-- Parameters that stand unless the record has its own. -/
  parameters : Option Document := none

namespace PolicyDescriptor

def clausesKey : String := "active_policy_clauses"

/-- The names of the members in order. -/
def memberNames : List (List String) :=
  [["policy"], ["events"], [clausesKey], [Key.conditional], [Key.configuration],
   [Key.parameters]]

def decode (d : Document) : Option PolicyDescriptor := do
  match ← Decode.members memberNames d with
  | [policy, events, clauses, conditional, configuration, parameters] =>
    return {
      policy := ← Decode.required Decode.text policy
      events := ← Decode.orElse [] (Decode.list Decode.text) events
      clauses := ← Decode.orElse [] (Decode.list Decode.text) clauses
      conditional := ← Decode.orElse none Decode.anything conditional
      configuration := ← Decode.orElse none Decode.anything configuration
      parameters := ← Decode.orElse none Decode.anything parameters }
  | _ => none

/-- A field that is left out if it has no value. -/
def optionalField (key : String) : Option Document → List (String × Document)
  | none => []
  | some value => [(key, value)]

def toDocument (d : PolicyDescriptor) : Document :=
  Document.ofFields
    ([("policy", .text d.policy),
      ("events", .ofTexts d.events),
      (clausesKey, .ofTexts d.clauses)] ++
      optionalField Key.conditional d.conditional ++
      optionalField Key.configuration d.configuration ++
      optionalField Key.parameters d.parameters)

end PolicyDescriptor

inductive DispatchError where
  | missingPolicyName (index : Nat)
  | unknownPolicy (policy : String)
  | invalidConditional (policy : String) (cause : ConditionalError)
  deriving DecidableEq, Repr

namespace DispatchError

def status : DispatchError → Status
  | .missingPolicyName _ => .invalidInput
  | .unknownPolicy _ => .invalidInput
  | .invalidConditional _ _ => .invalidInput

def message : DispatchError → String
  | .missingPolicyName index =>
    "policy descriptor #" ++ toString index ++ " has no policy name"
  | .unknownPolicy policy => "policy [" ++ policy ++ "] is not registered"
  | .invalidConditional policy cause =>
    "conditional for policy [" ++ policy ++ "] is invalid: " ++ cause.message

end DispatchError

/-- A descriptor with its policy found and its conditional compiled. Names that
stand for no event are left out. -/
structure ResolvedDescriptor where
  policy : Policy
  events : List Event
  clauses : List String
  conditional : Conditional
  configuration : Document
  parameters : Option Document

namespace ResolvedDescriptor

def resolve (registry : Registry) (index : Nat) (d : PolicyDescriptor) :
    Except DispatchError ResolvedDescriptor :=
  if d.policy == "" then .error (.missingPolicyName index)
  else
    match registry.find? d.policy with
    | none => .error (.unknownPolicy d.policy)
    | some policy =>
      match Conditional.parse (d.conditional.getD .null) with
      | .error e => .error (.invalidConditional d.policy e)
      | .ok conditional =>
        .ok {
          policy
          events := d.events.filterMap Event.read?
          clauses := d.clauses
          conditional
          configuration := d.configuration.getD .null
          parameters := d.parameters }

/-- Whether a point ends with the clause as its last word. -/
def endsWithClause (point clause : String) : Bool := Text.endsWith point ("_" ++ clause)

/-- How often the policy is invoked for an event: once for each clause and each
listed event that fit, if the conditional accepts the record. -/
def occasions (d : ResolvedDescriptor) (event : Event) (point : String) (record : EventRecord) :
    Nat :=
  if d.conditional.accepts record then
    d.clauses.countP (endsWithClause point) * d.events.countP fun e => e == event
  else 0

/-- The record over the static parameters, with the conditional as configured. -/
def parametersFor (d : ResolvedDescriptor) (record : EventRecord) : Document :=
  let merged := Fields.overlay ((d.parameters.map Document.fields).getD []) record.fields
  .object (if d.conditional.raw.isNull then merged
    else merged.insert Key.conditional d.conditional.raw)

end ResolvedDescriptor

/-- What was made of an event. -/
structure DispatchReport where
  /-- The policies that succeeded, in the order of invocation. -/
  invoked : List String := []
  failures : List InvocationFailure := []
  deriving DecidableEq, Repr

namespace DispatchReport

def append (a b : DispatchReport) : DispatchReport :=
  ⟨a.invoked ++ b.invoked, a.failures ++ b.failures⟩

def hasFailures (r : DispatchReport) : Bool := !r.failures.isEmpty

/-- The report as one result, whose error names every failed policy. -/
def toExcept (r : DispatchReport) : Except PolicyError Unit := PolicyError.ofFailures r.failures

end DispatchReport

structure Dispatcher where
  descriptors : List ResolvedDescriptor := []

namespace Dispatcher

/-- Resolves descriptors, the first of which has this index. -/
def resolveFrom (registry : Registry) (index : Nat) :
    List PolicyDescriptor → Except DispatchError (List ResolvedDescriptor)
  | [] => .ok []
  | d :: r => do
    let first ← ResolvedDescriptor.resolve registry index d
    return first :: (← resolveFrom registry (index + 1) r)

/-- A dispatcher for the descriptors, or the error of the first that has one. -/
def ofDescriptors (registry : Registry) (descriptors : List PolicyDescriptor) :
    Except DispatchError Dispatcher :=
  (resolveFrom registry 0 descriptors).map fun resolved => ⟨resolved⟩

def size (d : Dispatcher) : Nat := d.descriptors.length

/-- Invokes a policy once and reports on it. -/
def invokeOnce (invoke : Invoker) (d : ResolvedDescriptor) (record : EventRecord) :
    Run Empty DispatchReport := do
  match ← (d.policy.run invoke (d.parametersFor record) d.configuration).attempt with
  | .ok _ => return ⟨[d.policy.name], []⟩
  | .error e => return ⟨[], [PolicyError.failureOf d.policy.name e]⟩

/-- Invokes a policy a number of times. -/
def invokeTimes (invoke : Invoker) (d : ResolvedDescriptor) (record : EventRecord) :
    Nat → Run Empty DispatchReport
  | 0 => return {}
  | n + 1 => do
    let first ← invokeOnce invoke d record
    return first.append (← invokeTimes invoke d record n)

/-- Goes through descriptors in order. -/
def dispatchTo (invoke : Invoker) (event : Event) (point : String) (record : EventRecord) :
    List ResolvedDescriptor → Run Empty DispatchReport
  | [] => return {}
  | d :: r => do
    let first ← invokeTimes invoke d record (d.occasions event point record)
    return first.append (← dispatchTo invoke event point record r)

/-- Invokes every policy that is configured for an event at a point. -/
def dispatch (d : Dispatcher) (invoke : Invoker) (event : Event) (point : String)
    (record : EventRecord) : Run Empty DispatchReport :=
  dispatchTo invoke event point record d.descriptors

end Dispatcher

end GridPolicy
