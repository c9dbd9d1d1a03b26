import GridPolicy.Document.Reader
import GridPolicy.Document.Field
import GridPolicy.Policy.Error

/-!
# Policies

A policy is a named unit of behaviour that is invoked with two documents:
parameters and configuration. It reaches other policies only by name, through the
invoker that it is given, so that any policy can be replaced by another one of
the same name. Nothing keeps policies from invoking one another without end;
the depth of nesting is bounded, and a run that needs more ends without a result.
-/
namespace GridPolicy

/-- Invokes a policy by name. -/
abbrev Invoker := (name : String) → (parameters configuration : Document) → Run PolicyError Document

/-- What a policy receives. -/
structure Invocation where
  policy : String
  parameters : Document
  configuration : Document

/-- An error that a policy finds with what it received. -/
def Invocation.refuse {α : Type} (i : Invocation) (detail : String) : Run PolicyError α :=
  Run.fail (.invalidInput i.policy detail)

structure Policy where
  name : String
  /-- What the policy does, given a way to invoke others. -/
  body : Invoker → Invocation → Run PolicyError Document

namespace Policy

/-- Without a configuration a policy is given an empty one. -/
def effectiveConfiguration (configuration : Document) : Document :=
  if configuration.isNull then .emptyObject else configuration

def run (p : Policy) (invoke : Invoker) (parameters configuration : Document) :
    Run PolicyError Document :=
  p.body invoke ⟨p.name, parameters, effectiveConfiguration configuration⟩

/-- How a policy outside the library answers. -/
inductive Reply where
  | done (output : Document)
  | refused (error : PolicyError)
  | crashed (detail : String)

/-- A policy outside the library: its invocation is noted, and it invokes nothing. -/
def external (name : String) (reply : Document → Document → Reply) : Policy where
  name
  body _ invocation := do
    Run.note (.invocation name invocation.parameters invocation.configuration)
    match reply invocation.parameters invocation.configuration with
    | .done output => return output
    | .refused error => Run.fail error
    | .crashed detail => Run.crash detail

end Policy

/-- The policies that can be invoked, by name in ascending order, none twice. -/
structure Registry where
  entries : List Policy := []

namespace Registry

/-- The policies with one more in its place among the names. -/
def insertPolicy (p : Policy) : List Policy → List Policy
  | [] => [p]
  | q :: r =>
    if q.name = p.name then p :: r
    else if p.name < q.name then p :: q :: r
    else q :: insertPolicy p r

/-- Registers a policy under its own name, in place of any other of that name. -/
def register (registry : Registry) (p : Policy) : Registry :=
  ⟨insertPolicy p registry.entries⟩

/-- The policy of a name. -/
def find? (registry : Registry) (name : String) : Option Policy :=
  registry.entries.find? fun p => p.name == name

def contains (registry : Registry) (name : String) : Bool := (registry.find? name).isSome

def names (registry : Registry) : List String := registry.entries.map (·.name)

def size (registry : Registry) : Nat := registry.entries.length

def ofList (policies : List Policy) : Registry := policies.foldl register {}

theorem find?_register_self (registry : Registry) (p : Policy) :
    (registry.register p).find? p.name = some p := by
  unfold find? register
  dsimp only
  induction registry.entries with
  | nil => simp [insertPolicy]
  | cons q r ih =>
    by_cases h : q.name = p.name
    · simp [insertPolicy, h]
    · by_cases hlt : p.name < q.name
      · simp [insertPolicy, h, hlt]
      · simp [insertPolicy, h, hlt, ih]

theorem find?_register_of_ne (registry : Registry) (p : Policy) {name : String}
    (hne : name ≠ p.name) : (registry.register p).find? name = registry.find? name := by
  have hp : (p.name == name) = false := by simpa using hne.symm
  unfold find? register
  dsimp only
  induction registry.entries with
  | nil => simp [insertPolicy, hp]
  | cons q r ih =>
    by_cases h : q.name = p.name
    · simp [insertPolicy, h, hp]
    · by_cases hlt : p.name < q.name
      · simp [insertPolicy, h, hlt, hp]
      · simp only [insertPolicy, h, hlt, ↓reduceIte, List.find?_cons, ih]

/-- Invokes the policy of a name, with invocations nested at most `depth` deep. -/
def invoke (registry : Registry) : Nat → Invoker
  | 0, _, _, _ => Run.outOfDepth
  | depth + 1, name, parameters, configuration =>
    match registry.find? name with
    | none => Run.fail (.unknownPolicy name)
    | some policy => policy.run (registry.invoke depth) parameters configuration

/-- A document handed over in its written form; blank text is an empty object. -/
def readDocument (policy what text : String) : Except HostError Document :=
  if Text.trim text == "" then .ok .emptyObject
  else
    match Document.Reader.parse text with
    | some document => .ok document
    | none =>
      .error ⟨Status.invalidInput.code,
        what ++ " for [" ++ policy ++ "] is not valid JSON: malformed"⟩

/-- Invokes with documents in their written form and answers the output in its
written form; nothing to report is the empty text. -/
def invokeWritten (registry : Registry) (depth : Nat) (name parameters configuration : String) :
    Run HostError String := do
  let parameters ← Run.ofExcept (readDocument name "parameters" parameters)
  let configuration ← Run.ofExcept (readDocument name "configuration" configuration)
  let output ← (registry.invoke depth name parameters configuration).mapError PolicyError.toHost
  return if output.isNull then "" else output.written

end Registry

end GridPolicy
