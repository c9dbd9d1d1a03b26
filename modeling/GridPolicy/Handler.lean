import GridPolicy.Dispatch
import GridPolicy.Event.Classifier

/-!
# Handling a call

The host hands over every call at an interception point together with the session
that it belongs to. The call is classified, and each event that it means is
dispatched, in order. A call that cannot be classified invokes nothing.
-/
namespace GridPolicy

/-- A call that was classified, and what came of its events. -/
structure HandlerOutcome where
  events : List ClassifiedEvent
  report : DispatchReport

/-- The error of a call that cannot be classified, as the host sees it. -/
def ClassifierError.toHost (e : ClassifierError) : HostError :=
  ⟨e.status.code, "classification failed: " ++ e.message⟩

namespace Handler

/-- Dispatches events in order and puts the reports together. -/
def dispatchAll (dispatcher : Dispatcher) (invoke : Invoker) (point : String) :
    List ClassifiedEvent → Run Empty DispatchReport
  | [] => return {}
  | item :: r => do
    let first ← dispatcher.dispatch invoke item.event point item.record
    return first.append (← dispatchAll dispatcher invoke point r)

/-- Handles a call, and answers the session as it is afterwards. -/
def handle (dispatcher : Dispatcher) (invoke : Invoker) (s : Session) (point : String)
    (arguments : CallArguments) : Run Empty (Session × Except ClassifierError HandlerOutcome) := do
  match classify s point arguments with
  | (after, .error e) => return (after, .error e)
  | (after, .ok events) =>
    let report ← dispatchAll dispatcher invoke point events
    return (after, .ok ⟨events, report⟩)

end Handler

end GridPolicy
