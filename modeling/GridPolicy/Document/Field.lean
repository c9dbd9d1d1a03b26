import GridPolicy.Document.Printer
import GridPolicy.Text.Integer

/-!
# Reading fields

Documents come from many writers, so a field is read leniently: a number may be
given as text, a flag as the word `true`. Whatever does not fit the wanted kind
counts as absent.
-/
namespace GridPolicy

/-! The keys that more than one part of the library reads or writes. -/

namespace Key

def event : String := "event"
def enforcementPoint : String := "policy_enforcement_point"
def logicalPath : String := "logical_path"
def userName : String := "user_name"
def sourceResource : String := "source_resource"
def destinationResource : String := "destination_resource"
def metadata : String := "metadata"
def conditional : String := "conditional"
def condInput : String := "cond_input"
def comm : String := "comm"
def queryResults : String := "query_results"
def parameters : String := "parameters"
def configuration : String := "configuration"
def policiesToInvoke : String := "policies_to_invoke"
def entityType : String := "entity_type"

end Key

namespace Document

/-- A scalar as text; `null`, arrays and objects have none. -/
def scalarText? : Document → Option String
  | .text s => some s
  | .number n => some n.written
  | .flag true => some "true"
  | .flag false => some "false"
  | _ => none

/-- A field as text. -/
def textField? (d : Document) (key : String) : Option String :=
  (d.get? key).bind scalarText?

/-- A field as text, if the text is not empty. -/
def filledField? (d : Document) (key : String) : Option String :=
  (d.textField? key).filter fun s => s != ""

/-- A field as an integer of 64 bits with a sign, given as a number or in text
with blanks around it. A double is no integer, whatever its value. -/
def integerField? (d : Document) (key : String) : Option Int :=
  match d.get? key with
  | some (.number (.whole n)) => if Text.fitsInt64 n then some n else none
  | some (.text s) => Text.int64? (Text.trim s)
  | _ => none

/-- A field as a flag: `true`, or that word in any case. -/
def flagField (d : Document) (key : String) : Bool :=
  match d.get? key with
  | some (.flag b) => b
  | some (.text s) => Text.sameLetters s "true"
  | _ => false

/-- The fields of a field that is an object, and none otherwise. -/
def objectField (d : Document) (key : String) : Fields :=
  ((d.get? key).map fields).getD []

/-- Whether the caller asked for its errors to be logged. -/
def logsErrors (parameters configuration : Document) : Bool :=
  parameters.flagField "log_errors" || configuration.flagField "log_errors"

end Document

end GridPolicy
