import GridPolicy.Document.Field
import GridPolicy.Event.Basic

/-!
# Event records

A record describes one event as an open set of fields: what the native call gave
it, stamped with the event and the interception point. Unlike parameters, a
record is read strictly: a field that is no text reads as the empty text.
-/
namespace GridPolicy

structure EventRecord where
  fields : Fields
  deriving Repr, Inhabited

namespace EventRecord

def toDocument (r : EventRecord) : Document := .object r.fields

def get? (r : EventRecord) (key : String) : Option Document := r.fields.get? key

/-- A field as text, empty if it is absent or no text. -/
def field (r : EventRecord) (key : String) : String :=
  ((r.get? key).bind Document.text?).getD ""

/-- A field of the metadata as text. -/
def metadataField (r : EventRecord) (key : String) : String :=
  (((r.get? Key.metadata).bind (·.get? key)).bind Document.text?).getD ""

def insert (r : EventRecord) (key : String) (value : Document) : EventRecord :=
  ⟨r.fields.insert key value⟩

/-- Gives a field a text if it reads as empty and the text is not. -/
def fillIfEmpty (r : EventRecord) (key value : String) : EventRecord :=
  if r.field key == "" && value != "" then r.insert key (.text value) else r

/-- Writes the event and the name of the interception point into the record. -/
def stamp (r : EventRecord) (event : Event) (point : String) : EventRecord :=
  (r.insert Key.event (.text event.name)).insert Key.enforcementPoint (.text point)

/-- The event that the record is stamped with, if it is stamped. -/
def event? (r : EventRecord) : Option Event := Event.read? (r.field Key.event)

end EventRecord

end GridPolicy
