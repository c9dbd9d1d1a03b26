import GridPolicy.Document.Field
import GridPolicy.Event.Record
import GridPolicy.Grid
import GridPolicy.Pattern

/-!
# Conditionals

A conditional decides whether a policy applies to an event. It is an object whose
fields constrain the record of the event: the entity type is compared as it is,
and every other constraint is a pattern for the whole of a field. An empty text
constrains nothing. All of a conditional is compiled before any record is seen,
so a mistake in it shows when it is configured and not when an event comes.
-/
namespace GridPolicy

inductive ConditionalError where
  /-- The conditional is no object, or one of its fields is of the wrong kind. -/
  | malformed (detail : String)
  /-- A field holds a text that is no pattern. -/
  | invalidPattern (field pattern : String)
  deriving DecidableEq, Repr

namespace ConditionalError

def status : ConditionalError → Status
  | .malformed _ => .invalidInput
  | .invalidPattern _ _ => .invalidInput

def message : ConditionalError → String
  | .malformed detail => "malformed conditional: " ++ detail
  | .invalidPattern field pattern =>
    "invalid pattern [" ++ pattern ++ "] for conditional field [" ++ field ++ "]: not a pattern"

end ConditionalError

/-- A constraint on a text; without one every text is accepted. -/
abbrev Constraint := Option Pattern

def Constraint.accepts (c : Constraint) (text : String) : Bool :=
  match c with
  | none => true
  | some pattern => pattern.occursIn text

/-- The constraints on a triple of metadata. -/
structure MetadataPattern where
  name : Constraint := none
  value : Constraint := none
  units : Constraint := none

namespace MetadataPattern

/-- Whether nothing is constrained. -/
def isEmpty (m : MetadataPattern) : Bool :=
  m.name.isNone && m.value.isNone && m.units.isNone

def accepts (m : MetadataPattern) (name value units : String) : Bool :=
  m.name.accepts name && m.value.accepts value && m.units.accepts units

/-- Whether a stored triple is one that is looked for. Without a constraint there
is nothing to look for. -/
def matchesAvu (m : MetadataPattern) (avu : Avu) : Bool :=
  !m.isEmpty && m.accepts avu.name avu.value avu.units

end MetadataPattern

structure Conditional where
  /-- The document as it was configured. -/
  raw : Document := .null
  entityType : Option String := none
  metadata : MetadataPattern := {}
  /-- The constrained fields of the record. -/
  fields : List (String × Pattern) := []

namespace Conditional

/-- The fields of a record, apart from its metadata, that a pattern may constrain. -/
def patternFields : List String :=
  [Key.logicalPath, Key.sourceResource, Key.destinationResource, Key.userName]

/-- A field that has to be a text if it is there; the empty text counts as absent. -/
def filledText (d : Document) (field : String) : Except ConditionalError (Option String) :=
  match d.get? field with
  | none => .ok none
  | some .null => .ok none
  | some (.text s) => .ok (if s == "" then none else some s)
  | some other =>
    .error (.malformed ("field [" ++ field ++ "] must be a string, got " ++ other.written))

/-- The constraint that a field holds. -/
def constraint (d : Document) (field : String) : Except ConditionalError Constraint := do
  match ← filledText d field with
  | none => return none
  | some text =>
    match Pattern.anchored? text with
    | some pattern => return some pattern
    | none => throw (.invalidPattern field text)

/-- The part of a conditional that constrains metadata; without one it is `null`,
which has no fields. -/
def metadataPart (d : Document) : Except ConditionalError Document :=
  match d.get? Key.metadata with
  | none => .ok .null
  | some .null => .ok .null
  | some (.object fields) => .ok (.object fields)
  | some other => .error (.malformed ("metadata must be an object, got " ++ other.written))

/-- The constrained ones of the given fields, in order. -/
def constrainedFields (d : Document) :
    List String → Except ConditionalError (List (String × Pattern))
  | [] => .ok []
  | field :: r => do
    match ← constraint d field with
    | none => constrainedFields d r
    | some pattern => return (field, pattern) :: (← constrainedFields d r)

/-- Compiles a conditional. `null` constrains nothing. The entity type may stand
in the metadata too; both places are checked, and the outer one wins. -/
def parse (d : Document) : Except ConditionalError Conditional :=
  match d with
  | .null => .ok {}
  | .object _ => do
    let part ← metadataPart d
    let outer ← filledText d Key.entityType
    let inner ← filledText part Key.entityType
    let name ← constraint part "attribute"
    let value ← constraint part "value"
    let units ← constraint part "units"
    let fields ← constrainedFields d patternFields
    return { raw := d, entityType := outer.or inner, metadata := { name, value, units }, fields }
  | other => .error (.malformed ("expected an object, got " ++ other.written))

/-- Whether every record is accepted. -/
def isUnconstrained (c : Conditional) : Bool :=
  c.entityType.isNone && c.metadata.isEmpty && c.fields.isEmpty

/-- The entity type that a record speaks of, empty if it does not. -/
def recordEntityType (record : EventRecord) : String :=
  let outer := record.field Key.entityType
  if outer == "" then record.metadataField Key.entityType else outer

/-- An entity type is held against a record only if the record speaks of one. -/
def acceptsEntity (c : Conditional) (record : EventRecord) : Bool :=
  match c.entityType with
  | none => true
  | some expected =>
    let actual := recordEntityType record
    actual == "" || actual == expected

/-- Whether the patterns match their fields of a record. -/
def acceptsFields (c : Conditional) (record : EventRecord) : Bool :=
  c.metadata.accepts (record.metadataField "attribute") (record.metadataField "value")
      (record.metadataField "units") &&
    c.fields.all fun constrained => constrained.2.occursIn (record.field constrained.1)

/-- Whether a record is accepted. Without a constraint its fields are not looked at. -/
def accepts (c : Conditional) (record : EventRecord) : Bool :=
  c.acceptsEntity record && (c.isUnconstrained || c.acceptsFields record)

/-- Nothing would be found by looking at the fields. -/
theorem acceptsFields_of_isUnconstrained {c : Conditional} (h : c.isUnconstrained = true)
    (record : EventRecord) : c.acceptsFields record = true := by
  obtain ⟨raw, entityType, ⟨name, value, units⟩, fields⟩ := c
  simp only [isUnconstrained, MetadataPattern.isEmpty, Bool.and_eq_true, Option.isNone_iff_eq_none,
    List.isEmpty_iff] at h
  obtain ⟨⟨rfl, ⟨rfl, rfl⟩, rfl⟩, rfl⟩ := h
  rfl

/-- To look at them all the same would answer alike. -/
theorem accepts_eq (c : Conditional) (record : EventRecord) :
    c.accepts record = (c.acceptsEntity record && c.acceptsFields record) := by
  unfold accepts
  cases h : c.isUnconstrained with
  | false => rw [Bool.false_or]
  | true => rw [acceptsFields_of_isUnconstrained h, Bool.true_or]

end Conditional

end GridPolicy
