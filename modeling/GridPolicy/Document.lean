/-!
# Documents

Parameters, configurations, records and query rows travel as documents: trees of
texts, numbers, flags, arrays and objects. An object is a list of fields. The
operations here keep that list sorted by key with no key twice, so two objects
with the same fields are equal, but no lemma on look-up needs the order: a field
is found by its first occurrence.
-/
namespace GridPolicy

/-- A number is a whole number that fits 64 bits, with or without a sign, or a
double. The two are kept apart because `1` and `1.0` are written differently. -/
inductive Number where
  | whole (value : Int)
  | real (value : Float)
  deriving Repr

inductive Document where
  | null
  | flag (value : Bool)
  | number (value : Number)
  | text (value : String)
  | array (items : List Document)
  | object (fields : List (String × Document))
  deriving Repr, Inhabited

/-- The fields of an object. -/
abbrev Fields := List (String × Document)

namespace Fields

/-- The value of the first field with the given key. -/
def get? (key : String) : Fields → Option Document
  | [] => none
  | (k, v) :: r => if k = key then some v else get? key r

/-- Whether a field has the given key. -/
def has (key : String) (fields : Fields) : Bool := (fields.get? key).isSome

/-- Gives the key this value, in place of any value it had. A new key goes
before the first greater one. -/
def insert (key : String) (value : Document) : Fields → Fields
  | [] => [(key, value)]
  | (k, v) :: r =>
    if k = key then (key, value) :: r
    else if key < k then (key, value) :: (k, v) :: r
    else (k, v) :: insert key value r

@[simp] theorem get?_nil (key : String) : get? key [] = none := rfl

@[simp] theorem get?_insert_self (key : String) (value : Document) (fields : Fields) :
    (fields.insert key value).get? key = some value := by
  induction fields with
  | nil => simp [insert, get?]
  | cons field rest ih =>
    obtain ⟨k, v⟩ := field
    by_cases h : k = key
    · simp [insert, get?, h]
    · by_cases hlt : key < k
      · simp [insert, get?, h, hlt]
      · simp [insert, get?, h, hlt, ih]

theorem get?_insert_of_ne {key other : String} (hne : other ≠ key) (value : Document)
    (fields : Fields) : (fields.insert key value).get? other = fields.get? other := by
  induction fields with
  | nil => simp [insert, get?, Ne.symm hne]
  | cons field rest ih =>
    obtain ⟨k, v⟩ := field
    by_cases h : k = key
    · subst h
      simp [insert, get?, Ne.symm hne]
    · by_cases hlt : key < k
      · simp [insert, get?, h, hlt, Ne.symm hne]
      · by_cases ho : k = other
        · subst ho
          simp [insert, get?, hne, hlt]
        · simp [insert, get?, h, hlt, ho, ih]

theorem get?_insert (key other : String) (value : Document) (fields : Fields) :
    (fields.insert key value).get? other =
      if other = key then some value else fields.get? other := by
  by_cases h : other = key
  · subst h; simp
  · simp [h, get?_insert_of_ne h]

/-- Writes the fields of `top` over those of `base`, in order. -/
def overlay (base top : Fields) : Fields :=
  top.foldl (fun merged field => merged.insert field.1 field.2) base

/-- Adds the fields of `spare` whose keys `target` does not have. -/
def fillMissing (target spare : Fields) : Fields :=
  spare.foldl (fun merged field =>
    if merged.has field.1 then merged else merged.insert field.1 field.2) target

/-- The fields in the order given, a later value of a key in place of an earlier. -/
def ofList (fields : List (String × Document)) : Fields := overlay [] fields

end Fields

namespace Document

def emptyObject : Document := .object []

def isNull : Document → Bool
  | .null => true
  | _ => false

def text? : Document → Option String
  | .text s => some s
  | _ => none

def array? : Document → Option (List Document)
  | .array items => some items
  | _ => none

/-- The fields of an object; anything else has none. -/
def fields : Document → Fields
  | .object fields => fields
  | _ => []

/-- The value of a field. Only an object has fields. -/
def get? (d : Document) (key : String) : Option Document := d.fields.get? key

/-- An object with the given fields, whatever their order. -/
def ofFields (fields : List (String × Document)) : Document := .object (Fields.ofList fields)

def ofNat (n : Nat) : Document := .number (.whole n)

def ofInt (n : Int) : Document := .number (.whole n)

def ofTexts (texts : List String) : Document := .array (texts.map .text)

end Document

mutual

/-- The tree with every object put in order: fields sorted by key, and of fields
with one key only the last. -/
def Document.canonical : Document → Document
  | .array items => .array (canonicalItems items)
  | .object fields => .object (Fields.ofList (canonicalFields fields))
  | .null => .null
  | .flag b => .flag b
  | .number n => .number n
  | .text s => .text s

def canonicalItems : List Document → List Document
  | [] => []
  | d :: r => d.canonical :: canonicalItems r

def canonicalFields : List (String × Document) → List (String × Document)
  | [] => []
  | (k, d) :: r => (k, d.canonical) :: canonicalFields r

end

mutual

/-- The tree with `null` in place of every double that is not finite. These have
no written form, but other formats than the written one can bring them. -/
def Document.finite : Document → Document
  | .array items => .array (finiteItems items)
  | .object fields => .object (finiteFields fields)
  | .number (.real x) => if x.isFinite then .number (.real x) else .null
  | .number (.whole n) => .number (.whole n)
  | .null => .null
  | .flag b => .flag b
  | .text s => .text s

def finiteItems : List Document → List Document
  | [] => []
  | d :: r => d.finite :: finiteItems r

def finiteFields : List (String × Document) → List (String × Document)
  | [] => []
  | (k, d) :: r => (k, d.finite) :: finiteFields r

end

end GridPolicy
