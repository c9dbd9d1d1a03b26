import GridPolicy.Document
import GridPolicy.Run
import GridPolicy.Text

/-!
# Query templates

A query may hold tokens: named ones, filled from the circumstances of the
invocation, and positional ones, filled from a row. The named tokens are found
first and then filled from left to right, so what is put in for one token is
never searched for another. Positional tokens are exchanged one position after
the other.

A parameter may hold a nested query, marked by a token of its own, whose answer
is the parameter's value.
-/
namespace GridPolicy

/-- The named tokens. -/
inductive Token where
  | currentTime
  | lifetime
  | userName
  | collectionName
  | dataName
  | sourceResource
  | destinationResource
  | sourceLeaves
  | destinationLeaves
  deriving DecidableEq, Repr

namespace Token

/-- What a token begins with. -/
def opening : String := "IRODS_TOKEN_"

/-- What a token ends with. -/
def closing : String := "_END_TOKEN"

/-- The name between the two. -/
def name : Token → String
  | .currentTime => "CURRENT_TIME"
  | .lifetime => "LIFETIME"
  | .userName => "USER_NAME"
  | .collectionName => "COLLECTION_NAME"
  | .dataName => "DATA_NAME"
  | .sourceResource => "SOURCE_RESOURCE"
  | .destinationResource => "DESTINATION_RESOURCE"
  | .sourceLeaves => "SOURCE_RESOURCE_LEAF_BUNDLE"
  | .destinationLeaves => "DESTINATION_RESOURCE_LEAF_BUNDLE"

def text (t : Token) : String := opening ++ t.name ++ closing

def all : List Token :=
  [.currentTime, .lifetime, .userName, .collectionName, .dataName, .sourceResource,
    .destinationResource, .sourceLeaves, .destinationLeaves]

/-- The token with exactly this name. -/
def ofName? (name : String) : Option Token := all.find? fun t => t.name == name

/-- The token with exactly this text. -/
def ofText? (text : String) : Option Token := all.find? fun t => t.text == text

theorem ofName?_name (t : Token) : ofName? t.name = some t := by cases t <;> decide

end Token

inductive SubstitutionError where
  /-- The text of a token that is none of the named ones, and the query. -/
  | unknownToken (token query : String)
  | unterminated (query : String)
  | leavesFailed (resource : String) (cause : ServiceError)
  | noLeaves (resource : String)
  deriving DecidableEq, Repr

namespace SubstitutionError

def status : SubstitutionError → Status
  | .unknownToken _ _ => .invalidInput
  | .unterminated _ => .invalidInput
  | .leavesFailed _ _ => .invalidResource
  | .noLeaves _ => .invalidResource

def message : SubstitutionError → String
  | .unknownToken token query => "unknown token [" ++ token ++ "] in query [" ++ query ++ "]"
  | .unterminated query => "missing _END_TOKEN in query [" ++ query ++ "]"
  | .leavesFailed resource cause =>
    "failed to compute leaf bundle for [" ++ resource ++ "]: " ++ cause.message
  | .noLeaves resource =>
    "failed to compute leaf bundle for [" ++ resource ++ "]: resource has no leaves"

end SubstitutionError

/-- What the named tokens stand for. -/
structure Circumstances where
  currentTime : Int := 0
  lifetime : Int := 0
  userName : String := ""
  collectionName : String := ""
  dataName : String := ""
  sourceResource : String := ""
  destinationResource : String := ""
  deriving DecidableEq, Repr

/-- The ids of the leaves below a resource, in quotes and with commas between. -/
def leafBundle (resource : String) : Run SubstitutionError String := do
  let ids ← (Run.ask (.leafBundle resource)).mapError (.leavesFailed resource ·)
  if ids.isEmpty then Run.fail (.noLeaves resource)
  return Text.join ", " (ids.map fun id => "'" ++ toString id ++ "'")

/-- What a token stands for. Only the leaves have to be asked for. -/
def Circumstances.value (c : Circumstances) : Token → Run SubstitutionError String
  | .currentTime => return toString c.currentTime
  | .lifetime => return toString c.lifetime
  | .userName => return c.userName
  | .collectionName => return c.collectionName
  | .dataName => return c.dataName
  | .sourceResource => return c.sourceResource
  | .destinationResource => return c.destinationResource
  | .sourceLeaves => leafBundle c.sourceResource
  | .destinationLeaves => leafBundle c.destinationResource

namespace Template

/-- A part of a template: text that stays, a token, or a mistake. -/
inductive Part where
  | literal (text : List Char)
  | token (token : Token)
  /-- A token of unknown name. -/
  | unknown (name : List Char)
  /-- The beginning of a token that has no end. -/
  | unterminated
  deriving DecidableEq, Repr

/-- The part for a name between the opening and the closing of a token. -/
def namedPart (name : List Char) : Part :=
  match Token.ofName? (String.ofList name) with
  | some token => .token token
  | none => .unknown name

/-- Takes a template apart. A token ends at the first closing after its opening. -/
def parts (cs : List Char) : List Part :=
  match _cut : Text.cutAt Token.opening.toList cs with
  | none => [.literal cs]
  | some (before, body) =>
    match _end : Text.cutAt Token.closing.toList body with
    | none => [.literal before, .unterminated]
    | some (name, rest) => .literal before :: namedPart name :: parts rest
termination_by cs.length
decreasing_by
  have hcs := Text.eq_of_cutAt _cut
  have hbody := Text.eq_of_cutAt _end
  have hopen : 0 < Token.opening.toList.length := by decide
  subst hcs hbody
  simp only [List.length_append]
  omega

/-- Fills the parts in order and stops at the first mistake. -/
def fill (query : String) (c : Circumstances) : List Part → Run SubstitutionError String
  | [] => return ""
  | .literal text :: r => do return String.ofList text ++ (← fill query c r)
  | .token token :: r => do
    let value ← c.value token
    return value ++ (← fill query c r)
  | .unknown name :: _ =>
    Run.fail (.unknownToken (Token.opening ++ String.ofList name ++ Token.closing) query)
  | .unterminated :: _ => Run.fail (.unterminated query)

/-- Exchanges the named tokens of a query for what they stand for. -/
def fillNamed (query : String) (c : Circumstances) : Run SubstitutionError String :=
  fill query c (parts query.toList)

/-- The token for a position in a row. -/
def positionToken (position : Nat) : String := "\x7b" ++ toString position ++ "\x7d"

/-- Exchanges the tokens for the positions from `position` on. -/
def fillFrom (position : Nat) (query : String) : Row → String
  | [] => query
  | value :: r =>
    fillFrom (position + 1) (Text.replaceAll (positionToken position) value query) r

/-- Exchanges the positional tokens of a query for the values of a row. -/
def fillRow (query : String) (row : Row) : String := fillFrom 0 query row

/-- The token that marks a nested query. -/
def nestedToken : String := "IRODS_TOKEN_QUERY_SUBSTITUTION_END_TOKEN"

/-- Whether a value holds a nested query. -/
def isNested : Document → Bool
  | .text s => Text.contains s nestedToken
  | _ => false

/-- The nested query in a text: it begins with the second character after the
token and ends before the first closing parenthesis from there. -/
def nestedQuery? (text : String) : Option String := do
  let (_, after) ← Text.cutAt nestedToken.toList text.toList
  let (query, _) ← Text.cutAt [')'] (← after.tail?)
  return String.ofList query

end Template

end GridPolicy
