import GridPolicy.Document.Decode
import GridPolicy.Event.Arguments
import GridPolicy.Event.Record

/-!
# Sessions

A session lasts as long as the connection of one client. It remembers the record
that was built when an object was opened, by handle, so that the close can be
told apart later, and the operation that the last hierarchy resolution chose.
-/
namespace GridPolicy

/-- The client at the other end of a connection. -/
structure ClientInfo where
  userName : String := ""
  zone : String := ""
  userType : String := ""
  proxyUserName : String := ""
  proxyZone : String := ""
  clientAddress : String := ""
  authScheme : String := ""
  deriving DecidableEq, Repr

namespace ClientInfo

/-- A client that acts for itself. -/
def forUser (userName zone : String) : ClientInfo :=
  { userName, zone, proxyUserName := userName, proxyZone := zone }

/-- The description of the client that every record carries. -/
def toDocument (c : ClientInfo) : Document :=
  Document.ofFields
    [("user_name", .text c.userName),
     ("zone", .text c.zone),
     ("user_type", .text c.userType),
     ("proxy_user_name", .text c.proxyUserName),
     ("proxy_zone", .text c.proxyZone),
     ("client_address", .text c.clientAddress),
     ("auth_scheme", .text c.authScheme)]

def decode (d : Document) : Option ClientInfo := do
  match ← Decode.members [["user_name"], ["zone"], ["user_type"], ["proxy_user_name"],
      ["proxy_zone"], ["client_address"], ["auth_scheme"]] d with
  | [userName, zone, userType, proxyUserName, proxyZone, clientAddress, authScheme] =>
    let part := Decode.orElse "" Decode.text
    return {
      userName := ← part userName
      zone := ← part zone
      userType := ← part userType
      proxyUserName := ← part proxyUserName
      proxyZone := ← part proxyZone
      clientAddress := ← part clientAddress
      authScheme := ← part authScheme }
  | _ => none

end ClientInfo

structure Session where
  client : ClientInfo
  /-- The records of open objects, the last opened first, no handle twice. -/
  inFlight : List (Handle × EventRecord) := []
  hierarchyOperation : Option String := none

namespace Session

def start (client : ClientInfo) : Session := { client }

/-- The record of an open handle. -/
def peek? (s : Session) (handle : Handle) : Option EventRecord :=
  (s.inFlight.find? fun entry => entry.1 == handle).map (·.2)

/-- Forgets a handle. -/
def release (s : Session) (handle : Handle) : Session :=
  { s with inFlight := s.inFlight.filter fun entry => entry.1 != handle }

/-- Remembers the record of a handle in place of any record it had. -/
def track (s : Session) (handle : Handle) (record : EventRecord) : Session :=
  { s with inFlight := (handle, record) :: (s.release handle).inFlight }

def setHierarchyOperation (s : Session) (operation : String) : Session :=
  { s with hierarchyOperation := some operation }

@[simp] theorem peek?_start (client : ClientInfo) (handle : Handle) :
    (start client).peek? handle = none := rfl

@[simp] theorem peek?_release (s : Session) (handle other : Handle) :
    (s.release handle).peek? other = if other = handle then none else s.peek? other := by
  unfold peek? release
  induction s.inFlight with
  | nil => simp
  | cons entry rest ih =>
    by_cases h : entry.1 = handle
    · simp only [List.filter_cons, h, bne_self_eq_false, Bool.false_eq_true, ↓reduceIte]
      rw [ih]
      by_cases ho : other = handle
      · simp [ho]
      · have : ¬handle = other := fun e => ho e.symm
        simp [ho, h, this]
    · by_cases ho : entry.1 = other
      · subst ho
        simp [h]
      · have hb : (entry.1 == other) = false := by simpa using ho
        have hk : (entry.1 != handle) = true := by simpa using h
        simp only [List.filter_cons, hk, ↓reduceIte, List.find?_cons, hb]
        exact ih

@[simp] theorem peek?_track (s : Session) (handle other : Handle) (record : EventRecord) :
    (s.track handle record).peek? other =
      if other = handle then some record else s.peek? other := by
  by_cases h : other = handle
  · subst h
    simp [track, peek?]
  · have hne : ¬handle = other := fun e => h e.symm
    have := peek?_release s handle other
    simp only [h, ↓reduceIte] at this ⊢
    simpa [track, peek?, hne] using this

@[simp] theorem peek?_setHierarchyOperation (s : Session) (operation : String)
    (handle : Handle) : (s.setHierarchyOperation operation).peek? handle = s.peek? handle := rfl

end Session

end GridPolicy
