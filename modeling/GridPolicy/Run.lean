import GridPolicy.Document
import GridPolicy.Grid

/-!
# Runs

A run is a computation that may call the grid. Every call goes into the log
before it is answered, and so does every invocation of a policy that lives
outside this library; the log is kept however the run ends. A run ends with a
value, with an error of its own kind, or in one of two ways that no policy
reports: a crash, which ends the worker it happens in, and running out of depth
where policies invoke one another without end.
-/
namespace GridPolicy

/-- An entry of the log. -/
inductive Entry where
  | call (call : Call)
  | invocation (policy : String) (parameters configuration : Document)

/-- How a run ends. -/
inductive Outcome (ε α : Type) where
  | done (value : α)
  | failed (error : ε)
  | crashed (detail : String)
  | tooDeep
  deriving DecidableEq, Repr

/-- Everything outside the library: the clock and the answer to each call, given
all entries before it. -/
structure Grid where
  now : Int
  answer : List Entry → (call : Call) → Except ServiceError call.Answer

def Run (ε α : Type) : Type := Grid → List Entry → Outcome ε α × List Entry

namespace Run

variable {ε ε' α β : Type}

def pure (value : α) : Run ε α := fun _ log => (.done value, log)

/-- Only a run that ends with a value is gone on with. -/
def bind (first : Run ε α) (next : α → Run ε β) : Run ε β := fun grid log =>
  match first grid log with
  | (.done value, log) => next value grid log
  | (.failed error, log) => (.failed error, log)
  | (.crashed detail, log) => (.crashed detail, log)
  | (.tooDeep, log) => (.tooDeep, log)

instance : Monad (Run ε) where
  pure := Run.pure
  bind := Run.bind

def fail (error : ε) : Run ε α := fun _ log => (.failed error, log)

def crash (detail : String) : Run ε α := fun _ log => (.crashed detail, log)

def outOfDepth : Run ε α := fun _ log => (.tooDeep, log)

def ofExcept : Except ε α → Run ε α
  | .ok value => pure value
  | .error error => fail error

/-- Writes an entry to the log. -/
def note (entry : Entry) : Run ε Unit := fun _ log => (.done (), log ++ [entry])

/-- The time in seconds; it stands still during a run. -/
def now : Run ε Int := fun grid log => (.done grid.now, log)

/-- Calls the grid. -/
def ask (call : Call) : Run ServiceError call.Answer := fun grid log =>
  match grid.answer log call with
  | .ok answer => (.done answer, log ++ [.call call])
  | .error error => (.failed error, log ++ [.call call])

/-- Turns the run's errors into errors of another kind. -/
def mapError (f : ε → ε') (run : Run ε α) : Run ε' α := fun grid log =>
  match run grid log with
  | (.done value, log) => (.done value, log)
  | (.failed error, log) => (.failed (f error), log)
  | (.crashed detail, log) => (.crashed detail, log)
  | (.tooDeep, log) => (.tooDeep, log)

/-- Takes an error as a value. -/
def attempt (run : Run ε α) : Run ε' (Except ε α) := fun grid log =>
  match run grid log with
  | (.done value, log) => (.done (.ok value), log)
  | (.failed error, log) => (.done (.error error), log)
  | (.crashed detail, log) => (.crashed detail, log)
  | (.tooDeep, log) => (.tooDeep, log)

/-- Takes a crash as a value. -/
def catchCrash (run : Run ε α) : Run ε (Except String α) := fun grid log =>
  match run grid log with
  | (.done value, log) => (.done (.ok value), log)
  | (.failed error, log) => (.failed error, log)
  | (.crashed detail, log) => (.done (.error detail), log)
  | (.tooDeep, log) => (.tooDeep, log)

/-- Runs for each member in order and keeps the results. -/
def forEach (f : α → Run ε β) : List α → Run ε (List β)
  | [] => Run.pure []
  | a :: r => Run.bind (f a) fun b => Run.bind (forEach f r) fun bs => Run.pure (b :: bs)

@[simp] theorem pure_apply (value : α) (grid : Grid) (log : List Entry) :
    (Pure.pure value : Run ε α) grid log = (.done value, log) := rfl

@[simp] theorem fail_apply (error : ε) (grid : Grid) (log : List Entry) :
    (fail error : Run ε α) grid log = (.failed error, log) := rfl

theorem bind_apply (first : Run ε α) (next : α → Run ε β) (grid : Grid) (log : List Entry) :
    (first >>= next) grid log = match first grid log with
      | (.done value, log) => next value grid log
      | (.failed error, log) => (.failed error, log)
      | (.crashed detail, log) => (.crashed detail, log)
      | (.tooDeep, log) => (.tooDeep, log) := rfl

end Run

/-- A query that finds nothing answers no rows, however the catalog says so. -/
def queryRows (text : String) (limit : Nat) (kind : QueryKind) : Run ServiceError (List Row) :=
  fun grid log =>
    match Run.ask (.query text limit kind) grid log with
    | (.failed (.noRowsFound _), log) => (.done [], log)
    | result => result

/-- What a logical path names. -/
inductive ObjectKind where
  | dataObject
  | collection
  | missing
  deriving DecidableEq, Repr

def ObjectKind.name : ObjectKind → String
  | .dataObject => "data_object"
  | .collection => "collection"
  | .missing => "missing"

/-- The condition that selects one object of a collection. -/
def objectQuery (collection name : String) : String :=
  "SELECT DATA_ID WHERE COLL_NAME = '" ++ collection ++ "' AND DATA_NAME = '" ++ name ++ "'"

def collectionQuery (path : String) : String :=
  "SELECT COLL_ID WHERE COLL_NAME = '" ++ path ++ "'"

/-- Asks the catalog for an object of the split path, and for a collection only
if there is none. The collection is asked for by the path as it was given. -/
def objectKind (path : String) : Run ServiceError ObjectKind := do
  let (collection, name) := LogicalPath.split path
  let objects ← if name == "" then pure [] else queryRows (objectQuery collection name) 1 .general
  if !objects.isEmpty then return .dataObject
  let collections ← queryRows (collectionQuery path) 1 .general
  if !collections.isEmpty then return .collection
  return .missing

end GridPolicy
