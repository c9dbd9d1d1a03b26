import GridPolicy.Document.Field

/-!
# Chained policies

Policies that invoke others find them listed in a document. A list of one may be
given as its only entry, and an entry that needs no more than a name as that name.
-/
namespace GridPolicy

/-- The key of a single entry, and of the name in an entry. -/
def singleEntryKey : String := "policy_to_invoke"

/-- The entries of the listed policies. -/
def chainEntries (d : Document) : List Document :=
  match d.get? Key.policiesToInvoke with
  | some (.array items) => items
  | some (.object fields) => [.object fields]
  | _ =>
    match d.get? singleEntryKey with
    | some (.text name) => [.object [(singleEntryKey, .text name)]]
    | some (.object fields) => [.object fields]
    | _ => []

/-- The name of the policy in an entry; it may stand under two keys. -/
def entryName? (entry : Document) : Option String :=
  (entry.filledField? "policy").or (entry.filledField? singleEntryKey)

end GridPolicy
