import GridPolicy.Policy.QueryProcessor
import GridPolicy.Proofs.LogicalPath.Segments
import GridPolicy.Proofs.Run.Answers

/-!
# Slashes behind a path

An object is asked for by the parts of its path, and slashes at the end of the path do not
change these. A collection is asked for by the path as it was given. So with slashes behind it
a path names the same object, but where there is no object it is looked for as a collection of
another name: the answers may differ, and the names that a query is filled with do.
-/
namespace GridPolicy

open LogicalPath

/-- The call that asks for the object of a path. -/
abbrev objectCall (path : String) : Call :=
  .query (objectQuery (split path).1 (split path).2) 1 .general

/-- The call that asks for the collection of a path. -/
abbrev collectionCall (path : String) : Call := .query (collectionQuery path) 1 .general

section

variable (grid : Grid) (log : List Entry) (path : String)

/-- What the catalog has as the object; without a name there is none to ask for. -/
def objectsFound : Except ServiceError (List Row) :=
  if (split path).2 = "" then .ok [] else rowsFound (grid.answer log (objectCall path))

/-- The log behind the question for the object. -/
def afterObjects : List Entry :=
  if (split path).2 = "" then log else log ++ [.call (objectCall path)]

/-- What the catalog has as the collection. -/
def collectionsFound : Except ServiceError (List Row) :=
  rowsFound (grid.answer (afterObjects log path) (collectionCall path))

/-- What a path names that is not the path of an object. -/
def collectionKind : Except ServiceError ObjectKind :=
  (collectionsFound grid log path).map fun collections =>
    if collections.isEmpty then .missing else .collection

end

variable {grid : Grid} {log : List Entry} {path : String} {k : Nat}

/-! What a path names -/

theorem objectsOf_apply (grid : Grid) (log : List Entry) (path : String) :
    objectsOf path grid log =
      (Outcome.ofExcept (objectsFound grid log path), afterObjects log path) := by
  unfold objectsOf objectsFound afterObjects
  by_cases hname : (split path).2 = ""
  · simp only [hname, beq_self_eq_true, ↓reduceIte]
    rfl
  · simp only [beq_iff_eq, hname, ↓reduceIte]
    exact Run.queryRows_apply grid log _ 1 .general

/-- With an object, or with no answer, nothing else is asked. -/
theorem objectKind_of_objects (h : objectsFound grid log path ≠ .ok []) :
    objectKind path grid log =
      (Outcome.ofExcept ((objectsFound grid log path).map fun _ => .dataObject),
        afterObjects log path) := by
  have hobjects := objectsOf_apply grid log path
  rw [objectKind_eq]
  cases hfound : objectsFound grid log path with
  | error e =>
    rw [hfound] at hobjects
    exact Run.bind_of_stop hobjects rfl
  | ok rows =>
    rw [hfound] at hobjects h
    rw [Run.bind_of_done hobjects]
    cases rows with
    | nil => exact absurd rfl h
    | cons row rows => rfl

/-- Without one the answer about the collection decides. -/
theorem objectKind_of_none (h : objectsFound grid log path = .ok []) :
    objectKind path grid log = (Outcome.ofExcept (collectionKind grid log path),
      afterObjects log path ++ [.call (collectionCall path)]) := by
  have hobjects := objectsOf_apply grid log path
  have hcollections : queryRows (collectionQuery path) 1 .general grid (afterObjects log path) =
      (Outcome.ofExcept (collectionsFound grid log path),
        afterObjects log path ++ [.call (collectionCall path)]) :=
    Run.queryRows_apply grid (afterObjects log path) (collectionQuery path) 1 .general
  rw [h] at hobjects
  rw [objectKind_eq, Run.bind_of_done hobjects, collectionKind]
  simp only [kindBehind, List.isEmpty_nil, Bool.not_true, Bool.false_eq_true, ↓reduceIte]
  cases hfound : collectionsFound grid log path with
  | error e =>
    rw [hfound] at hcollections
    exact Run.bind_of_stop hcollections rfl
  | ok rows =>
    rw [hfound] at hcollections
    rw [Run.bind_of_done hcollections]
    cases rows with
    | nil => rfl
    | cons row rows => rfl

/-! What its names are -/

namespace QueryProcessor

theorem namesFor_of_failed {e : ServiceError} {after : List Entry} (hpath : path ≠ "")
    (h : objectKind path grid log = (.failed e, after)) :
    namesFor path grid log = (.failed (.service e), after) := by
  simp only [namesFor, beq_iff_eq, hpath, ↓reduceIte]
  exact Run.bind_of_stop (Run.mapError_of_failed h) rfl

theorem namesFor_of_done {kind : ObjectKind} {after : List Entry} (hpath : path ≠ "")
    (h : objectKind path grid log = (.done kind, after)) :
    namesFor path grid log =
      (.done (if kind = .dataObject then split path else (path, "")), after) := by
  simp only [namesFor, beq_iff_eq, hpath, ↓reduceIte]
  rw [Run.bind_of_done (Run.mapError_apply_eq_done.mpr h)]
  cases kind with
  | dataObject => rfl
  | collection => rfl
  | missing => rfl

/-- A path without an object stands for a collection as it is. -/
theorem namesFor_of_none (hpath : path ≠ "") (h : objectsFound grid log path = .ok []) :
    namesFor path grid log =
      ((Outcome.ofExcept ((collectionsFound grid log path).map fun _ => (path, ""))).mapError
        .service, afterObjects log path ++ [.call (collectionCall path)]) := by
  have hkind := objectKind_of_none h
  unfold collectionKind at hkind
  cases hfound : collectionsFound grid log path with
  | error e =>
    rw [hfound] at hkind
    exact namesFor_of_failed hpath hkind
  | ok rows =>
    rw [hfound] at hkind
    rw [namesFor_of_done hpath hkind]
    cases rows with
    | nil => rfl
    | cons row rows => rfl

end QueryProcessor

/-! Slashes behind the path -/

theorem objectsFound_slashed (grid : Grid) (log : List Entry) (path : String) (k : Nat) :
    objectsFound grid log (slashed path k) = objectsFound grid log path := by
  unfold objectsFound objectCall
  rw [split_slashed]

theorem afterObjects_slashed (log : List Entry) (path : String) (k : Nat) :
    afterObjects log (slashed path k) = afterObjects log path := by
  simp only [afterObjects, objectCall, split_slashed]

/-- An object with its name is the same with slashes behind the path. -/
theorem objectKind_slashed (h : objectsFound grid log path ≠ .ok []) :
    objectKind (slashed path k) grid log = objectKind path grid log := by
  have hsame := objectsFound_slashed grid log path k
  have hslashed : objectsFound grid log (slashed path k) ≠ .ok [] := by rwa [hsame]
  rw [objectKind_of_objects h, objectKind_of_objects hslashed, hsame, afterObjects_slashed]

theorem QueryProcessor.namesFor_slashed (hpath : path ≠ "")
    (h : objectsFound grid log path ≠ .ok []) :
    namesFor (slashed path k) grid log = namesFor path grid log := by
  have hkind := objectKind_of_objects h
  have hslashed : objectKind (slashed path k) grid log = _ := (objectKind_slashed h).trans hkind
  have hfilled : slashed path k ≠ "" := slashed_ne_empty hpath
  cases hfound : objectsFound grid log path with
  | error e =>
    rw [hfound] at hkind hslashed
    rw [namesFor_of_failed hpath hkind, namesFor_of_failed hfilled hslashed]
  | ok rows =>
    rw [hfound] at hkind hslashed
    rw [namesFor_of_done hpath hkind, namesFor_of_done hfilled hslashed, if_pos rfl, if_pos rfl,
      split_slashed]

/-- Of a path without an object the slashes stay in the names, so only errors can be the same. -/
theorem QueryProcessor.namesFor_slashed_eq_iff (hpath : path ≠ "") (hk : 0 < k)
    (h : objectsFound grid log path = .ok []) :
    (namesFor (slashed path k) grid log).1 = (namesFor path grid log).1 ↔
      ∃ e, collectionsFound grid log (slashed path k) = .error e ∧
        collectionsFound grid log path = .error e := by
  have hslashed : objectsFound grid log (slashed path k) = .ok [] :=
    (objectsFound_slashed grid log path k).trans h
  have hother : slashed path k ≠ path := slashed_ne_self hk
  rw [namesFor_of_none hpath h, namesFor_of_none (slashed_ne_empty hpath) hslashed]
  cases collectionsFound grid log (slashed path k) with
  | error e =>
    cases collectionsFound grid log path with
    | error e' => simp [Except.map, Outcome.ofExcept, Outcome.mapError, eq_comm]
    | ok rows => simp [Except.map, Outcome.ofExcept, Outcome.mapError]
  | ok rows =>
    cases collectionsFound grid log path with
    | error e => simp [Except.map, Outcome.ofExcept, Outcome.mapError]
    | ok rows' => simp [Except.map, Outcome.ofExcept, Outcome.mapError, hother]

/-- What slashes behind a path do and do not change. -/
structure SlashesTold (grid : Grid) (log : List Entry) (path : String) (k : Nat) : Prop where
  /-- The same object is asked for, before anything else. -/
  asked : objectsOf (slashed path k) = objectsOf path
  /-- Where the catalog has it, or refuses to say, the runs are the same. -/
  object : objectsFound grid log path ≠ .ok [] →
    objectKind (slashed path k) grid log = objectKind path grid log ∧
    (path ≠ "" → QueryProcessor.namesFor (slashed path k) grid log =
      QueryProcessor.namesFor path grid log)
  /-- Where it has none, the answers about two collections decide: of a name with the slashes
  and of one without. -/
  collection : objectsFound grid log path = .ok [] →
    ((objectKind (slashed path k) grid log).1 = (objectKind path grid log).1 ↔
      collectionKind grid log (slashed path k) = collectionKind grid log path)
  /-- Then the names are the same only if both questions are refused, and alike. -/
  names : objectsFound grid log path = .ok [] → path ≠ "" → 0 < k →
    ((QueryProcessor.namesFor (slashed path k) grid log).1 =
        (QueryProcessor.namesFor path grid log).1 ↔
      ∃ e, collectionsFound grid log (slashed path k) = .error e ∧
        collectionsFound grid log path = .error e)
  /-- Without a collection of the name with the slashes nothing is found, and the slashes stay in
  the name that a query is filled with. -/
  unlisted : objectsFound grid log path = .ok [] → path ≠ "" →
    collectionsFound grid log (slashed path k) = .ok [] →
      (objectKind (slashed path k) grid log).1 = .done .missing ∧
      (QueryProcessor.namesFor (slashed path k) grid log).1 = .done (slashed path k, "")

/-- With slashes behind it a path names the same object, but not the same collection. -/
theorem slashes_told (grid : Grid) (log : List Entry) (path : String) (k : Nat) :
    SlashesTold grid log path k where
  asked := by simp only [objectsOf, split_slashed]
  object h := ⟨objectKind_slashed h, fun hpath => QueryProcessor.namesFor_slashed hpath h⟩
  collection h := by
    have hslashed : objectsFound grid log (slashed path k) = .ok [] :=
      (objectsFound_slashed grid log path k).trans h
    rw [objectKind_of_none h, objectKind_of_none hslashed, Outcome.ofExcept_inj]
  names h hpath hk := QueryProcessor.namesFor_slashed_eq_iff hpath hk h
  unlisted h hpath hnone := by
    have hslashed : objectsFound grid log (slashed path k) = .ok [] :=
      (objectsFound_slashed grid log path k).trans h
    rw [objectKind_of_none hslashed,
      QueryProcessor.namesFor_of_none (slashed_ne_empty hpath) hslashed, collectionKind, hnone]
    exact ⟨rfl, rfl⟩

/-- A catalog with one collection and one object in it. -/
def homeCatalog : Grid where
  now := 0
  answer
    | _, .query text _ _ =>
      if text = collectionQuery "/zone/home" then .ok [["1"]]
      else if text = objectQuery "/zone/home" "f" then .ok [["2"]]
      else .ok []
    | _, _ => .error (.noRowsFound "")

/-- The object is found with slashes behind its path, the collection is not. -/
theorem slashes_told_home :
    objectKind "/zone/home/f/" homeCatalog [] = objectKind "/zone/home/f" homeCatalog [] ∧
    (objectKind "/zone/home" homeCatalog []).1 = .done .collection ∧
    (objectKind "/zone/home/" homeCatalog []).1 = .done .missing ∧
    (QueryProcessor.namesFor "/zone/home/" homeCatalog []).1 = .done ("/zone/home/", "") ∧
    (QueryProcessor.namesFor "/zone/home/" homeCatalog []).1 ≠
      (QueryProcessor.namesFor "/zone/home" homeCatalog []).1 := by
  have hobject := slashes_told homeCatalog [] "/zone/home/f" 1
  have hcollection := slashes_told homeCatalog [] "/zone/home" 1
  have hnone : objectsFound homeCatalog [] "/zone/home" = .ok [] := by decide
  have hlisted : collectionsFound homeCatalog [] "/zone/home" = .ok [["1"]] := by decide
  have hunlisted : collectionsFound homeCatalog [] "/zone/home/" = .ok [] := by decide
  obtain ⟨hmissing, hnames⟩ := hcollection.unlisted hnone (by decide) hunlisted
  refine ⟨(hobject.object (by decide)).1, by decide, hmissing, hnames, ?_⟩
  intro hsame
  obtain ⟨e, -, hrefused⟩ := (hcollection.names hnone (by decide) (by decide)).mp hsame
  rw [hlisted] at hrefused
  cases hrefused

end GridPolicy
