import GridPolicy.Proofs.LogicalPath.Parts

/-!
# Paths of names

Slashes at the end of a path say nothing: its parts are the same without them. A canonical
path has one name or more, each with a single slash before it. Its parts make up the path
again, and a name is found again behind its collection if that is canonical or the root. A
collection that is not empty but ends in a slash is taken for another one, so a row of a
query with such a collection does not speak of itself.
-/
namespace GridPolicy

namespace Text

variable {α : Type} {p : α → Bool} {members : List α} {a : α}

theorem dropEndWhile_append_replicate (ha : p a = true) (members : List α) (k : Nat) :
    dropEndWhile p (members ++ List.replicate k a) = dropEndWhile p members := by
  induction k with
  | zero => rw [List.replicate_zero, List.append_nil]
  | succ k ih => rw [List.replicate_succ', ← List.append_assoc, dropEndWhile_concat, if_pos ha, ih]

theorem dropEndWhile_eq_self (h : ∀ a, members.getLast? = some a → p a = false) :
    dropEndWhile p members = members := by
  rcases List.eq_nil_or_concat' members with rfl | ⟨first, last, rfl⟩
  · rfl
  · have hlast : p last = false := h last List.getLast?_concat
    rw [dropEndWhile_concat, hlast]
    rfl

end Text

namespace LogicalPath

/-- A path with slashes behind it. -/
def slashed (path : String) (k : Nat) : String := path ++ String.ofList (List.replicate k '/')

theorem toList_slashed (path : String) (k : Nat) :
    (slashed path k).toList = path.toList ++ List.replicate k '/' := by
  rw [slashed, String.toList_append, String.toList_ofList]

theorem trimmed_append_slashes (path : List Char) (k : Nat) :
    trimmed (path ++ List.replicate k '/') = trimmed path :=
  Text.dropEndWhile_append_replicate rfl path k

theorem split_slashed (path : String) (k : Nat) : split (slashed path k) = split path := by
  have hchars : splitChars (slashed path k).toList = splitChars path.toList := by
    rw [splitChars, splitChars, toList_slashed, trimmed_append_slashes]
  rw [split, split, hchars]

theorem slashed_ne_empty {path : String} {k : Nat} (hpath : path ≠ "") : slashed path k ≠ "" := by
  rw [slashed, ne_eq, String.append_eq_empty_iff]
  exact fun h => hpath h.1

theorem slashed_ne_self {path : String} {k : Nat} (hk : 0 < k) : slashed path k ≠ path := by
  intro h
  have hlength := congrArg (fun s => s.toList.length) h
  simp only [toList_slashed, List.length_append, List.length_replicate] at hlength
  omega

variable {name : List Char}

theorem trimmed_append_name (hfilled : name ≠ []) (hname : '/' ∉ name) (lead : List Char) :
    trimmed (lead ++ name) = lead ++ name := by
  refine Text.dropEndWhile_eq_self fun c hc => ?_
  rw [List.getLast?_append_of_ne_nil _ hfilled] at hc
  have hne : c ≠ '/' := ne_of_mem_of_not_mem (List.mem_of_getLast? hc) hname
  simpa [isSlash] using hne

/-- What lies directly below the root is in the root. -/
theorem splitChars_append_name (hfilled : name ≠ []) (hname : '/' ∉ name)
    (collection : List Char) :
    splitChars (collection ++ '/' :: name) =
      (if collection = [] then ['/'] else collection, name) := by
  have hwhole : trimmed (collection ++ '/' :: name) = collection ++ '/' :: name := by
    have htrimmed := trimmed_append_name hfilled hname (collection ++ ['/'])
    simpa using htrimmed
  rw [splitChars, hwhole, Text.cutLast_append hname]
  cases collection with
  | nil => rfl
  | cons c r => rfl

/-! Canonical paths -/

/-- A name in a path: not empty, and without a slash. -/
structure Segment where
  name : String
  filled : name ≠ ""
  slashFree : '/' ∉ name.toList

theorem Segment.chars_ne_nil (s : Segment) : s.name.toList ≠ [] := by
  simpa using s.filled

def pathChars (segments : List Segment) : List Char :=
  segments.flatMap fun s => '/' :: s.name.toList

/-- The path with a slash before each of the names. -/
def pathOf (segments : List Segment) : String := String.ofList (pathChars segments)

/-- One name or more, each with a single slash before it and none behind. -/
def Canonical (path : String) : Prop := ∃ segments, segments ≠ [] ∧ path = pathOf segments

@[simp] theorem pathChars_concat (segments : List Segment) (s : Segment) :
    pathChars (segments ++ [s]) = pathChars segments ++ '/' :: s.name.toList := by
  simp [pathChars]

theorem pathChars_eq_nil {segments : List Segment} : pathChars segments = [] ↔ segments = [] := by
  cases segments <;> simp [pathChars]

theorem trimmed_pathChars (segments : List Segment) :
    trimmed (pathChars segments) = pathChars segments := by
  rcases List.eq_nil_or_concat' segments with rfl | ⟨first, s, rfl⟩
  · rfl
  · have htrimmed := trimmed_append_name s.chars_ne_nil s.slashFree (pathChars first ++ ['/'])
    simpa using htrimmed

/-- No name ends in a slash, nor does a path of names, unless it has none. -/
theorem getLast?_pathChars (segments : List Segment) :
    (pathChars segments).getLast? ≠ some '/' := by
  rcases List.eq_nil_or_concat' segments with rfl | ⟨first, s, rfl⟩
  · simp [pathChars]
  · intro hlast
    rw [pathChars_concat, List.getLast?_append_of_ne_nil _ (List.cons_ne_nil _ _),
      List.getLast?_cons_of_ne_nil s.chars_ne_nil] at hlast
    exact s.slashFree (List.mem_of_getLast? hlast)

theorem joinChars_splitChars_pathChars {segments : List Segment} (h : segments ≠ []) :
    joinChars (splitChars (pathChars segments)).1 (splitChars (pathChars segments)).2 =
      pathChars segments := by
  obtain ⟨first, s, rfl⟩ := (List.eq_nil_or_concat' segments).resolve_left h
  rw [pathChars_concat, splitChars_append_name s.chars_ne_nil s.slashFree]
  by_cases hfirst : pathChars first = []
  · simp [hfirst, joinChars]
  · simp [hfirst, joinChars, getLast?_pathChars]

/-- Of a canonical path the parts make up the path. -/
theorem join_split {path : String} (h : Canonical path) :
    join (split path).1 (split path).2 = path := by
  obtain ⟨segments, hne, rfl⟩ := h
  simp only [join, split, pathOf, String.toList_ofList, joinChars_splitChars_pathChars hne]

theorem splitChars_joinChars_iff (collection : List Char) (hfilled : name ≠ []) :
    splitChars (joinChars collection name) = (collection, name) ↔
      '/' ∉ name ∧
        (collection = ['/'] ∨ (collection ≠ [] ∧ collection.getLast? ≠ some '/')) := by
  by_cases hname : '/' ∈ name
  · have hother : splitChars (joinChars collection name) ≠ (collection, name) := by
      intro hsplit
      have hnot := slash_not_mem_name (joinChars collection name)
      rw [hsplit] at hnot
      exact hnot hname
    simp [hname, hother]
  · by_cases hlast : collection.getLast? = some '/'
    · -- the slash at the end of the collection separates it from the name
      obtain ⟨lead, rfl⟩ := List.getLast?_eq_some_iff.mp hlast
      have hjoined : joinChars (lead ++ ['/']) name = lead ++ '/' :: name := by
        simp [joinChars]
      rw [hjoined, splitChars_append_name hfilled hname]
      by_cases hlead : lead = [] <;> simp [hlead, hname]
    · have hjoined : joinChars collection name = collection ++ '/' :: name := by
        simp [joinChars, hlast]
      rw [hjoined, splitChars_append_name hfilled hname]
      have hroot : collection ≠ ['/'] := by
        rintro rfl
        exact hlast rfl
      by_cases hcollection : collection = [] <;> simp [hcollection, hname, hlast, hroot]

/-- A name that is not empty is found again behind its collection if it has no slash and the
collection is the root or does not end in one; no other name is. -/
theorem split_join_iff {collection name : String} (hfilled : name ≠ "") :
    split (join collection name) = (collection, name) ↔
      '/' ∉ name.toList ∧
        (collection = "/" ∨ (collection ≠ "" ∧ collection.toList.getLast? ≠ some '/')) := by
  have hchars := splitChars_joinChars_iff collection.toList
    (show name.toList ≠ [] by simpa using hfilled)
  have hroot : collection.toList = ['/'] ↔ collection = "/" := by
    rw [← String.toList_inj]
    rfl
  simp only [ne_eq, String.toList_eq_nil_iff, hroot] at hchars
  rw [← hchars, split, join, String.toList_ofList, Prod.ext_iff, Prod.ext_iff]
  simp [← String.toList_inj]

theorem join_ne_empty (collection name : String) : join collection name ≠ "" := by
  have hchars : joinChars collection.toList name.toList ≠ [] := by
    unfold joinChars
    split
    · next hlast =>
      have hne : collection.toList ≠ [] := by
        intro hnil
        simp [hnil] at hlast
      simp [hne]
    · simp
  simpa [join] using hchars

theorem Canonical.ends {path : String} (h : Canonical path) :
    path ≠ "" ∧ path.toList.getLast? ≠ some '/' := by
  obtain ⟨segments, hne, rfl⟩ := h
  rw [pathOf, String.toList_ofList]
  refine ⟨?_, getLast?_pathChars segments⟩
  simpa [pathChars_eq_nil] using hne

theorem split_join {collection name : String}
    (hcollection : collection = "/" ∨ Canonical collection) (hfilled : name ≠ "")
    (hname : '/' ∉ name.toList) :
    split (join collection name) = (collection, name) :=
  (split_join_iff hfilled).mpr ⟨hname, hcollection.imp_right Canonical.ends⟩

end LogicalPath

end GridPolicy
