import GridPolicy.Proofs.LogicalPath.Segments
import Mathlib.Data.List.Infix
import Mathlib.Data.List.Induction

/-!
# The walk upwards

Whatever the text, the walk upwards from a path comes to an end, and there is only one. Each
path that it visits is a proper beginning of the one before, so none is visited twice, and
it stops before the root and before nothing is left. From a canonical path it visits the
prefixes that end with a name, one for each name, whether or not slashes stand at the end.
-/
namespace GridPolicy.LogicalPath

variable {path parent : List Char} {paths : List String}

theorem parentChars?_eq_some (h : parentChars? path = some parent) :
    trimmed path ≠ [] ∧ (splitChars (trimmed path)).1 = parent ∧ parent ≠ [] := by
  unfold parentChars? at h
  split at h
  · cases h
  · next hfilled =>
    split at h
    · cases h
    · next hne =>
      cases h
      exact ⟨hfilled, rfl, hne⟩

theorem prefix_of_parentChars? (h : parentChars? path = some parent) : parent <+: path := by
  obtain ⟨-, rfl, hne⟩ := parentChars?_eq_some h
  refine List.IsPrefix.trans ?_ ((prefix_trimmed (trimmed path)).trans (prefix_trimmed path))
  rcases splitChars_cases (trimmed path) with ⟨-, hsplit⟩ | ⟨name, hwhole, -, hsplit⟩ |
    ⟨collection, name, -, hwhole, -, hsplit⟩
  · exact absurd (congrArg Prod.fst hsplit) hne
  · rw [hsplit, hwhole]
    exact ⟨name, rfl⟩
  · rw [hsplit, hwhole]
    exact List.prefix_append _ _

/-- The one path is a proper beginning of the other. -/
def Above (upper lower : String) : Prop := upper.toList <+: lower.toList ∧ upper ≠ lower

theorem Upward.prefix_of_mem (h : Upward path paths) :
    ∀ upper ∈ paths, upper.toList <+: path := by
  induction h with
  | above => simp
  | last => simp
  | up hbelow hparent hrest ih =>
    intro upper hmem
    rcases List.mem_cons.mp hmem with rfl | hmem
    · rw [String.toList_ofList]
    · exact (ih upper hmem).trans (prefix_of_parentChars? hparent)

theorem Upward.pairwise (h : Upward path paths) :
    paths.Pairwise fun lower upper => Above upper lower := by
  induction h with
  | above => exact .nil
  | last => exact List.pairwise_singleton _ _
  | @up path parent paths hbelow hparent hrest ih =>
    refine .cons (fun upper hmem => ?_) ih
    have hprefix : upper.toList <+: parent := hrest.prefix_of_mem upper hmem
    have hlength : upper.toList.length < path.length :=
      Nat.lt_of_le_of_lt hprefix.length_le (length_parent_lt hparent)
    constructor
    · rw [String.toList_ofList]
      exact hprefix.trans (prefix_of_parentChars? hparent)
    · rintro rfl
      rw [String.toList_ofList] at hlength
      exact Nat.lt_irrefl _ hlength

theorem Upward.below_root (h : Upward path paths) : "" ∉ paths ∧ "/" ∉ paths := by
  have hother {path : List Char} (hbelow : ¬ (path = [] ∨ path = ['/'])) :
      String.ofList path ≠ "" ∧ String.ofList path ≠ "/" := by
    rw [not_or] at hbelow
    simpa [← String.toList_inj] using hbelow
  induction h with
  | above => simp
  | last hbelow =>
    obtain ⟨hne, hroot⟩ := hother hbelow
    simp [hne.symm, hroot.symm]
  | up hbelow _ _ ih =>
    obtain ⟨hne, hroot⟩ := hother hbelow
    simp [hne.symm, hroot.symm, ih]

/-- There is one walk upwards from a path. -/
theorem Upward.unique {paths' : List String} (h : Upward path paths) (h' : Upward path paths') :
    paths' = paths := by
  induction h generalizing paths' with
  | above habove =>
    cases h' with
    | above => rfl
    | last hbelow => exact absurd habove hbelow
    | up hbelow => exact absurd habove hbelow
  | last hbelow hnone =>
    cases h' with
    | above habove => exact absurd habove hbelow
    | last => rfl
    | up _ hparent => rw [hnone] at hparent; cases hparent
  | up hbelow hparent _ ih =>
    cases h' with
    | above habove => exact absurd habove hbelow
    | last _ hnone => rw [hnone] at hparent; cases hparent
    | up _ hparent' hrest =>
      obtain rfl := Option.some.inj (hparent.symm.trans hparent')
      rw [ih hrest]

theorem parentChars?_pathChars (first : List Segment) (s : Segment) :
    parentChars? (pathChars (first ++ [s])) =
      some (if first = [] then ['/'] else pathChars first) := by
  have hfilled : pathChars (first ++ [s]) ≠ [] := by simp
  have hsplit : (splitChars (pathChars (first ++ [s]))).1 =
      if first = [] then ['/'] else pathChars first := by
    rw [pathChars_concat, splitChars_append_name s.chars_ne_nil s.slashFree]
    simp only [pathChars_eq_nil]
  rw [parentChars?, trimmed_pathChars, if_neg hfilled, hsplit]
  by_cases hfirst : first = []
  · simp [hfirst]
  · obtain ⟨c, r, hcons⟩ := List.exists_cons_of_ne_nil (mt pathChars_eq_nil.mp hfirst)
    simp [hfirst, hcons]

/-- The prefixes of a path of names that end with a name, the longest first. -/
def prefixes (segments : List Segment) : List String :=
  (segments.inits.tail.map pathOf).reverse

theorem prefixes_concat (first : List Segment) (s : Segment) :
    prefixes (first ++ [s]) = pathOf (first ++ [s]) :: prefixes first := by
  have hinits : (first ++ [s]).inits.tail = first.inits.tail ++ [first ++ [s]] := by
    rw [List.inits_append]
    cases first <;> simp
  rw [prefixes, hinits, List.map_append, List.reverse_append]
  rfl

theorem upward_pathChars (segments : List Segment) :
    Upward (pathChars segments) (prefixes segments) := by
  induction segments using List.reverseRecOn with
  | nil => exact .above (.inl rfl)
  | append_singleton first s ih =>
    have hbelow : ¬ (pathChars (first ++ [s]) = [] ∨ pathChars (first ++ [s]) = ['/']) := by
      have hlast := getLast?_pathChars (first ++ [s])
      rintro (hnil | hroot)
      · simp at hnil
      · exact hlast (hroot ▸ rfl)
    rw [prefixes_concat]
    refine .up hbelow (parentChars?_pathChars first s) ?_
    by_cases hfirst : first = []
    · rw [hfirst]
      exact .above (.inr rfl)
    · rwa [if_neg hfirst]

theorem ancestors_slashed (segments : List Segment) (k : Nat) :
    ancestors (slashed (pathOf segments) k) = prefixes segments := by
  have hwalk := upward_ancestors (slashed (pathOf segments) k)
  rw [toList_slashed, trimmed_append_slashes, pathOf, String.toList_ofList, trimmed_pathChars]
    at hwalk
  exact (upward_pathChars segments).unique hwalk

theorem length_prefixes (segments : List Segment) :
    (prefixes segments).length = segments.length := by
  simp [prefixes]

/-- What a walk upwards from a path visits. -/
structure Climbs (path : String) (paths : List String) : Prop where
  /-- There is such a walk, and no other. -/
  walk : ∀ visited, Upward (trimmed path.toList) visited ↔ visited = paths
  /-- What is visited later is a proper beginning of all before. -/
  above : paths.Pairwise fun lower upper => Above upper lower
  nodup : paths.Nodup
  filled : "" ∉ paths
  belowRoot : "/" ∉ paths

/-- From every path there is a walk upwards, and it goes on to the end. From a canonical path,
whatever slashes stand behind it, it visits the path and the collections above it, one for each
name. -/
theorem ancestors_climb :
    (∀ path, Climbs path (ancestors path)) ∧
    ∀ segments k, ancestors (slashed (pathOf segments) k) = prefixes segments ∧
      (prefixes segments).length = segments.length := by
  refine ⟨fun path => ?_, fun segments k => ⟨ancestors_slashed segments k, length_prefixes _⟩⟩
  have hwalk := upward_ancestors path
  have habove := hwalk.pairwise
  refine ⟨fun visited => ⟨hwalk.unique, ?_⟩, habove, habove.imp fun h => h.2.symm,
    hwalk.below_root.1, hwalk.below_root.2⟩
  rintro rfl
  exact hwalk

/-- Slashes before and between the names are visited as they stand. -/
example : ancestors "///a//b/" = ["///a//b", "///a/", "//"] := by decide

end GridPolicy.LogicalPath
