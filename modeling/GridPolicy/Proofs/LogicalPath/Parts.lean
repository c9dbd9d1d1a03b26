import GridPolicy.LogicalPath
import Mathlib.Data.List.Basic

/-!
# The parts of a logical path

The name in a collection has no slash. A path that begins with a slash lies in a collection
that does so too, unless it has no parts at all, and what is not in a path is in neither of
its parts. A collection is shorter than what lies in it, so the walk upwards goes on to the
end, however long the path is.
-/
namespace GridPolicy

namespace Text

variable {separator : Char} {cs before after : List Char}

theorem cutLast_eq_none : cutLast separator cs = none ↔ separator ∉ cs := by
  induction cs with
  | nil => simp [cutLast]
  | cons c r ih =>
    cases hr : cutLast separator r with
    | some parts =>
      have hmem : separator ∈ r := by
        by_contra hnot
        rw [ih.mpr hnot] at hr
        cases hr
      simp [cutLast, hr, hmem]
    | none =>
      have hnot := ih.mp hr
      by_cases hc : c = separator
      · simp [cutLast, hr, hc]
      · simp [cutLast, hr, hc, hnot, Ne.symm hc]

/-- The text is cut at a separator behind which there is none. -/
theorem of_cutLast (h : cutLast separator cs = some (before, after)) :
    cs = before ++ separator :: after ∧ separator ∉ after := by
  induction cs generalizing before with
  | nil => cases h
  | cons c r ih =>
    cases hr : cutLast separator r with
    | some parts =>
      obtain ⟨first, last⟩ := parts
      simp only [cutLast, hr, Option.some.injEq, Prod.mk.injEq] at h
      obtain ⟨rfl, rfl⟩ := h
      obtain ⟨hwhole, hnot⟩ := ih hr
      exact ⟨by rw [hwhole, List.cons_append], hnot⟩
    | none =>
      simp only [cutLast, hr] at h
      split at h
      · next hc =>
        cases h
        exact ⟨by rw [hc, List.nil_append], cutLast_eq_none.mp hr⟩
      · cases h

theorem cutLast_append (hafter : separator ∉ after) (before : List Char) :
    cutLast separator (before ++ separator :: after) = some (before, after) := by
  induction before with
  | nil => simp [cutLast, cutLast_eq_none.mpr hafter]
  | cons c before ih => simp [cutLast, ih]

theorem prefix_dropEndWhile {α : Type} (p : α → Bool) (members : List α) :
    dropEndWhile p members <+: members :=
  ⟨_, dropEndWhile_append_suffix p members⟩

end Text

namespace LogicalPath

variable {path : List Char}

theorem prefix_trimmed (path : List Char) : trimmed path <+: path :=
  Text.prefix_dropEndWhile isSlash path

/-- A path without a slash, one directly below the root, or one in a deeper collection. -/
theorem splitChars_cases (path : List Char) :
    ('/' ∉ trimmed path ∧ splitChars path = ([], trimmed path)) ∨
    (∃ name, trimmed path = '/' :: name ∧ '/' ∉ name ∧ splitChars path = (['/'], name)) ∨
    ∃ collection name, collection ≠ [] ∧ trimmed path = collection ++ '/' :: name ∧
      '/' ∉ name ∧ splitChars path = (collection, name) := by
  unfold splitChars
  cases hcut : Text.cutLast '/' (trimmed path) with
  | none => exact .inl ⟨Text.cutLast_eq_none.mp hcut, rfl⟩
  | some parts =>
    obtain ⟨collection, name⟩ := parts
    obtain ⟨hwhole, hname⟩ := Text.of_cutLast hcut
    cases collection with
    | nil => exact .inr (.inl ⟨name, hwhole, hname, rfl⟩)
    | cons c r => exact .inr (.inr ⟨c :: r, name, List.cons_ne_nil c r, hwhole, hname, rfl⟩)

theorem slash_not_mem_name (path : List Char) : '/' ∉ (splitChars path).2 := by
  rcases splitChars_cases path with ⟨hname, hsplit⟩ | ⟨name, -, hname, hsplit⟩ |
    ⟨collection, name, -, -, hname, hsplit⟩
  all_goals
    rw [hsplit]
    exact hname

/-- What a path begins with its collection begins with, if it has one. -/
theorem head?_collection (h : path.head? = some '/') :
    (splitChars path).1 = [] ∨ (splitChars path).1.head? = some '/' := by
  have htrimmed : ∀ {c r}, trimmed path = c :: r → c = '/' := by
    intro c r hcons
    obtain ⟨rest, hrest⟩ := prefix_trimmed path
    rw [hcons, List.cons_append] at hrest
    rw [← hrest, List.head?_cons, Option.some.injEq] at h
    exact h
  rcases splitChars_cases path with ⟨-, hsplit⟩ | ⟨name, -, -, hsplit⟩ |
    ⟨collection, name, hne, hwhole, -, hsplit⟩
  · rw [hsplit]
    exact .inl rfl
  · rw [hsplit]
    exact .inr rfl
  · obtain ⟨c, r, rfl⟩ := List.exists_cons_of_ne_nil hne
    rw [hsplit]
    exact .inr (congrArg some (htrimmed hwhole))

theorem mem_of_mem_parts {c : Char} (hc : c ≠ '/')
    (h : c ∈ (splitChars path).1 ∨ c ∈ (splitChars path).2) : c ∈ path := by
  refine (prefix_trimmed path).subset ?_
  rcases splitChars_cases path with ⟨-, hsplit⟩ | ⟨name, hwhole, -, hsplit⟩ |
    ⟨collection, name, -, hwhole, -, hsplit⟩
  · simpa [hsplit] using h
  · simpa [hsplit, hwhole, hc] using h
  · simpa [hsplit, hwhole, hc] using h

/-! The walk upwards -/

variable {parent : List Char}

theorem length_collection_lt (hroot : path ≠ ['/']) (hparent : (splitChars path).1 ≠ []) :
    (splitChars path).1.length < path.length := by
  have hlength := (prefix_trimmed path).length_le
  rcases splitChars_cases path with ⟨-, hsplit⟩ | ⟨name, hwhole, -, hsplit⟩ |
    ⟨collection, name, -, hwhole, -, hsplit⟩
  · exact absurd (congrArg Prod.fst hsplit) hparent
  · rw [hsplit]
    rw [hwhole, List.length_cons] at hlength
    obtain ⟨rest, hrest⟩ := prefix_trimmed path
    rw [hwhole, List.cons_append] at hrest
    -- only the root is a slash with nothing behind it
    have hbehind : name ++ rest ≠ [] := by
      intro hnil
      rw [hnil] at hrest
      exact hroot hrest.symm
    rw [← hrest]
    exact Nat.succ_lt_succ (List.length_pos_iff.mpr hbehind)
  · rw [hsplit]
    rw [hwhole, List.length_append, List.length_cons] at hlength
    dsimp only
    omega

theorem length_parent_lt (h : parentChars? path = some parent) :
    parent.length < path.length := by
  have hlength := (prefix_trimmed path).length_le
  have htrimmed : trimmed path ≠ ['/'] := by
    intro hslash
    rw [parentChars?, hslash] at h
    cases h
  have hparent : (splitChars (trimmed path)).1 = parent ∧ parent ≠ [] := by
    unfold parentChars? at h
    split at h
    · cases h
    · split at h
      · cases h
      · next hne =>
        cases h
        exact ⟨rfl, hne⟩
  obtain ⟨rfl, hne⟩ := hparent
  exact Nat.lt_of_lt_of_le (length_collection_lt htrimmed hne) hlength

/-- The path, the collection that it is in, the one that this is in, and so on, without
the root. -/
inductive Upward : List Char → List String → Prop
  | above {path : List Char} (h : path = [] ∨ path = ['/']) : Upward path []
  | last {path : List Char} (hbelow : ¬ (path = [] ∨ path = ['/']))
      (h : parentChars? path = none) : Upward path [String.ofList path]
  | up {path parent : List Char} {paths : List String} (hbelow : ¬ (path = [] ∨ path = ['/']))
      (h : parentChars? path = some parent) (hrest : Upward parent paths) :
      Upward path (String.ofList path :: paths)

theorem upward_walk {steps : Nat} (h : path.length ≤ steps) :
    Upward path ((walk steps path).map String.ofList) := by
  induction steps generalizing path with
  | zero => exact .above (.inl (List.length_eq_zero_iff.mp (Nat.le_zero.mp h)))
  | succ steps ih =>
    unfold walk
    split
    · next habove => exact .above habove
    · next hbelow =>
      split
      · next hparent => exact .last hbelow hparent
      · next parent hparent =>
        have hlt := length_parent_lt hparent
        exact .up hbelow hparent (ih (by omega))

theorem upward_ancestors (path : String) : Upward (trimmed path.toList) (ancestors path) :=
  upward_walk (Nat.le_refl _)

end LogicalPath

end GridPolicy
