/-!
# Ordered texts

Texts in ascending order of their code points, none twice. Two lists with the
same members have the same ordered form.
-/
namespace GridPolicy.Text

/-- Puts a text before the first greater one, unless it is there already. -/
def insertOrdered (s : String) : List String → List String
  | [] => [s]
  | t :: r => if s = t then t :: r else if s < t then s :: t :: r else t :: insertOrdered s r

/-- The texts in ascending order, none twice. -/
def ordered : List String → List String
  | [] => []
  | s :: r => insertOrdered s (ordered r)

theorem mem_insertOrdered {s t : String} {texts : List String} :
    t ∈ insertOrdered s texts ↔ t = s ∨ t ∈ texts := by
  induction texts with
  | nil => simp [insertOrdered]
  | cons u r ih =>
    by_cases h : s = u
    · subst h
      simp [insertOrdered]
    · by_cases hlt : s < u
      · simp [insertOrdered, h, hlt]
      · simp only [insertOrdered, h, hlt, ↓reduceIte, List.mem_cons, ih]
        exact or_left_comm

theorem mem_ordered {t : String} {texts : List String} : t ∈ ordered texts ↔ t ∈ texts := by
  induction texts with
  | nil => simp [ordered]
  | cons s r ih => simp [ordered, mem_insertOrdered, ih]

end GridPolicy.Text
