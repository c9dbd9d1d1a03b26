import GridPolicy.Pattern

/-!
# Patterns between the ends of a text

A pattern leads from positions to positions and never past the end of the text. What
has the assertions for the two ends around it therefore occurs in a text exactly if it
leads from the start to the end, however the three are put together.
-/
namespace GridPolicy.Pattern

variable {text : Array Char}

/-- Whether the pattern matches the text from its first to its last character. -/
def matchesWhole (p : Pattern) (text : String) : Bool :=
  (p.reach text.toList.toArray [0]).contains text.toList.length

section Bounds

theorem behind?_le {cs : List Char} {i j : Nat} (hi : i ≤ text.size)
    (h : behind? text cs i = some j) : j ≤ text.size := by
  induction cs generalizing i with
  | nil =>
    rw [behind?, Option.some.injEq] at h
    exact h ▸ hi
  | cons c r ih =>
    rw [behind?] at h
    split at h
    · next hc =>
      obtain ⟨hlt, -⟩ := Array.getElem?_eq_some_iff.mp hc
      exact ih hlt h
    · cases h

/-- A step between positions stays between positions. -/
def Bounded (n : Nat) (step : List Nat → List Nat) : Prop :=
  ∀ starts, (∀ i ∈ starts, i ≤ n) → ∀ j ∈ step starts, j ≤ n

theorem bounded_iterate {n : Nat} {step : List Nat → List Nat} (h : Bounded n step) (k : Nat) :
    Bounded n (iterate step k) := by
  induction k with
  | zero => exact fun starts hstarts => hstarts
  | succ k ih =>
    intro starts hstarts
    cases starts with
    | nil => exact hstarts
    | cons i r => exact ih _ (h _ hstarts)

theorem closure_le {n : Nat} {step : List Nat → List Nat} (h : Bounded n step) {rounds : Nat}
    {seen frontier : List Nat} (hseen : ∀ i ∈ seen, i ≤ n) (hfrontier : ∀ i ∈ frontier, i ≤ n) :
    ∀ j ∈ closure step rounds seen frontier, j ≤ n := by
  induction rounds generalizing seen frontier with
  | zero => exact hseen
  | succ rounds ih =>
    have hfresh : ∀ i ∈ (step frontier).filter fun i => !seen.contains i, i ≤ n :=
      fun i hi => h frontier hfrontier i (List.mem_filter.mp hi).1
    simp only [closure]
    split
    · exact hseen
    · refine ih ?_ hfresh
      intro i hi
      rcases List.mem_append.mp hi with hi | hi
      · exact hseen i hi
      · exact hfresh i hi

mutual

/-- No match ends behind the text. -/
theorem bounded_reach : ∀ p : Pattern, Bounded text.size (p.reach text)
  | .empty => fun starts hstarts => by simpa only [reach] using hstarts
  | .literal cs => fun starts hstarts j hj => by
    rw [reach, List.mem_filterMap] at hj
    obtain ⟨i, hi, hj⟩ := hj
    exact behind?_le (hstarts i hi) hj
  | .one set => fun starts hstarts j hj => by
    rw [reach, List.mem_filterMap] at hj
    obtain ⟨i, hi, hj⟩ := hj
    split at hj
    · next c hc =>
      obtain ⟨hlt, -⟩ := Array.getElem?_eq_some_iff.mp hc
      split at hj
      · rw [Option.some.injEq] at hj
        exact hj ▸ hlt
      · cases hj
    · cases hj
  | .look kind => fun starts hstarts j hj => by
    rw [reach, List.mem_filter] at hj
    exact hstarts j hj.1
  | .repetition low high greedy inner => fun starts hstarts => by
    have hfirst := bounded_iterate (bounded_reach inner) low starts hstarts
    rw [reach]
    exact closure_le (bounded_reach inner) hfirst hfirst
  | .capture inner => fun starts hstarts => by
    rw [reach]
    exact bounded_reach inner starts hstarts
  | .sequence items => fun starts hstarts => by
    rw [reach]
    exact bounded_reachAll items starts hstarts
  | .choice branches => fun starts hstarts => by
    rw [reach]
    exact bounded_reachAny branches starts hstarts

theorem bounded_reachAll : ∀ items : List Pattern, Bounded text.size (reachAll text items)
  | [] => fun starts hstarts => by simpa only [reachAll] using hstarts
  | p :: r => fun starts hstarts => by
    rw [reachAll]
    exact bounded_reachAll r _ (bounded_reach p starts hstarts)

theorem bounded_reachAny : ∀ branches : List Pattern, Bounded text.size (reachAny text branches)
  | [] => fun starts _ => by simp [reachAny]
  | p :: r => fun starts hstarts j hj => by
    rw [reachAny, either, List.mem_append, List.mem_filter] at hj
    rcases hj with hj | ⟨hj, -⟩
    · exact bounded_reach p starts hstarts j hj
    · exact bounded_reachAny r starts hstarts j hj

end

end Bounds

section Items

theorem reachAll_append (ps qs : List Pattern) (starts : List Nat) :
    reachAll text (ps ++ qs) starts = reachAll text qs (reachAll text ps starts) := by
  induction ps generalizing starts with
  | nil => rw [List.nil_append, reachAll]
  | cons p r ih => rw [List.cons_append, reachAll, reachAll, ih]

theorem reachAll_flatItems (items : List Pattern) (starts : List Nat) :
    reachAll text (flatItems items) starts = reachAll text items starts := by
  induction items generalizing starts with
  | nil => rfl
  | cons p r ih =>
    cases p with
    | empty => rw [flatItems, ih, reachAll, reach]
    | sequence inner => rw [flatItems, reachAll_append, ih, reachAll, reach]
    | _ => rw [flatItems, reachAll, reachAll, ih] <;> simp

theorem behind?_append (a b : List Char) (i : Nat) :
    behind? text (a ++ b) i = (behind? text a i).bind (behind? text b) := by
  induction a generalizing i with
  | nil => rfl
  | cons c r ih =>
    rw [List.cons_append, behind?, behind?]
    split
    · exact ih _
    · rfl

theorem reachAll_joinLiterals (items : List Pattern) (starts : List Nat) :
    reachAll text (joinLiterals items) starts = reachAll text items starts := by
  induction items generalizing starts with
  | nil => rfl
  | cons p r ih =>
    cases p with
    | literal a =>
      have hrest := ih ((Pattern.literal a).reach text starts)
      rw [joinLiterals, reachAll, ← hrest]
      split
      · next b s hjoined =>
        -- what stands behind both literals stands behind the second, from behind the first
        have hboth : (Pattern.literal (a ++ b)).reach text starts =
            (Pattern.literal b).reach text ((Pattern.literal a).reach text starts) := by
          rw [reach, reach, reach, List.filterMap_filterMap]
          exact congrArg (List.filterMap · starts) (funext (behind?_append a b))
        rw [hjoined, reachAll, reachAll, hboth]
      · rw [reachAll]
    | _ =>
      rw [joinLiterals, reachAll, reachAll, ih]
      simp

/-- Putting items together changes nothing about what they match. -/
theorem reach_ofItems (items : List Pattern) (starts : List Nat) :
    (ofItems items).reach text starts = reachAll text items starts := by
  rw [← reachAll_flatItems items, ← reachAll_joinLiterals (flatItems items), ofItems]
  split
  · next h => rw [h, reach, reachAll]
  · next p h => rw [h, reachAll, reachAll]
  · next ps _ _ => rw [reach]

end Items

/-- A pattern between the assertions for the ends of a text. -/
def betweenEnds (p : Pattern) : Pattern := ofItems [.look .textStart, p, .look .textEnd]

theorem starts_textStart (text : Array Char) :
    (List.range (text.size + 1)).filter
      (fun i => Look.textStart.holds (before? text i) text[i]?) = [0] := by
  have hstart : ∀ i ∈ List.range (text.size + 1),
      (Look.textStart.holds (before? text i) text[i]? = true ↔ i = 0) := by
    intro i hi
    rw [List.mem_range] at hi
    by_cases h : i = 0
    · simp [h, Look.holds, before?]
    · simp only [h, iff_false, Look.holds, before?, ↓reduceIte, Bool.not_eq_true,
        Option.isNone_eq_false_iff, isSome_getElem?]
      omega
  rw [List.range_succ_eq_map, List.filter_cons_of_pos, List.filter_eq_nil_iff.mpr]
  · intro i hi
    rw [hstart i (List.range_succ_eq_map ▸ List.mem_cons_of_mem _ hi)]
    obtain ⟨k, -, rfl⟩ := List.mem_map.mp hi
    exact Nat.succ_ne_zero k
  · exact (hstart 0 (by simp)).mpr rfl

/-- What stands between the assertions for the ends of a text occurs in the text
exactly if it matches all of it. -/
theorem occursIn_betweenEnds (p : Pattern) (text : String) :
    p.betweenEnds.occursIn text = p.matchesWhole text := by
  have hbound : ∀ j ∈ p.reach text.toList.toArray [0], j ≤ text.toList.length :=
    bounded_reach p [0] (by simp)
  have hreach : p.betweenEnds.reach text.toList.toArray
      (List.range (text.toList.toArray.size + 1)) =
      (p.reach text.toList.toArray [0]).filter fun i =>
        Look.textEnd.holds (before? text.toList.toArray i) text.toList.toArray[i]? := by
    rw [betweenEnds, reach_ofItems, reachAll, reachAll, reachAll, reachAll, reach, reach,
      starts_textStart]
  rw [occursIn, hreach, matchesWhole, Bool.eq_iff_iff]
  simp only [Bool.not_eq_true', List.isEmpty_eq_false_iff_exists_mem, List.mem_filter, Look.holds,
    Option.isNone_iff_eq_none, List.contains_iff_mem]
  constructor
  · rintro ⟨j, hj, hend⟩
    have hle := hbound j hj
    have hge : text.toList.length ≤ j := by simpa using hend
    rwa [Nat.le_antisymm hle hge] at hj
  · intro hmem
    exact ⟨_, hmem, by simp⟩

end GridPolicy.Pattern
