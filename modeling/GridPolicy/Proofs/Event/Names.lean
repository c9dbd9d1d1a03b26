import GridPolicy.Event.Basic
import Mathlib.Data.List.DropRight

/-!
# Names in any case

The names of the events are written in capitals. To read a name, a text is made one of
capitals and compared as it is; that is to compare the letters without regard to case.
Blanks around it are taken off, which once is enough and may be done before the capitals are
made or after.
-/
namespace GridPolicy

namespace Text

theorem toNat_toUpper (c : Char) :
    c.toUpper.toNat = if 97 ≤ c.toNat ∧ c.toNat ≤ 122 then c.toNat - 32 else c.toNat := by
  have hsum := UInt32.toNat_add c.val ('A'.val - 'a'.val)
  have hshift : ('A'.val - 'a'.val).toNat = 4294967264 := by decide
  rw [hshift, Char.toNat_val] at hsum
  unfold Char.toUpper
  split
  · next h =>
    have hlower : 97 ≤ c.toNat ∧ c.toNat ≤ 122 := h
    rw [if_pos hlower]
    refine hsum.trans ?_
    omega
  · next h =>
    have hother : ¬ (97 ≤ c.toNat ∧ c.toNat ≤ 122) := h
    rw [if_neg hother]

theorem toNat_toLower (c : Char) :
    c.toLower.toNat = if 65 ≤ c.toNat ∧ c.toNat ≤ 90 then c.toNat + 32 else c.toNat := by
  have hsum := UInt32.toNat_add c.val ('a'.val - 'A'.val)
  have hshift : ('a'.val - 'A'.val).toNat = 32 := by decide
  rw [hshift, Char.toNat_val] at hsum
  unfold Char.toLower
  split
  · next h =>
    have hcapital : 65 ≤ c.toNat ∧ c.toNat ≤ 90 := h
    rw [if_pos hcapital]
    refine hsum.trans ?_
    omega
  · next h =>
    have hother : ¬ (65 ≤ c.toNat ∧ c.toNat ≤ 90) := h
    rw [if_neg hother]

/-- A letter is made this capital if it is the capital's letter, of either case. -/
theorem toUpper_eq_iff {c d : Char} (hd : 65 ≤ d.toNat ∧ d.toNat ≤ 90) :
    c.toUpper = d ↔ c.toLower = d.toLower := by
  rw [← Char.toNat_inj, ← Char.toNat_inj, toNat_toUpper, toNat_toLower, toNat_toLower]
  split <;> split <;> omega

/-- A text in capitals is this name if its letters are those of the name, in either case. -/
theorem upper_eq_iff {s name : String}
    (hname : ∀ c ∈ name.toList, 65 ≤ c.toNat ∧ c.toNat ≤ 90) :
    upper s = name ↔ sameLetters s name = true := by
  have hletters (cs ds : List Char) (hds : ∀ d ∈ ds, 65 ≤ d.toNat ∧ d.toNat ≤ 90) :
      cs.map Char.toUpper = ds ↔ cs.map Char.toLower = ds.map Char.toLower := by
    induction cs generalizing ds with
    | nil => cases ds <;> simp
    | cons c cs ih =>
      cases ds with
      | nil => simp
      | cons d ds =>
        have hd := hds d (by simp)
        have hrest := ih ds fun d hd => hds d (by simp [hd])
        simp only [List.map_cons, List.cons.injEq, toUpper_eq_iff hd, hrest]
  have h := hletters s.toList name.toList hname
  rw [sameLetters, beq_iff_eq, upper, lower, lower, String.ofList_inj, ← h,
    ← String.toList_inj, String.toList_ofList]

theorem toUpper_toUpper (c : Char) : c.toUpper.toUpper = c.toUpper := by
  rw [← Char.toNat_inj, toNat_toUpper c.toUpper, toNat_toUpper c, if_neg]
  split <;> omega

@[simp] theorem upper_upper (s : String) : upper (upper s) = upper s := by
  simp only [upper, String.toList_ofList, List.map_map, String.ofList_inj]
  exact List.map_congr_left fun c _ => toUpper_toUpper c

/-! Blanks around a name -/

theorem isBlank_toUpper (c : Char) : isBlank c.toUpper = isBlank c := by
  unfold isBlank
  rw [toNat_toUpper]
  split
  · next hletter =>
    rw [Bool.eq_iff_iff]
    simp only [Bool.or_eq_true, Bool.and_eq_true, decide_eq_true_eq, beq_iff_eq]
    omega
  · rfl

theorem dropWhile_isBlank_upper (cs : List Char) :
    (cs.map Char.toUpper).dropWhile isBlank = (cs.dropWhile isBlank).map Char.toUpper := by
  have hsame : isBlank ∘ Char.toUpper = isBlank := funext isBlank_toUpper
  rw [List.dropWhile_map, hsame]

theorem trim_upper (s : String) : trim (upper s) = upper (trim s) := by
  simp only [trim, upper, trimChars, dropEndWhile, String.toList_ofList, String.ofList_inj]
  rw [dropWhile_isBlank_upper, ← List.map_reverse, dropWhile_isBlank_upper, List.map_reverse]

/-- What is left at the end of a text without blanks before it has none either. -/
theorem dropWhile_trimChars (cs : List Char) :
    (trimChars cs).dropWhile isBlank = trimChars cs := by
  rw [List.dropWhile_eq_self_iff]
  intro hpos hblank
  have hlead : trimChars cs <+: cs.dropWhile isBlank :=
    ⟨_, dropEndWhile_append_suffix isBlank (cs.dropWhile isBlank)⟩
  have hfirst := List.dropWhile_get_zero_not isBlank cs (Nat.lt_of_lt_of_le hpos hlead.length_le)
  rw [hlead.getElem hpos] at hblank
  exact hfirst hblank

@[simp] theorem trim_trim (s : String) : trim (trim s) = trim s := by
  simp only [trim, String.toList_ofList, String.ofList_inj]
  rw [trimChars, dropWhile_trimChars, trimChars, dropEndWhile, dropEndWhile, List.reverse_reverse,
    List.dropWhile_idempotent]

end Text

namespace Event

theorem ofName?_name (e : Event) : ofName? e.name = some e := by cases e <;> decide

theorem capital_of_mem_name (e : Event) : ∀ c ∈ e.name.toList, 65 ≤ c.toNat ∧ c.toNat ≤ 90 := by
  cases e <;> simp [name]

theorem ofName?_eq_some {s : String} {e : Event} : ofName? s = some e ↔ s = e.name := by
  constructor
  · intro h
    rw [ofName?] at h
    have hfound := List.find?_some h
    rw [beq_iff_eq] at hfound
    exact hfound.symm
  · rintro rfl
    exact ofName?_name e

/-- An event is denoted by its name in any case, with blanks around it. -/
theorem read?_eq_some {s : String} {e : Event} :
    read? s = some e ↔ Text.sameLetters (Text.trim s) e.name = true := by
  rw [← Text.upper_eq_iff e.capital_of_mem_name, read?, ofName?_eq_some]

end Event

end GridPolicy
