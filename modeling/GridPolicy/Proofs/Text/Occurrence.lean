import GridPolicy.Text
import Mathlib.Data.List.Infix

/-!
# Where a needle occurs

A text is cut at the first occurrence of a needle. Where one stands is only certain if
it cannot begin before: in the text in front of it, or in that text and run on into the
needle itself. The second is excluded for a needle of which no beginning is also its
end, whatever stands around it.

To exchange a needle is to go through a text from the left: what no occurrence begins in
stays, and an occurrence is passed over.
-/
namespace GridPolicy.Text

variable {needle cs before after : List Char}

/-- A character that stands before the end of a part belongs to the part. -/
theorem mem_of_append_eq {c : Char} {cs rest before after : List Char}
    (h : cs ++ rest = before ++ c :: after) (hlt : before.length < cs.length) : c ∈ cs := by
  have hat : (cs ++ rest)[before.length]? = some c := by simp [h]
  rw [List.getElem?_append_left hlt] at hat
  exact List.mem_of_getElem? hat

/-- No occurrence of the needle begins inside another one and goes on behind it. -/
def Unbordered (needle : List Char) : Prop :=
  ∀ n < needle.length, 0 < n → ¬ needle.drop n <+: needle

instance : DecidablePred Unbordered := fun needle =>
  inferInstanceAs (Decidable (∀ n < needle.length, 0 < n → ¬ needle.drop n <+: needle))

theorem cutAt_eq_none : cutAt needle cs = none ↔ ¬ needle <:+: cs := by
  induction cs with
  | nil => cases needle <;> simp [cutAt]
  | cons c r ih =>
    cases hp : needle.isPrefixOf? (c :: r) with
    | some rest =>
      have hbegins : needle <+: c :: r := ⟨rest, append_of_isPrefixOf? hp⟩
      simp [cutAt, hp, hbegins.isInfix]
    | none =>
      have hbegins : ¬ needle <+: c :: r := by
        rintro ⟨rest, hrest⟩
        rw [List.isPrefixOf?_eq_some_iff_append_eq.mpr hrest] at hp
        cases hp
      simp [cutAt, hp, ih, List.infix_cons_iff, hbegins]

/-- In what is before the first occurrence there is none. -/
theorem not_infix_of_cutAt (hne : needle ≠ []) (h : cutAt needle cs = some (before, after)) :
    ¬ needle <:+: before := by
  induction cs generalizing before with
  | nil => simp [cutAt, hne] at h
  | cons c r ih =>
    cases hp : needle.isPrefixOf? (c :: r) with
    | some rest =>
      simp only [cutAt, hp, Option.some.injEq, Prod.mk.injEq] at h
      simpa [← h.1] using hne
    | none =>
      simp only [cutAt, hp, Option.map_eq_some_iff, Prod.mk.injEq, Prod.exists] at h
      obtain ⟨b, a, hcut, rfl, rfl⟩ := h
      have hwhole : c :: r = (c :: b) ++ (needle ++ a) := by rw [eq_of_cutAt hcut]; rfl
      rw [List.infix_cons_iff, not_or]
      refine ⟨fun hbegins => ?_, ih hcut⟩
      obtain ⟨rest, hrest⟩ := hbegins
      have hfound : needle ++ (rest ++ (needle ++ a)) = c :: r := by
        rw [hwhole, ← hrest, List.append_assoc]
      rw [List.isPrefixOf?_eq_some_iff_append_eq.mpr hfound] at hp
      cases hp

/-- A needle that stands behind a text without it does not begin any earlier. -/
theorem not_prefix_append (hborder : Unbordered needle) (hfree : ¬ needle <:+: cs)
    (hne : cs ≠ []) : ¬ needle <+: cs ++ (needle ++ after) := by
  intro hbegins
  rcases Nat.lt_or_ge cs.length needle.length with hlt | hge
  · have hcs : cs <+: needle :=
      List.prefix_of_prefix_length_le (List.prefix_append ..) hbegins hlt.le
    have hneedle := List.prefix_append_drop hcs
    have hover : needle.drop cs.length <+: needle ++ after := by
      rw [hneedle] at hbegins
      simpa [← hneedle] using (List.prefix_append_right_inj cs).mp hbegins
    have hshort : (needle.drop cs.length).length ≤ needle.length := by simp
    have hinner : needle.drop cs.length <+: needle :=
      List.prefix_of_prefix_length_le hover (List.prefix_append ..) hshort
    exact hborder cs.length hlt (List.length_pos_iff.mpr hne) hinner
  · have hinner : needle <+: cs :=
      List.prefix_of_prefix_length_le hbegins (List.prefix_append ..) hge
    exact hfree hinner.isInfix

/-- The first occurrence is the one behind a text without any. -/
theorem cutAt_append (hborder : Unbordered needle) (hne : needle ≠ [])
    (hfree : ¬ needle <:+: before) (after : List Char) :
    cutAt needle (before ++ (needle ++ after)) = some (before, after) := by
  induction before with
  | nil =>
    obtain ⟨c, r, rfl⟩ := List.exists_cons_of_ne_nil hne
    have hfound : (c :: r).isPrefixOf? (c :: r ++ after) = some after :=
      List.isPrefixOf?_eq_some_iff_append_eq.mpr rfl
    rw [List.cons_append] at hfound
    simp [cutAt, hfound]
  | cons c r ih =>
    have hnone : needle.isPrefixOf? (c :: (r ++ (needle ++ after))) = none := by
      rw [← Option.not_isSome_iff_eq_none, List.isSome_isPrefixOf?_eq_isPrefixOf,
        List.isPrefixOf_iff_prefix]
      exact not_prefix_append hborder hfree (List.cons_ne_nil c r)
    have hrest : ¬ needle <:+: r := fun h => hfree (List.infix_cons h)
    simp [cutAt, hnone, ih hrest]

/-- A text is gone through from the left: past what is found there, and past characters at
which nothing is. -/
@[elab_as_elim]
theorem scan_induction {motive : List Char → Prop} {P : List Char → Prop} (hne : ¬ P [])
    (nil : motive []) (found : ∀ t rest, P t → motive rest → motive (t ++ rest))
    (char : ∀ c r, (∀ t, P t → ¬ t <+: c :: r) → motive r → motive (c :: r))
    (cs : List Char) : motive cs := by
  induction hlength : cs.length using Nat.strong_induction_on generalizing cs with
  | h n ih =>
    cases cs with
    | nil => exact nil
    | cons c r =>
      by_cases hnone : ∀ t, P t → ¬ t <+: c :: r
      · have hshorter : r.length < n := by simp [← hlength]
        exact char c r hnone (ih _ hshorter r rfl)
      · push Not at hnone
        obtain ⟨t, ht, rest, hrest⟩ := hnone
        have hpos : 0 < t.length := List.length_pos_of_ne_nil fun h => hne (h ▸ ht)
        have hshorter : rest.length < n := by
          rw [← hlength, ← hrest, List.length_append]
          omega
        rw [← hrest]
        exact found t rest ht (ih _ hshorter rest rfl)

section Replace

variable {value rest : List Char}

/-- A needle with a character that it does not hold behind the text stands in the text. -/
theorem prefix_append_cons {c : Char} (hc : c ∉ needle) (cs r : List Char) :
    needle <+: cs ++ c :: r ↔ needle <+: cs := by
  constructor
  · intro h
    rcases Nat.lt_or_ge cs.length needle.length with hlt | hge
    · have hlonger : cs ++ [c] <+: needle := by
        refine List.prefix_of_prefix_length_le ⟨r, by simp⟩ h ?_
        rw [List.length_append, List.length_singleton]
        omega
      exact absurd (hlonger.subset (by simp)) hc
    · exact List.prefix_of_prefix_length_le h (List.prefix_append ..) hge
  · exact fun h => h.trans (List.prefix_append ..)

theorem replaceFrom_skip (needle value cs rest : List Char) :
    replaceFrom needle value cs.length (cs ++ rest) = replaceFrom needle value 0 rest := by
  induction cs with
  | nil => rfl
  | cons c cs ih => simpa [replaceFrom] using ih

theorem replaceFrom_needle (hne : needle ≠ []) (value rest : List Char) :
    replaceFrom needle value 0 (needle ++ rest) = value ++ replaceFrom needle value 0 rest := by
  obtain ⟨c, r, rfl⟩ := List.exists_cons_of_ne_nil hne
  have hfound : (c :: r).isPrefixOf (c :: (r ++ rest)) = true :=
    List.isPrefixOf_iff_prefix.mpr ⟨rest, rfl⟩
  have hskip := replaceFrom_skip (c :: r) value r rest
  simp [replaceFrom, hfound, hskip]

theorem replaceFrom_cons {c : Char} {r : List Char} (h : ¬ needle <+: c :: r)
    (value : List Char) :
    replaceFrom needle value 0 (c :: r) = c :: replaceFrom needle value 0 r := by
  have hhere : needle.isPrefixOf (c :: r) = false := by
    rwa [← Bool.not_eq_true, List.isPrefixOf_iff_prefix]
  simp [replaceFrom, hhere]

/-- A text in which no occurrence begins stays. -/
theorem replaceFrom_append {cs : List Char}
    (h : ∀ u v, cs = u ++ v → v ≠ [] → ¬ needle <+: v ++ rest) :
    replaceFrom needle value 0 (cs ++ rest) = cs ++ replaceFrom needle value 0 rest := by
  induction cs with
  | nil => rfl
  | cons c cs ih =>
    have hhere : ¬ needle <+: c :: (cs ++ rest) := h [] (c :: cs) rfl (by simp)
    have hlater := ih fun u v hcs hv => h (c :: u) v (by rw [hcs]; rfl) hv
    rw [List.cons_append, replaceFrom_cons hhere, hlater, List.cons_append]

/-- The parts of a text around a character that the needle does not hold are gone through
apart. -/
theorem replaceFrom_append_cons {c : Char} (hc : c ∉ needle) (hne : needle ≠ [])
    (cs rest : List Char) :
    replaceFrom needle value 0 (cs ++ c :: rest) =
      replaceFrom needle value 0 cs ++ c :: replaceFrom needle value 0 rest := by
  induction cs using scan_induction (P := (· = needle)) with
  | hne => exact hne.symm
  | nil =>
    refine replaceFrom_cons (fun h => ?_) value
    rw [← List.nil_append (c :: rest), prefix_append_cons hc, List.prefix_nil] at h
    exact hne h
  | found t cs ht ih =>
    subst ht
    rw [List.append_assoc, replaceFrom_needle hne, replaceFrom_needle hne, ih, List.append_assoc]
  | char d cs hd ih =>
    have hlonger : ¬ needle <+: d :: (cs ++ c :: rest) := by
      rw [← List.cons_append, prefix_append_cons hc]
      exact hd needle rfl
    rw [List.cons_append, replaceFrom_cons hlonger, replaceFrom_cons (hd needle rfl), ih]
    rfl

end Replace

end GridPolicy.Text
