import GridPolicy.Conditional
import GridPolicy.Proofs.Pattern.Enclosed

/-!
# Constraints on whole fields

A constraint accepts the texts that its pattern matches from the first to the last
character. That is so for every text that is a pattern by itself. A text that closes the
group written around it is none, but with the group it can become one, and then the
constraint also accepts texts of which it matches a part.
-/
namespace GridPolicy.Conditional

open Pattern

variable {d : Document} {field text : String}

/-- Only as a pattern can a text be at fault. -/
theorem constraint_of_text (hfield : d.get? field = some (.text text)) (htext : text ≠ "") :
    constraint d field = match anchored? text with
      | some pattern => .ok (some pattern)
      | none => .error (.invalidPattern field text) := by
  have hfilled : filledText d field = .ok (some text) := by simp [filledText, hfield, htext]
  simp only [constraint, hfilled, bind, Except.bind]
  cases anchored? text <;> rfl

/-- What a constraint accepts is what its pattern matches as a whole, unless the text is no
pattern and closes the group around it. Every pattern that can be enclosed is compiled, and
what is not compiled is reported with the field and the text. -/
theorem constraint_matches_whole (hfield : d.get? field = some (.text text)) (htext : text ≠ "") :
    (∀ c, constraint d field = .ok c →
      (∃ p, read? text = some p ∧ ∀ t, c.accepts t = p.matchesWhole t) ∨
        Parser.ClosesOuter text.toList ∧ read? text = none) ∧
    (∀ p, read? text = some p → Enclosable text p →
      ∃ c, constraint d field = .ok c ∧ ∀ t, c.accepts t = p.matchesWhole t) ∧
    ∀ e, constraint d field = .error e → e = .invalidPattern field text := by
  rw [constraint_of_text hfield htext]
  refine ⟨?_, ?_, ?_⟩
  · intro c hc
    by_cases hclosed : Parser.ClosesOuter text.toList
    · exact .inr ⟨hclosed, read?_of_closesOuter hclosed⟩
    cases hanchored : anchored? text with
    | none =>
      rw [hanchored] at hc
      cases hc
    | some pattern =>
      rw [hanchored] at hc
      cases hc
      have hread := (Option.filter_eq_some_iff.mp hanchored).1
      obtain ⟨p, hp, rfl⟩ := of_read?_anchoredText hclosed hread
      exact .inl ⟨p, hp, occursIn_betweenEnds p⟩
  · intro p hp henclosable
    rw [anchored?_of_enclosable hp henclosable]
    exact ⟨some p.betweenEnds, rfl, occursIn_betweenEnds p⟩
  · intro e he
    cases hanchored : anchored? text with
    | none =>
      rw [hanchored] at he
      cases he
      rfl
    | some pattern =>
      rw [hanchored] at he
      cases he

/-- A text that closes the group is compiled all the same, and accepts what only begins with
one of its branches. -/
example : (anchored? "a)|(?:b").any (·.occursIn "axyz") = true ∧
    (read? "a)|(?:b").isNone = true := by decide +kernel

/-- Two users, of whose names one begins the other. -/
def eitherUser : Document := .object [(Key.userName, .text "ann|anna")]

/-- The second name is accepted, though the first matches a part of it, and a third that
begins with it is not. -/
theorem constraint_matches_whole_eitherUser : ∃ c, constraint eitherUser Key.userName = .ok c ∧
    c.accepts "anna" = true ∧ c.accepts "annabel" = false := by
  have hmatches : (read? "ann|anna").any (fun p => p.betweenEnds.fits && p.matchesWhole "anna" &&
      !p.matchesWhole "annabel") = true := by decide +kernel
  obtain ⟨p, hp, hall⟩ := (Option.any_eq_true _ _).mp hmatches
  simp only [Bool.and_eq_true, Bool.not_eq_true'] at hall
  obtain ⟨⟨hfits, hwhole⟩, hpart⟩ := hall
  have hshallow : (Parser.parse "ann|anna".toList).all (·.depth ≤ 248) = true := by decide +kernel
  have henclosable : Enclosable "ann|anna" p := by
    refine ⟨⟨nofun, fun hx => absurd hx (by decide)⟩, fun e he => ?_, hfits⟩
    rw [he] at hshallow
    exact of_decide_eq_true hshallow
  have hfield : eitherUser.get? Key.userName = some (.text "ann|anna") := rfl
  obtain ⟨c, hc, haccepts⟩ :=
    (constraint_matches_whole hfield (by decide)).2.1 p hp henclosable
  exact ⟨c, hc, (haccepts _).trans hwhole, (haccepts _).trans hpart⟩

end GridPolicy.Conditional
