import GridPolicy.Proofs.Pattern.Groups
import GridPolicy.Proofs.Pattern.Reach

/-!
# The text for a whole field

Around a text for a whole field a group is written, and around the group the assertions
for the ends. A text that does not close this group by itself is read within it, and
what is read is what the text alone describes, between the two assertions. A text that
does close it is no pattern alone.
-/
namespace GridPolicy.Pattern

namespace Parser

variable {cs : List Char} {e : Expression}

/-- A parenthesis of the text closes a group that the text has not opened. -/
def ClosesOuter (cs : List Char) : Prop :=
  ∃ e names r, readGroup (cs.length + 1) false [] [] [] cs = some (e, names, ')' :: r)

theorem parse_of_closesOuter (h : ClosesOuter cs) : parse cs = none := by
  obtain ⟨e, names, r, h⟩ := h
  rw [parse, h]

theorem parse_eq_some : parse cs = some e ↔
    (∃ names, readGroup (cs.length + 1) false [] [] [] cs = some (e, names, [])) ∧
      e.depth ≤ 250 := by
  unfold parse
  split
  · next e' names h =>
    rw [h]
    by_cases hdepth : e'.depth ≤ 250
    · rw [if_pos hdepth]
      constructor
      · rintro ⟨⟩
        exact ⟨⟨names, rfl⟩, hdepth⟩
      · rintro ⟨⟨names', ⟨⟩⟩, -⟩
        rfl
    · rw [if_neg hdepth]
      refine ⟨nofun, ?_⟩
      rintro ⟨⟨names', ⟨⟩⟩, hshallow⟩
      exact absurd hshallow hdepth
  · next hopen =>
    refine ⟨nofun, ?_⟩
    rintro ⟨⟨names, h⟩, -⟩
    exact (hopen e names h).elim

/-- The characters of a text with the group and the assertions around it. -/
def enclose (cs : List Char) : List Char := '^' :: '(' :: '?' :: ':' :: (cs ++ closing)

/-- An expression in the group and between the assertions. -/
def enclosed (e : Expression) : Expression :=
  .sequence [.assertion .lineStart, .group [] false e, .assertion .lineEnd]

theorem depth_enclosed (e : Expression) : (enclosed e).depth = e.depth + 2 := by
  simp [enclosed, Expression.depth, itemsDepth]

theorem readGroup_enclose (steps : Nat) (cs : List Char) :
    readGroup (steps + 2) false [] [] [] (enclose cs) =
      (readGroup steps false [] [] [] (cs ++ closing)).bind
        (behindContents steps false [] [.assertion .lineStart] [] false) := by
  have hstart : readGroup (steps + 2) false [] [] [] (enclose cs) =
      readGroup (steps + 1) false [] [] [.assertion .lineStart]
        ('(' :: '?' :: ':' :: (cs ++ closing)) := rfl
  rw [hstart, readGroup_opening rfl]
  rfl

/-- The text is read in the group. Behind what was read there stands a parenthesis, and
what follows the parenthesis is read to the end. -/
theorem parse_enclose_eq_some {whole : Expression} : parse (enclose cs) = some whole ↔
    (∃ inner names rest names', readGroup (cs.length + 5) false [] [] [] (cs ++ closing) =
        some (inner, names, ')' :: rest) ∧
      readGroup (cs.length + 5) false names [] [.group [] false inner, .assertion .lineStart] rest =
        some (whole, names', [])) ∧ whole.depth ≤ 250 := by
  have hlength : (enclose cs).length + 1 = cs.length + 5 + 2 := by simp [enclose, closing]
  rw [parse_eq_some, hlength, readGroup_enclose]
  refine and_congr_left fun _ => ?_
  constructor
  · rintro ⟨names', h⟩
    obtain ⟨⟨inner, names, left⟩, hinner, h⟩ := Option.bind_eq_some_iff.mp h
    unfold behindContents at h
    dsimp only at h
    split at h
    · exact ⟨inner, names, _, names', hinner, h⟩
    · cases h
  · rintro ⟨inner, names, rest, names', hinner, hwhole⟩
    exact ⟨names', by rw [hinner]; exact hwhole⟩

theorem follows_text {quiet : Prop} (hcalm : quiet → Calm false cs) :
    Follows quiet Past (readGroup (cs.length + 1) false [] [] [] cs)
      (readGroup (cs.length + 5) false [] [] [] (cs ++ closing)) :=
  follows_readGroup (by omega) (by omega) [] [] [] hcalm

/-- What is read of the text in the group is what is read of the text alone. -/
theorem parse_of_parse_enclose (hclosed : ¬ ClosesOuter cs) {whole : Expression}
    (h : parse (enclose cs) = some whole) : ∃ e, parse cs = some e ∧ whole = enclosed e := by
  obtain ⟨⟨inner, names, rest, names', hinner, hwhole⟩, hdepth⟩ := parse_enclose_eq_some.mp h
  have hfollows := follows_text (show False → Calm false cs from nofun)
  rcases hfollows.cases with ⟨⟨e, names, left⟩, halone, hbehind⟩ | ⟨-, hlost⟩
  · rw [hinner] at hbehind
    cases left with
    | nil =>
      cases hbehind
      have hread : some (enclosed e, names, []) = some (whole, names', []) := hwhole
      obtain ⟨rfl, -⟩ := Prod.mk.inj (Option.some.inj hread)
      rw [depth_enclosed] at hdepth
      exact ⟨e, parse_eq_some.mpr ⟨⟨names, halone⟩, by omega⟩, rfl⟩
    | cons c r =>
      cases hbehind
      exact absurd ⟨e, names, r, halone⟩ hclosed
  · exact absurd rfl ((hlost _ hinner).ne_cons (by decide))

/-- A text without an open comment is also read with the group around it, unless the group
makes it too deep. -/
theorem parse_enclose_of_parse (hcalm : Calm false cs) (h : parse cs = some e)
    (hdepth : e.depth ≤ 248) : parse (enclose cs) = some (enclosed e) := by
  obtain ⟨⟨names, halone⟩, -⟩ := parse_eq_some.mp h
  have hfollows := follows_text fun _ : True => hcalm
  rw [halone] at hfollows
  rcases hfollows with hsame | ⟨hnone, -⟩
  · refine parse_enclose_eq_some.mpr ⟨⟨e, names, ['$'], names, hsame, rfl⟩, ?_⟩
    rw [depth_enclosed]
    omega
  · cases hnone trivial

/-- Flags that the text changes are as before behind the group. -/
theorem resolve?_enclosed (e : Expression) :
    (enclosed e).resolve? {} = (e.resolve? {}).map fun x => (x.1.betweenEnds, {}) := by
  have hflags : Flags.apply {} [] = {} := rfl
  simp only [enclosed, Expression.resolve?, sequence?, hflags]
  cases e.resolve? {} with
  | none => rfl
  | some x => rfl

end Parser

variable {text : String} {p q : Pattern}

theorem toList_anchoredText (text : String) :
    (anchoredText text).toList = Parser.enclose text.toList := by
  simp [anchoredText, Parser.enclose, Parser.closing]

theorem read?_eq_some : read? text = some p ↔
    ∃ e flags, Parser.parse text.toList = some e ∧ e.resolve? {} = some (p, flags) := by
  simp [read?, Option.bind_eq_some_iff, Option.map_eq_some_iff]

/-- A text that closes the group around it is no pattern by itself. -/
theorem read?_of_closesOuter (h : Parser.ClosesOuter text.toList) : read? text = none := by
  rw [read?, Parser.parse_of_closesOuter h]
  rfl

/-- Of a text that does not close the group, what is read is the text's own pattern between
the assertions for the ends. -/
theorem of_read?_anchoredText (hclosed : ¬ Parser.ClosesOuter text.toList)
    (h : read? (anchoredText text) = some q) : ∃ p, read? text = some p ∧ q = p.betweenEnds := by
  obtain ⟨whole, flags, hwhole, hq⟩ := read?_eq_some.mp h
  rw [toList_anchoredText] at hwhole
  obtain ⟨e, he, rfl⟩ := Parser.parse_of_parse_enclose hclosed hwhole
  rw [Parser.resolve?_enclosed] at hq
  obtain ⟨⟨p, after⟩, hp, hq⟩ := Option.map_eq_some_iff.mp hq
  obtain ⟨rfl, -⟩ := Prod.mk.inj hq
  exact ⟨p, read?_eq_some.mpr ⟨e, after, he, hp⟩, rfl⟩

/-- What a pattern's text has to be like for it to be one also for a whole field: the
closing is not taken for a comment, and neither the group's two levels nor the assertions
make it too large. -/
structure Enclosable (text : String) (p : Pattern) : Prop where
  comments : Parser.Calm false text.toList
  depth : ∀ e, Parser.parse text.toList = some e → e.depth ≤ 248
  size : p.betweenEnds.fits = true

theorem anchored?_of_enclosable (h : read? text = some p) (henclosable : Enclosable text p) :
    anchored? text = some p.betweenEnds := by
  obtain ⟨e, flags, he, hp⟩ := read?_eq_some.mp h
  have hparse := Parser.parse_enclose_of_parse henclosable.comments he (henclosable.depth e he)
  have hread : read? (anchoredText text) = some p.betweenEnds := by
    refine read?_eq_some.mpr ⟨Parser.enclosed e, {}, ?_, ?_⟩
    · rw [toList_anchoredText, hparse]
    · rw [Parser.resolve?_enclosed, hp]
      rfl
  rw [anchored?, compile?, hread]
  exact Option.filter_some_pos henclosable.size

end GridPolicy.Pattern
