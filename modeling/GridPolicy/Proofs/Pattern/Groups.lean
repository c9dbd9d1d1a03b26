import GridPolicy.Proofs.Pattern.Signs

/-!
# Reading groups with something behind

The contents of a group are read to the parenthesis that closes it or to the end of the
text. With the closing behind the text the end is the parenthesis of the closing, and a
group that the text leaves open would take that for its own.
-/
namespace GridPolicy.Pattern.Parser

open Reading

variable {quiet : Prop} {verbose : Bool} {cs : List Char}

theorem leaves_readPrimitive (verbose : Bool) (c : Char) (r : List Char) :
    Leaves r (readPrimitive verbose (c :: r)) := by
  unfold readPrimitive
  split
  · exact .none
  · next h =>
    obtain ⟨-, rfl⟩ := List.cons.inj h
    exact leaves_readEscape verbose r
  all_goals
    next h =>
      obtain ⟨-, rfl⟩ := List.cons.inj h
      exact Leaves.some_iff.mpr (List.suffix_refl _)

theorem follows_readPrimitive {c : Char} {r : List Char} (hquiet : quiet → Quiet verbose (c :: r)) :
    Follows quiet (Strays verbose) (readPrimitive verbose (c :: r))
      (readPrimitive verbose (c :: (r ++ closing))) := by
  by_cases hescape : c = '\\'
  · subst hescape
    exact follows_readEscape fun h => (hquiet h).of_suffix (List.suffix_cons _ r)
  have hplain : ∃ item, ∀ s, readPrimitive verbose (c :: s) = some (item, s) := by
    by_cases hdot : c = '.'
    · exact ⟨.dot, fun s => by rw [hdot, readPrimitive]⟩
    by_cases hstart : c = '^'
    · exact ⟨.assertion .lineStart, fun s => by rw [hstart, readPrimitive]⟩
    by_cases hend : c = '$'
    · exact ⟨.assertion .lineEnd, fun s => by rw [hend, readPrimitive]⟩
    · exact ⟨.literal c, fun s => by rw [readPrimitive] <;> assumption⟩
  obtain ⟨item, hitem⟩ := hplain
  rw [hitem, hitem]
  exact .same

/-- The signs that repeat the item before them, and their bounds. -/
def repeatSigns : List (Char × Nat × Option Nat) :=
  [('?', 0, some 1), ('*', 0, none), ('+', 1, none)]

variable {steps : Nat} {names : List String} {branches items : List Expression} {c : Char}
  {r : List Char}

theorem readGroup_repeat {low : Nat} {high : Option Nat} (h : skip verbose cs = c :: r)
    (hsign : (c, low, high) ∈ repeatSigns) :
    readGroup (steps + 1) verbose names branches items cs =
      (repeatLast low high items r).bind fun x =>
        readGroup steps verbose names branches x.1 x.2 := by
  simp only [repeatSigns, List.mem_cons, List.not_mem_nil, or_false, Prod.mk.injEq] at hsign
  rcases hsign with ⟨rfl, rfl, rfl⟩ | ⟨rfl, rfl, rfl⟩ | ⟨rfl, rfl, rfl⟩ <;>
    rw [readGroup, h] <;> simp only
  · cases repeatLast 0 (some 1) items r <;> rfl
  · cases repeatLast 0 none items r <;> rfl
  · cases repeatLast 1 none items r <;> rfl

theorem readGroup_bounds (h : skip verbose cs = '{' :: r) :
    readGroup (steps + 1) verbose names branches items cs =
      (readBounds verbose r).bind fun bounds =>
        (repeatLast bounds.1 bounds.2.1 items (skip verbose bounds.2.2)).bind fun x =>
          readGroup steps verbose names branches x.1 x.2 := by
  rw [readGroup, h]
  simp only
  cases readBounds verbose r with
  | none => rfl
  | some bounds =>
    simp only [Option.bind_some]
    cases repeatLast bounds.1 bounds.2.1 items (skip verbose bounds.2.2) <;> rfl

theorem readGroup_class (h : skip verbose cs = '[' :: r) :
    readGroup (steps + 1) verbose names branches items cs =
      (readClass verbose r).bind fun x =>
        readGroup steps verbose names branches (x.1 :: items) x.2 := by
  rw [readGroup, h]
  simp only
  cases readClass verbose r <;> rfl

/-- Reading on behind the contents of a group, if a parenthesis closes it. -/
def behindContents (steps : Nat) (verbose : Bool) (branches items : List Expression)
    (change : FlagChange) (captures : Bool) (inner : Expression × List String × List Char) :
    Option (Expression × List String × List Char) :=
  match inner.2.2 with
  | ')' :: rest =>
    readGroup steps verbose inner.2.1 branches (.group change captures inner.1 :: items) rest
  | _ => none

/-- Reading on behind an opening parenthesis and what is written for it. -/
def behindOpening (steps : Nat) (verbose : Bool) (names : List String)
    (branches items : List Expression) (opening : Opening × List Char) :
    Option (Expression × List String × List Char) :=
  let verboseBehind := (opening.1.changes.get? .verbose).getD verbose
  match opening.1 with
  | .change change =>
    readGroup steps verboseBehind names branches (.flags change :: items) opening.2
  | .group change name captures =>
    if name.any names.contains then none
    else
      (readGroup steps verboseBehind (name.toList ++ names) [] [] opening.2).bind
        (behindContents steps verbose branches items change captures)

theorem readGroup_opening (h : skip verbose cs = '(' :: r) :
    readGroup (steps + 1) verbose names branches items cs =
      (readOpening verbose r).bind (behindOpening steps verbose names branches items) := by
  rw [readGroup, h]
  simp only
  cases readOpening verbose r with
  | none => rfl
  | some opening =>
    obtain ⟨change | ⟨change, name, captures⟩, left⟩ := opening
    · rfl
    · simp only [Option.bind_some, behindOpening, Opening.changes]
      split
      · rfl
      · cases readGroup steps ((change.get? .verbose).getD verbose) (name.toList ++ names)
          [] [] left with
        | none => rfl
        | some inner =>
          obtain ⟨e, names, left⟩ := inner
          simp only [Option.bind_some, behindContents]
          split
          · next h =>
            cases h
            rfl
          · next hopen =>
            split
            · exact (hopen _ _ _ rfl).elim
            · rfl

theorem readGroup_of_plain (h : skip verbose cs = c :: r)
    (hsign : ¬ ∃ low high, (c, low, high) ∈ repeatSigns)
    (hplain : c ∉ [')', '|', '[', '{', '(']) :
    readGroup (steps + 1) verbose names branches items cs =
      (readPrimitive verbose (c :: r)).bind fun x =>
        readGroup steps verbose names branches (x.1.expression :: items) x.2 := by
  simp only [List.mem_cons, List.not_mem_nil, or_false, not_or] at hplain
  obtain ⟨hclose, hbranch, hclass, hbounds, hopen⟩ := hplain
  have hmaybe : c ≠ '?' := fun hc => hsign ⟨0, some 1, by subst hc; decide⟩
  have hany : c ≠ '*' := fun hc => hsign ⟨0, none, by subst hc; decide⟩
  have hmany : c ≠ '+' := fun hc => hsign ⟨1, none, by subst hc; decide⟩
  rw [readGroup, h]
  split
  · next h => cases h
  · next h => exact absurd (List.cons.inj h).1 hclose
  · next h => exact absurd (List.cons.inj h).1 hbranch
  · next h => exact absurd (List.cons.inj h).1 hclass
  · next h => exact absurd (List.cons.inj h).1 hmaybe
  · next h => exact absurd (List.cons.inj h).1 hany
  · next h => exact absurd (List.cons.inj h).1 hmany
  · next h => exact absurd (List.cons.inj h).1 hbounds
  · next h => exact absurd (List.cons.inj h).1 hopen
  · cases readPrimitive verbose (c :: r) <;> rfl

theorem leaves_readGroup (steps : Nat) (verbose : Bool) (names : List String)
    (branches items : List Expression) (cs : List Char) :
    Leaves cs (readGroup steps verbose names branches items cs) := by
  induction steps generalizing verbose names branches items cs with
  | zero => exact .none
  | succ steps ih =>
    have hskip := skip_suffix verbose cs
    cases h : skip verbose cs with
    | nil =>
      rw [readGroup, h]
      exact Leaves.some_iff.mpr List.nil_suffix
    | cons c r =>
      rw [h] at hskip
      have hr := (List.suffix_cons c r).trans hskip
      by_cases hclose : c = ')'
      · subst hclose
        rw [readGroup, h]
        exact Leaves.some_iff.mpr hskip
      by_cases hbranch : c = '|'
      · subst hbranch
        rw [readGroup, h]
        exact (ih _ _ _ _ r).trans hr
      by_cases hclass : c = '['
      · subst hclass
        rw [readGroup_class h]
        exact .bind ((leaves_readClass verbose r).trans hr) fun x => ih _ _ _ _ _
      by_cases hsign : ∃ low high, (c, low, high) ∈ repeatSigns
      · obtain ⟨low, high, hsign⟩ := hsign
        rw [readGroup_repeat h hsign]
        exact .bind ((leaves_repeatLast low high items r).trans hr) fun x => ih _ _ _ _ _
      by_cases hbounds : c = '{'
      · subst hbounds
        rw [readGroup_bounds h]
        refine .bind ((leaves_readBounds verbose r).trans hr) fun bounds => ?_
        refine .bind ?_ fun x => ih _ _ _ _ _
        exact (leaves_repeatLast _ _ items _).trans (skip_suffix verbose bounds.2.2)
      by_cases hopen : c = '('
      · subst hopen
        rw [readGroup_opening h]
        refine .bind ((leaves_readOpening verbose r).trans hr) ?_
        rintro ⟨change | ⟨change, name, captures⟩, left⟩
        · exact ih _ _ _ _ left
        · unfold behindOpening
          dsimp only
          split
          · exact .none
          · refine .bind (ih _ _ _ _ left) ?_
            rintro ⟨inner, names, left⟩
            unfold behindContents
            dsimp only
            split
            · exact (ih _ _ _ _ _).trans (List.suffix_cons _ _)
            · exact .none
      rw [readGroup_of_plain h hsign (by simp [hclose, hbranch, hclass, hbounds, hopen])]
      exact .bind ((leaves_readPrimitive verbose c r).trans hr) fun x => ih _ _ _ _ _

/-- Behind a boundary that hangs there is a brace without bounds. -/
theorem readGroup_of_hanging (h : Hanging verbose cs) :
    readGroup steps verbose names branches items cs = none := by
  obtain ⟨s, rfl, hs⟩ := h
  cases steps with
  | zero => rfl
  | succ steps =>
    have hskip : skip verbose ('{' :: s) = '{' :: s := by cases verbose <;> rfl
    rw [readGroup_bounds hskip, readBounds_of_closing hs]
    rfl

/-- No comment is open at the end of the text, nor would one be if verbose mode were
switched on within it. -/
structure Calm (verbose : Bool) (cs : List Char) : Prop where
  quiet : Quiet verbose cs
  switched : 'x' ∈ cs → Quiet true cs

namespace Calm

theorem of_suffix {s : List Char} (h : Calm verbose cs) (hs : s <:+ cs) : Calm verbose s where
  quiet := h.quiet.of_suffix hs
  switched hx := (h.switched (hs.subset hx)).of_suffix hs

/-- Flags are changed for what stands behind the change. -/
theorem of_opening {x : Opening × List Char} (h : Calm verbose cs)
    (hx : readOpening verbose cs = some x) :
    Calm ((x.1.changes.get? .verbose).getD verbose) x.2 := by
  have hsuffix : x.2 <:+ cs := leaves_readOpening verbose cs x hx
  refine ⟨?_, fun hmem => (h.switched (hsuffix.subset hmem)).of_suffix hsuffix⟩
  cases hchange : x.1.changes.get? .verbose with
  | none => exact h.quiet.of_suffix hsuffix
  | some on =>
    cases on with
    | false => nofun
    | true =>
      obtain ⟨⟨flag, on⟩, hfind, rfl⟩ := Option.map_eq_some_iff.mp hchange
      obtain rfl : flag = .verbose := by simpa using List.find?_some hfind
      have hletter := mem_of_verbose_mem_readOpening hx (List.mem_of_find?_eq_some hfind)
      exact (h.switched hletter).of_suffix hsuffix

end Calm

theorem lost_of_readGroup {z : Expression × List String × List Char} (hlost : Lost cs)
    (h : readGroup steps verbose names branches items cs = some z) : Lost (rest z) :=
  hlost.of_suffix (leaves_readGroup steps verbose names branches items cs z h)

/-- A parenthesis that closes a group is not found behind the closing's own. -/
theorem behindContents_of_lost {change : FlagChange} {captures : Bool}
    {inner : Expression × List String × List Char} (h : Lost inner.2.2) :
    behindContents steps verbose branches items change captures inner = none := by
  unfold behindContents
  split
  · next heq => exact absurd heq (h.ne_cons (by decide))
  · rfl

theorem lost_of_behindOpening {opening : Opening × List Char}
    {z : Expression × List String × List Char} (hlost : Lost opening.2)
    (h : behindOpening steps verbose names branches items opening = some z) : Lost (rest z) := by
  obtain ⟨change | ⟨change, name, captures⟩, left⟩ := opening
  · exact lost_of_readGroup hlost h
  · unfold behindOpening at h
    dsimp only at h
    split at h
    · cases h
    · obtain ⟨inner, hinner, h⟩ := Option.bind_eq_some_iff.mp h
      cases h.symm.trans (behindContents_of_lost (lost_of_readGroup hlost hinner))

/-- What is left of the text `r` is read alike with `n` and, with the closing behind it,
with `m` steps. -/
def AlikeBehind (quiet : Prop) (n m : Nat) (r : List Char) : Prop :=
  ∀ {s : List Char} {verbose : Bool}, s <:+ r → (quiet → Calm verbose s) →
    ∀ names branches items, Follows quiet Past (readGroup n verbose names branches items s)
      (readGroup m verbose names branches items (s ++ closing))

section Behind

variable {n m : Nat}

theorem follows_behindBounds (halike : AlikeBehind quiet n m r) (hr : quiet → Calm verbose r)
    (names : List String) (branches items : List Expression) {bounds : Nat × Option Nat × List Char}
    (hbounds : readBounds verbose r = some bounds) :
    Follows quiet Past
      ((repeatLast bounds.1 bounds.2.1 items (skip verbose bounds.2.2)).bind fun x =>
        readGroup n verbose names branches x.1 x.2)
      ((repeatLast bounds.1 bounds.2.1 items (skip verbose (bounds.2.2 ++ closing))).bind fun x =>
        readGroup m verbose names branches x.1 x.2) := by
  have hleft : bounds.2.2 <:+ r := leaves_readBounds verbose r bounds hbounds
  have hrepeat : Follows quiet Past (repeatLast bounds.1 bounds.2.1 items (skip verbose bounds.2.2))
      (repeatLast bounds.1 bounds.2.1 items (skip verbose (bounds.2.2 ++ closing))) := by
    refine .of_skip_past (f := repeatLast bounds.1 bounds.2.1 items)
      (g := repeatLast bounds.1 bounds.2.1 items) (fun h => (hr h).quiet.of_suffix hleft) ?_
      (leaves_repeatLast _ _ _ _)
    exact .inl (repeatLast_append _ _ _ _)
  refine .bind hrepeat ?_ fun y hy z hz => lost_of_readGroup hy hz
  intro x hx
  have hafter : x.2 <:+ r :=
    (leaves_repeatLast _ _ _ _ x hx).trans ((skip_suffix verbose _).trans hleft)
  exact halike hafter (fun h => (hr h).of_suffix hafter) _ _ _

/-- A group that the text leaves open takes the parenthesis of the closing, and alone it is
refused. -/
theorem follows_behindContents (halike : AlikeBehind quiet n m r) (hr : quiet → Calm verbose r)
    (branches items : List Expression) (change : FlagChange) (captures : Bool)
    {inner : Expression × List String × List Char} (hinner : inner.2.2 <:+ r) :
    Follows quiet Past (behindContents n verbose branches items change captures inner)
      (behindContents m verbose branches items change captures (extend inner)) := by
  obtain ⟨e, names, left⟩ := inner
  cases left with
  | nil => exact .inr ⟨fun _ => rfl, fun z hz => lost_of_readGroup lost_dollar hz⟩
  | cons d s =>
    by_cases hd : d = ')'
    · subst hd
      have hs := (List.suffix_cons _ s).trans hinner
      exact halike hs (fun h => (hr h).of_suffix hs) _ _ _
    · have hplain (steps : Nat) (s : List Char) : behindContents steps verbose branches items
          change captures (e, names, d :: s) = none := by
        unfold behindContents
        split
        · next h => exact absurd (List.cons.inj h).1 hd
        · rfl
      rw [extend_pair, extend_pair, extend_chars, List.cons_append, hplain, hplain]
      exact .failed

theorem follows_behindOpening (halike : AlikeBehind quiet n m r) (hr : quiet → Calm verbose r)
    (names : List String) (branches items : List Expression) {opening : Opening × List Char}
    (hopening : readOpening verbose r = some opening) :
    Follows quiet Past (behindOpening n verbose names branches items opening)
      (behindOpening m verbose names branches items (extend opening)) := by
  have hleft := leaves_readOpening verbose r opening hopening
  have hbehind : quiet → Calm ((opening.1.changes.get? .verbose).getD verbose) opening.2 :=
    fun h => (hr h).of_opening hopening
  obtain ⟨change | ⟨change, name, captures⟩, left⟩ := opening
  · exact halike hleft hbehind _ _ _
  · unfold behindOpening
    dsimp only [extend_pair, extend_chars]
    split
    · exact .failed
    · refine .bind (halike hleft hbehind _ _ _) ?_ ?_
      · intro inner hinner
        refine follows_behindContents halike hr branches items change captures ?_
        exact (leaves_readGroup _ _ _ _ _ _ inner hinner).trans hleft
      · intro inner hlost z hz
        cases hz.symm.trans (behindContents_of_lost hlost)

end Behind

/-- The contents of a group are read alike, or the closing is read with them. In the second
case no parenthesis is left, so that a group around the text stays open. -/
theorem follows_readGroup {n m : Nat} (hn : cs.length < n) (hm : cs.length + 2 < m)
    (names : List String) (branches items : List Expression) (hcalm : quiet → Calm verbose cs) :
    Follows quiet Past (readGroup n verbose names branches items cs)
      (readGroup m verbose names branches items (cs ++ closing)) := by
  induction n generalizing verbose names branches items cs m with
  | zero => omega
  | succ n ih =>
    obtain ⟨m, rfl⟩ : ∃ k, m = k + 1 := ⟨m - 1, by omega⟩
    have hquiet : quiet → Quiet verbose cs := fun h => (hcalm h).quiet
    have hsuffix := skip_suffix verbose cs
    rcases skip_append hquiet with hskip | ⟨hnot, hskip⟩
    · cases h : skip verbose cs with
      | nil =>
        rw [h, List.nil_append] at hskip
        rw [readGroup, readGroup, h, hskip]
        exact .same
      | cons c r =>
        rw [h] at hsuffix
        rw [h, List.cons_append] at hskip
        have hr : quiet → Calm verbose r :=
          fun h => (hcalm h).of_suffix ((List.suffix_cons c r).trans hsuffix)
        -- every part read takes a character, so the steps suffice for what is left
        have halike : AlikeBehind quiet n m r := by
          intro s verbose hs hcalm names branches items
          have hlength := hsuffix.length_le
          have hshorter := hs.length_le
          rw [List.length_cons] at hlength
          exact ih (by omega) (by omega) names branches items hcalm
        have hless {s : List Char} (hs : s <:+ r) := halike hs fun h => (hr h).of_suffix hs
        by_cases hclose : c = ')'
        · subst hclose
          rw [readGroup, readGroup, h, hskip]
          exact .same
        by_cases hbranch : c = '|'
        · subst hbranch
          rw [readGroup, readGroup, h, hskip]
          exact hless (List.suffix_refl r) _ _ _
        by_cases hclass : c = '['
        · subst hclass
          rw [readGroup_class h, readGroup_class hskip]
          refine .bind_within (follows_readClass fun h => (hr h).quiet) ?_
          exact fun x hx => hless (leaves_readClass verbose r x hx) _ _ _
        by_cases hsign : ∃ low high, (c, low, high) ∈ repeatSigns
        · obtain ⟨low, high, hsign⟩ := hsign
          rw [readGroup_repeat h hsign, readGroup_repeat hskip hsign, repeatLast_append]
          refine .bind_within (.inl rfl) ?_
          exact fun x hx => hless (leaves_repeatLast low high items r x hx) _ _ _
        by_cases hbounds : c = '{'
        · subst hbounds
          rw [readGroup_bounds h, readGroup_bounds hskip]
          refine .bind_within (follows_readBounds fun h => (hr h).quiet) ?_
          exact fun bounds => follows_behindBounds halike hr names branches items
        by_cases hopen : c = '('
        · subst hopen
          rw [readGroup_opening h, readGroup_opening hskip]
          refine .bind (follows_readOpening fun h => (hr h).quiet) ?_ ?_
          · exact fun opening => follows_behindOpening halike hr names branches items
          · exact fun opening hlost z => lost_of_behindOpening hlost
        have hplain : c ∉ [')', '|', '[', '{', '('] := by
          simp [hclose, hbranch, hclass, hbounds, hopen]
        rw [readGroup_of_plain h hsign hplain, readGroup_of_plain hskip hsign hplain]
        refine .bind (follows_readPrimitive fun h => (hquiet h).of_suffix hsuffix) ?_ ?_
        · exact fun x hx => hless (leaves_readPrimitive verbose c r x hx) _ _ _
        · rintro y (hlost | ⟨-, hhanging⟩) z hz
          · exact lost_of_readGroup hlost hz
          · cases hz.symm.trans (readGroup_of_hanging hhanging)
    · refine .of_not hnot ?_
      rw [readGroup, hskip]
      rintro y ⟨⟩
      exact Lost.nil

end GridPolicy.Pattern.Parser
