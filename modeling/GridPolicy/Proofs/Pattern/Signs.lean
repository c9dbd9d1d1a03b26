import GridPolicy.Proofs.Pattern.Classes

/-!
# Reading signs with something behind

The bounds of a repetition end with a brace, the name of a group with an angle bracket,
and neither is in the closing. Only a change of flags may end with its parenthesis, and
what changes flags by itself is no group.
-/
namespace GridPolicy.Pattern.Parser

open Reading

variable {quiet : Prop} {verbose : Bool} {cs : List Char}

section Repetitions

theorem dropWhile_blank_append (cs : List Char) : (cs ++ closing).dropWhile Text.isBlank =
    cs.dropWhile Text.isBlank ++ closing := by
  rw [List.dropWhile_append]
  split
  · next h =>
    rw [List.isEmpty_iff.mp h]
    decide
  · rfl

theorem leaves_readCount (verbose : Bool) (cs : List Char) :
    Leaves cs (readCount verbose cs) := by
  have htaken := leaves_takeKind verbose Char.isDigit (cs.length + 1) (cs.dropWhile Text.isBlank)
    _ rfl
  unfold readCount
  generalize takeKind verbose Char.isDigit (cs.length + 1) (cs.dropWhile Text.isBlank) = taken
    at htaken
  obtain ⟨digits, left⟩ := taken
  dsimp only
  split
  · exact .none
  · refine Leaves.some_iff.mpr ?_
    exact ((List.dropWhile_suffix _).trans htaken).trans (List.dropWhile_suffix _)

theorem follows_readCount (hquiet : quiet → Quiet verbose cs) :
    Follows quiet Past (readCount verbose cs)
      (readCount verbose (cs ++ closing)) := by
  have hblank := List.dropWhile_suffix (l := cs) Text.isBlank
  have hlength := hblank.length_le
  have hdropped : quiet → Quiet verbose (cs.dropWhile Text.isBlank) :=
    fun h => (hquiet h).of_suffix hblank
  have htaken := follows_takeKind (n := cs.length + 1) (m := (cs ++ closing).length + 1)
    (show Char.isDigit ')' = false by decide) (by omega) (by simp [closing]; omega) hdropped
  unfold readCount
  rw [dropWhile_blank_append]
  rcases htaken.some_cases with hsame | ⟨hnot, hlost⟩
  · rw [hsame]
    generalize takeKind verbose Char.isDigit (cs.length + 1) (cs.dropWhile Text.isBlank) = taken
    obtain ⟨digits, left⟩ := taken
    dsimp only [extend_pair, extend_chars]
    split
    · exact .failed
    · rw [dropWhile_blank_append]
      exact .same
  · generalize takeKind verbose Char.isDigit _ (cs.dropWhile Text.isBlank ++ closing) = taken
      at hlost
    obtain ⟨digits, left⟩ := taken
    refine .of_not hnot ?_
    dsimp only
    split
    · rintro y ⟨⟩
    · rintro y ⟨⟩
      exact hlost.of_suffix (List.dropWhile_suffix _)

theorem leaves_readUpperBound (verbose : Bool) (low : Nat) (cs : List Char) :
    Leaves cs (readUpperBound verbose low cs) := by
  have hskip := skip_suffix verbose cs
  unfold readUpperBound
  generalize skip verbose cs = ds at hskip
  split
  · next r => exact Leaves.some_iff.mpr ((List.suffix_cons _ r).trans hskip)
  · refine .bind ((leaves_readCount verbose ds).trans hskip) ?_
    rintro ⟨high, left⟩
    dsimp only
    split
    · split
      · exact Leaves.some_iff.mpr (List.suffix_cons _ _)
      · exact .none
    · exact .none

theorem follows_readUpperBound (low : Nat) (hquiet : quiet → Quiet verbose cs) :
    Follows quiet (fun _ => False) (readUpperBound verbose low cs)
      (readUpperBound verbose low (cs ++ closing)) := by
  have hsuffix := skip_suffix verbose cs
  unfold readUpperBound
  rcases skip_append hquiet with hskip | ⟨hnot, hskip⟩ <;> rw [hskip]
  · generalize skip verbose cs = ds at hsuffix
    split
    · exact .same
    · next hbrace =>
      split
      · next h => exact absurd h (append_ne_cons (by decide) hbrace _)
      · refine .bind (follows_readCount fun h => (hquiet h).of_suffix hsuffix) ?_ ?_
        · rintro ⟨high, left⟩ -
          dsimp only [extend_pair, extend_chars]
          split
          · simp only [List.cons_append]
            split
            · exact .same
            · exact .failed
          · next hopen =>
            split
            · next h => exact absurd h (append_ne_cons (by decide) hopen _)
            · exact .failed
        · rintro ⟨high, left⟩ hlost z hz
          dsimp only at hz
          split at hz
          · exact hlost.ne_cons (by decide) rfl
          · cases hz
  · exact .none_of_not hnot

theorem leaves_readBounds (verbose : Bool) (cs : List Char) :
    Leaves cs (readBounds verbose cs) := by
  have hskip := skip_suffix verbose cs
  unfold readBounds
  refine .bind ((leaves_readCount verbose _).trans hskip) ?_
  rintro ⟨low, left⟩
  dsimp only
  split
  · exact Leaves.some_iff.mpr (List.suffix_cons _ _)
  · next r => exact (leaves_readUpperBound verbose low r).trans (List.suffix_cons _ r)
  · exact .none

theorem follows_readBounds (hquiet : quiet → Quiet verbose cs) :
    Follows quiet (fun _ => False) (readBounds verbose cs)
      (readBounds verbose (cs ++ closing)) := by
  have hsuffix := skip_suffix verbose cs
  have hskipped : quiet → Quiet verbose (skip verbose cs) :=
    fun h => (hquiet h).of_suffix hsuffix
  unfold readBounds
  refine .bind (.of_skip_past hquiet (follows_readCount hskipped) (leaves_readCount _ _)) ?_ ?_
  · rintro ⟨low, left⟩ hcount
    have hleft : quiet → Quiet verbose left :=
      fun h => (hskipped h).of_suffix (leaves_readCount verbose _ _ hcount)
    dsimp only [extend_pair, extend_chars]
    split
    · exact .same
    · next r => exact follows_readUpperBound low fun h => (hleft h).of_suffix (List.suffix_cons _ r)
    · next hbrace hcomma =>
      split
      · next h => exact absurd h (append_ne_cons (by decide) hbrace _)
      · next h => exact absurd h (append_ne_cons (by decide) hcomma _)
      · exact .failed
  · rintro ⟨low, left⟩ hlost z hz
    dsimp only at hz
    split at hz
    · exact hlost.ne_cons (by decide) rfl
    · exact hlost.ne_cons (by decide) rfl
    · cases hz

/-- There are no bounds between a brace and the closing. -/
theorem readBounds_of_closing (h : skip verbose cs = closing) : readBounds verbose cs = none := by
  unfold readBounds
  rw [h]
  cases verbose <;> decide

theorem leaves_repeatLast (low : Nat) (high : Option Nat) (items : List Expression)
    (cs : List Char) : Leaves cs (repeatLast low high items cs) := by
  have hgreed : (readGreed cs).2 <:+ cs := by
    unfold readGreed
    split
    · exact List.suffix_cons _ _
    · exact List.suffix_refl _
  unfold repeatLast
  dsimp only
  split
  · exact .none
  · exact .none
  · exact .none
  · exact Leaves.some_iff.mpr hgreed

theorem repeatLast_append (low : Nat) (high : Option Nat) (items : List Expression)
    (cs : List Char) :
    repeatLast low high items (cs ++ closing) = (repeatLast low high items cs).map extend := by
  have hgreed : readGreed (cs ++ closing) = extend (readGreed cs) := by
    cases cs with
    | nil => rfl
    | cons c r =>
      by_cases hc : c = '?'
      · subst hc
        rfl
      · rw [List.cons_append, readGreed, readGreed]
        · rfl
        all_goals exact fun _ h => hc (List.cons.inj h).1
  unfold repeatLast
  rw [hgreed]
  dsimp only [extend_pair, extend_chars]
  split <;> rfl

end Repetitions

section Openings

/-- A change of flags goes on with a flag, or it ends, or it is none. -/
theorem readFlags_of_flag {seen : FlagChange} {on hanging : Bool} {c : Char} {r : List Char}
    (hclose : c ≠ ')') (hcolon : c ≠ ':') (hminus : c ≠ '-') :
    readFlags seen on hanging (c :: r) =
      (flag? c).bind fun flag =>
        if seen.any fun item => item.1 == flag then none
        else readFlags ((flag, on) :: seen) on false r := by
  rw [readFlags]
  · cases flag? c <;> rfl
  all_goals assumption

theorem leaves_readFlags (seen : FlagChange) (on hanging : Bool) (cs : List Char) :
    Leaves cs (readFlags seen on hanging cs) := by
  induction cs generalizing seen on hanging with
  | nil => exact .none
  | cons c r ih =>
    have hr := List.suffix_cons c r
    have hend (grouped : Bool) : Leaves (c :: r)
        (if hanging then none else some (seen.reverse, grouped, r)) := by
      split
      · exact .none
      · exact Leaves.some_iff.mpr hr
    by_cases hclose : c = ')'
    · subst hclose
      exact hend false
    by_cases hcolon : c = ':'
    · subst hcolon
      exact hend true
    by_cases hminus : c = '-'
    · subst hminus
      rw [readFlags]
      split
      · exact (ih seen false true).trans hr
      · exact .none
    rw [readFlags_of_flag hclose hcolon hminus]
    refine .bind_value fun flag => ?_
    split
    · exact .none
    · exact (ih _ _ _).trans hr

theorem follows_readFlags (seen : FlagChange) (on hanging : Bool) (cs : List Char) :
    Follows quiet Past (readFlags seen on hanging cs)
      (readFlags seen on hanging (cs ++ closing)) := by
  induction cs generalizing seen on hanging with
  | nil =>
    refine .inr ⟨fun _ => rfl, ?_⟩
    cases hanging with
    | true => nofun
    | false =>
      rintro y ⟨⟩
      exact lost_dollar
  | cons c r ih =>
    rw [List.cons_append]
    by_cases hclose : c = ')'
    · subst hclose
      cases hanging with
      | true => exact .failed
      | false => exact .same
    by_cases hcolon : c = ':'
    · subst hcolon
      cases hanging with
      | true => exact .failed
      | false => exact .same
    by_cases hminus : c = '-'
    · subst hminus
      rw [readFlags, readFlags]
      split
      · exact ih seen false true
      · exact .failed
    rw [readFlags_of_flag hclose hcolon hminus, readFlags_of_flag hclose hcolon hminus]
    refine .bind_value fun flag => ?_
    split
    · exact .failed
    · exact ih _ _ _

/-- Verbose mode is only switched on where its letter stands. -/
theorem mem_of_verbose_mem_readFlags {seen change : FlagChange} {on hanging grouped : Bool}
    {left : List Char} (h : readFlags seen on hanging cs = some (change, grouped, left))
    (hmem : (Flag.verbose, true) ∈ change) : (Flag.verbose, true) ∈ seen ∨ 'x' ∈ cs := by
  induction cs generalizing seen on hanging with
  | nil => cases h
  | cons c r ih =>
    have hend {ended : Bool} (h : (if hanging then none else some (seen.reverse, ended, r)) =
        some (change, grouped, left)) : (Flag.verbose, true) ∈ seen ∨ 'x' ∈ c :: r := by
      split at h
      · cases h
      · obtain ⟨rfl, -⟩ := Prod.mk.inj (Option.some.inj h)
        exact .inl (List.mem_reverse.mp hmem)
    by_cases hclose : c = ')'
    · subst hclose
      exact hend h
    by_cases hcolon : c = ':'
    · subst hcolon
      exact hend h
    by_cases hminus : c = '-'
    · subst hminus
      rw [readFlags] at h
      split at h
      · exact (ih h).imp_right (List.mem_cons_of_mem _)
      · cases h
    rw [readFlags_of_flag hclose hcolon hminus] at h
    obtain ⟨flag, hflag, h⟩ := Option.bind_eq_some_iff.mp h
    split at h
    · cases h
    rcases ih h with hseen | hr
    · rcases List.mem_cons.mp hseen with heq | hseen
      · obtain ⟨rfl, -⟩ := Prod.mk.inj heq
        have hx : c = 'x' := by
          unfold flag? at hflag
          split at hflag <;> first | rfl | cases hflag
        exact .inr (hx ▸ List.mem_cons_self)
      · exact .inl hseen
    · exact .inr (List.mem_cons_of_mem _ hr)

theorem leaves_readGroupName (cs : List Char) : Leaves cs (readGroupName cs) := by
  have hbracket := List.dropWhile_suffix (l := cs) fun c => c != '>'
  unfold readGroupName
  dsimp only
  generalize cs.dropWhile (fun c => c != '>') = ds at hbracket
  split
  · split
    · exact Leaves.some_iff.mpr ((List.suffix_cons _ _).trans hbracket)
    · exact .none
  · exact .none

theorem readGroupName_append (cs : List Char) :
    readGroupName (cs ++ closing) = (readGroupName cs).map extend := by
  unfold readGroupName
  dsimp only
  rcases cut_append (show '>' ∉ closing by decide) cs with
    ⟨halone, hbehind⟩ | ⟨s, halone, hbehind, hname⟩
  · rw [halone, hbehind]
    split
    · next h => cases h
    · split
      · next h => cases h
      · rfl
  · rw [halone, hbehind, hname]
    cases cs.takeWhile (fun c => c != '>') with
    | nil => rfl
    | cons c r =>
      simp only
      split <;> rfl

theorem leaves_readNamed (cs : List Char) : Leaves cs (readNamed cs) :=
  .map (leaves_readGroupName cs) fun _ => rfl

theorem readNamed_append (cs : List Char) :
    readNamed (cs ++ closing) = (readNamed cs).map extend := by
  unfold readNamed
  rw [readGroupName_append]
  cases readGroupName cs <;> rfl

/-- The flags that an opening changes. -/
def Opening.changes : Opening → FlagChange
  | change flags => flags
  | group flags _ _ => flags

theorem of_flagOpening_eq_some {x : FlagChange × Bool × List Char} {y : Opening × List Char}
    (h : flagOpening x = some y) : y.1.changes = x.1 ∧ y.2 = x.2.2 := by
  obtain ⟨change, grouped, left⟩ := x
  unfold flagOpening at h
  split at h
  · next hx =>
    cases hx
    cases h
    exact ⟨rfl, rfl⟩
  · cases h
  · next hx =>
    cases hx
    cases h
    exact ⟨rfl, rfl⟩

theorem flagOpening_extend (x : FlagChange × Bool × List Char) :
    flagOpening (extend x) = (flagOpening x).map extend := by
  obtain ⟨change, grouped, left⟩ := x
  cases grouped with
  | true => rfl
  | false => cases change <;> rfl

/-- Behind the question mark there is nothing that is supported, a name or a change of
flags. Which of them it is, the text decides without the closing. -/
theorem readMarked_cases (cs : List Char) :
    (readMarked cs = none ∧ readMarked (cs ++ closing) = none) ∨
    (∃ ds, ds <:+ cs ∧ readMarked cs = readNamed ds ∧
      readMarked (cs ++ closing) = readNamed (ds ++ closing)) ∨
    (readMarked cs = (readFlags [] true false cs).bind flagOpening ∧
      readMarked (cs ++ closing) = (readFlags [] true false (cs ++ closing)).bind flagOpening) := by
  cases cs with
  | nil => exact .inr (.inr ⟨rfl, rfl⟩)
  | cons c r =>
    by_cases hahead : c = '='
    · subst hahead
      exact .inl ⟨rfl, rfl⟩
    by_cases hnot : c = '!'
    · subst hnot
      exact .inl ⟨rfl, rfl⟩
    by_cases hname : c = '<'
    · subst hname
      cases r with
      | nil => exact .inr (.inl ⟨[], List.nil_suffix, rfl, rfl⟩)
      | cons d s =>
        by_cases hahead : d = '='
        · subst hahead
          exact .inl ⟨rfl, rfl⟩
        by_cases hnot : d = '!'
        · subst hnot
          exact .inl ⟨rfl, rfl⟩
        refine .inr (.inl ⟨d :: s, List.suffix_cons _ _, ?_, ?_⟩)
        · rw [readMarked] <;> simpa
        · rw [List.cons_append, List.cons_append, readMarked] <;> simpa
    by_cases hlong : ∃ s, c = 'P' ∧ r = '<' :: s
    · obtain ⟨s, rfl, rfl⟩ := hlong
      refine .inr (.inl ⟨s, ?_, rfl, rfl⟩)
      exact (List.suffix_cons _ s).trans (List.suffix_cons _ _)
    · have hshort : ∀ s, c = 'P' → r ≠ '<' :: s := fun s hc hr => hlong ⟨s, hc, hr⟩
      have hbehind : ∀ s, c = 'P' → r ++ closing ≠ '<' :: s :=
        fun s hc => append_ne_cons (by decide) (fun t => hshort t hc) s
      refine .inr (.inr ⟨?_, ?_⟩)
      · rw [readMarked] <;> simp [hahead, hnot, hname]
        exact hshort
      · rw [List.cons_append, readMarked] <;> simp [hahead, hnot, hname]
        exact hbehind

theorem leaves_readMarked (cs : List Char) : Leaves cs (readMarked cs) := by
  rcases readMarked_cases cs with ⟨h, -⟩ | ⟨ds, hds, h, -⟩ | ⟨h, -⟩ <;> rw [h]
  · exact .none
  · exact (leaves_readNamed ds).trans hds
  · refine .bind (leaves_readFlags [] true false cs) fun x y hy => ?_
    rw [rest_pair, rest_chars, (of_flagOpening_eq_some hy).2]
    exact List.suffix_refl _

theorem follows_readMarked (cs : List Char) :
    Follows quiet Past (readMarked cs) (readMarked (cs ++ closing)) := by
  rcases readMarked_cases cs with ⟨h, hbehind⟩ | ⟨ds, -, h, hbehind⟩ | ⟨h, hbehind⟩ <;>
    rw [h, hbehind]
  · exact .failed
  · rw [readNamed_append]
    exact .inl rfl
  · refine .bind (follows_readFlags [] true false cs) ?_ ?_
    · intro x _
      rw [flagOpening_extend]
      exact .inl rfl
    · intro y hlost z hz
      have hrest : rest z = rest y := (of_flagOpening_eq_some hz).2
      rwa [Past, hrest]

theorem mem_of_verbose_mem_readMarked {x : Opening × List Char} (h : readMarked cs = some x)
    (hmem : (Flag.verbose, true) ∈ x.1.changes) : 'x' ∈ cs := by
  rcases readMarked_cases cs with ⟨hmarked, -⟩ | ⟨ds, -, hmarked, -⟩ | ⟨hmarked, -⟩ <;>
    rw [hmarked] at h
  · cases h
  · obtain ⟨named, -, rfl⟩ := Option.map_eq_some_iff.mp h
    cases hmem
  · obtain ⟨⟨change, grouped, left⟩, hflags, hx⟩ := Option.bind_eq_some_iff.mp h
    rw [(of_flagOpening_eq_some hx).1] at hmem
    exact (mem_of_verbose_mem_readFlags hflags hmem).resolve_left List.not_mem_nil

theorem leaves_readOpening (verbose : Bool) (cs : List Char) :
    Leaves cs (readOpening verbose cs) := by
  have hskip := skip_suffix verbose cs
  unfold readOpening
  generalize skip verbose cs = ds at hskip
  split
  · next r => exact (leaves_readMarked r).trans ((List.suffix_cons _ r).trans hskip)
  · exact Leaves.some_iff.mpr hskip

theorem follows_readOpening (hquiet : quiet → Quiet verbose cs) :
    Follows quiet Past (readOpening verbose cs)
      (readOpening verbose (cs ++ closing)) := by
  unfold readOpening
  rcases skip_append hquiet with hskip | ⟨hnot, hskip⟩ <;> rw [hskip]
  · generalize skip verbose cs = ds
    split
    · exact follows_readMarked _
    · next hmark =>
      split
      · next h => exact absurd h (append_ne_cons (by decide) hmark _)
      · exact .same
  · refine .of_not hnot ?_
    rintro y ⟨⟩
    exact Lost.nil

theorem mem_of_verbose_mem_readOpening {x : Opening × List Char}
    (h : readOpening verbose cs = some x) (hmem : (Flag.verbose, true) ∈ x.1.changes) :
    'x' ∈ cs := by
  have hskip := skip_suffix verbose cs
  unfold readOpening at h
  split at h
  · next r hr =>
    rw [hr] at hskip
    exact hskip.subset (List.mem_cons_of_mem _ (mem_of_verbose_mem_readMarked h hmem))
  · obtain rfl := Option.some.inj h
    cases hmem

end Openings

end GridPolicy.Pattern.Parser
