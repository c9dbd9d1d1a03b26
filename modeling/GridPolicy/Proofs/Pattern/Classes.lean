import GridPolicy.Proofs.Pattern.Escapes

/-!
# Reading classes with something behind

A class ends with its own bracket, and there is none in the closing. So a class that is
read with the closing behind the text ends within the text.
-/
namespace GridPolicy.Pattern.Parser

open Reading

variable {quiet : Prop} {verbose : Bool} {cs : List Char}

section Ranges

theorem leaves_readSetItem (verbose : Bool) (c : Char) (r : List Char) :
    Leaves r (readSetItem verbose (c :: r)) := by
  unfold readSetItem
  split
  · exact .none
  · next r' h =>
    obtain ⟨-, rfl⟩ := List.cons.inj h
    exact leaves_readEscape verbose r
  · next h =>
    obtain ⟨-, rfl⟩ := List.cons.inj h
    exact Leaves.some_iff.mpr (List.suffix_refl _)

theorem follows_readSetItem (hquiet : quiet → Quiet verbose cs) :
    Follows quiet (Strays verbose) (readSetItem verbose cs)
      (readSetItem verbose (cs ++ closing)) := by
  cases cs with
  | nil =>
    refine .inr ⟨fun _ => rfl, ?_⟩
    rintro y ⟨⟩
    exact .inl lost_dollar
  | cons c r =>
    by_cases hescape : c = '\\'
    · subst hescape
      exact follows_readEscape fun h => (hquiet h).of_suffix (List.suffix_cons _ r)
    · rw [List.cons_append, readSetItem, readSetItem]
      · exact .same
      · exact hescape
      · exact hescape

theorem leaves_readSetItem_self (verbose : Bool) (cs : List Char) :
    Leaves cs (readSetItem verbose cs) := by
  cases cs with
  | nil => exact .none
  | cons c r => exact (leaves_readSetItem verbose c r).trans (List.suffix_cons c r)

theorem leaves_readRangeEnd (verbose : Bool) (first : Primitive) (cs : List Char) :
    Leaves cs (readRangeEnd verbose first cs) := by
  have hskip := skip_suffix verbose cs
  unfold readRangeEnd
  generalize skip verbose cs = ds at hskip
  split
  · exact .none
  · next s =>
    split
    · exact .bind_value fun item => Leaves.some_iff.mpr hskip
    · have hs : skip verbose s <:+ cs :=
        (skip_suffix verbose s).trans ((List.suffix_cons _ s).trans hskip)
      refine .bind ((leaves_readSetItem_self verbose _).trans hs) ?_
      rintro ⟨last, after⟩
      refine .bind_value fun a => .bind_value fun b => ?_
      split
      · exact Leaves.some_iff.mpr (List.suffix_refl _)
      · exact .none
  · exact .bind_value fun item => Leaves.some_iff.mpr hskip

/-- An assertion is no item of a class. -/
theorem readRangeEnd_assertion (verbose : Bool) (kind : Assertion) (cs : List Char) :
    readRangeEnd verbose (.assertion kind) cs = none := by
  unfold readRangeEnd
  split
  · rfl
  · split
    · rfl
    · cases readSetItem verbose _ <;> rfl
  · rfl

theorem leaves_readSetRange (verbose : Bool) (c : Char) (r : List Char) :
    Leaves r (readSetRange verbose (c :: r)) := by
  unfold readSetRange
  refine .bind (leaves_readSetItem verbose c r) ?_
  rintro ⟨first, left⟩
  exact leaves_readRangeEnd verbose first left

/-- An item that strays into the closing leaves no bracket that ends the class. -/
theorem not_mem_of_strays {y : Primitive × List Char} (h : Strays verbose y)
    (hitem : ∀ kind, y.1 ≠ .assertion kind) : ']' ∉ y.2 := by
  rcases h with hlost | ⟨⟨kind, hkind⟩, -⟩
  · exact hlost.not_mem (by decide)
  · exact absurd hkind (hitem kind)

theorem follows_readRangeEnd (first : Primitive) (hquiet : quiet → Quiet verbose cs) :
    Follows quiet (fun y => ']' ∉ rest y) (readRangeEnd verbose first cs)
      (readRangeEnd verbose first (cs ++ closing)) := by
  have hsuffix := skip_suffix verbose cs
  unfold readRangeEnd
  rcases skip_append hquiet with hskip | ⟨hnot, hskip⟩ <;> rw [hskip]
  · generalize skip verbose cs = ds at hsuffix
    split
    · refine .inr ⟨fun _ => rfl, fun z hz => ?_⟩
      obtain ⟨item, -, hitem⟩ := Option.bind_eq_some_iff.mp hz
      obtain rfl := Option.some.inj hitem
      exact (by decide : ']' ∉ closing)
    · next r =>
      have hr : quiet → Quiet verbose r :=
        fun h => (hquiet h).of_suffix ((List.suffix_cons _ r).trans hsuffix)
      simp only [List.cons_append, peek_append (show ']' ≠ ')' by decide) (by decide) (by decide),
        peek_append (show '-' ≠ ')' by decide) (by decide) (by decide)]
      split
      · exact .bind_value fun item => .same
      · have hlast : Follows quiet (Strays verbose) (readSetItem verbose (skip verbose r))
            (readSetItem verbose (skip verbose (r ++ closing))) := by
          refine .of_skip (f := readSetItem verbose) (g := readSetItem verbose) hr ?_ ?_
          · exact follows_readSetItem fun h => (hr h).of_suffix (skip_suffix verbose r)
          · rintro z ⟨⟩
        refine .bind hlast ?_ ?_
        · rintro ⟨last, after⟩ -
          refine .bind_value fun a => .bind_value fun b => ?_
          dsimp only [extend_pair, extend_chars]
          split
          · exact .same
          · exact .failed
        · rintro ⟨last, after⟩ hstrays z hz
          obtain ⟨a, -, hz⟩ := Option.bind_eq_some_iff.mp hz
          obtain ⟨b, hb, hz⟩ := Option.bind_eq_some_iff.mp hz
          dsimp only at hz
          split at hz
          · obtain rfl := Option.some.inj hz
            refine not_mem_of_strays hstrays ?_
            rintro kind rfl
            cases hb
          · cases hz
    · next hne hdash =>
      cases ds with
      | nil => exact absurd rfl hne
      | cons d s =>
        rw [List.cons_append]
        split
        · next h => cases h
        · next h =>
          obtain ⟨rfl, -⟩ := List.cons.inj h
          exact absurd rfl (hdash s)
        · exact .bind_value fun item => .same
  · exact .none_of_not hnot

/-- A range that goes on into the closing leaves no bracket that ends the class. -/
theorem follows_readSetRange (hquiet : quiet → Quiet verbose cs) :
    Follows quiet (fun y => ']' ∉ rest y) (readSetRange verbose cs)
      (readSetRange verbose (cs ++ closing)) := by
  unfold readSetRange
  refine .bind (follows_readSetItem hquiet) ?_ ?_
  · rintro ⟨first, left⟩ hfirst
    refine follows_readRangeEnd first fun h => (hquiet h).of_suffix ?_
    exact leaves_readSetItem_self verbose cs _ hfirst
  · rintro ⟨first, left⟩ hstrays z hz
    have hbracket : ']' ∉ left := by
      refine not_mem_of_strays hstrays ?_
      rintro kind rfl
      cases hz.symm.trans (readRangeEnd_assertion verbose kind left)
    exact fun hmem => hbracket ((leaves_readRangeEnd verbose first left z hz).subset hmem)

end Ranges

section Openings

theorem leaves_readAsciiName (negated : Bool) (cs : List Char) :
    Leaves cs (readAsciiName negated cs) := by
  have hcolon := List.dropWhile_suffix (l := cs) fun c => c != ':'
  unfold readAsciiName
  dsimp only
  generalize cs.dropWhile (fun c => c != ':') = ds at hcolon
  split
  · next left =>
    have hleft : left <:+ cs :=
      ((List.suffix_cons _ left).trans (List.suffix_cons _ _)).trans hcolon
    cases asciiClass? _ with
    | none => exact .none
    | some kind => exact Leaves.some_iff.mpr hleft
  · exact .none

theorem readAsciiName_append (negated : Bool) (cs : List Char) :
    readAsciiName negated (cs ++ closing) = (readAsciiName negated cs).map extend := by
  unfold readAsciiName
  dsimp only
  rcases cut_append (show ':' ∉ closing by decide) cs with
    ⟨halone, hbehind⟩ | ⟨s, halone, hbehind, hname⟩
  · rw [halone, hbehind]
    rfl
  · rw [halone, hbehind, hname]
    cases s with
    | nil => rfl
    | cons c r =>
      by_cases hc : c = ']'
      · subst hc
        cases asciiClass? _ <;> rfl
      · rw [List.cons_append]
        split
        · next h =>
          cases h
          exact absurd rfl hc
        · split
          · next h =>
            cases h
            exact absurd rfl hc
          · rfl

theorem leaves_readAsciiClass (cs : List Char) : Leaves cs (readAsciiClass cs) := by
  unfold readAsciiClass
  split
  · next r =>
    exact (leaves_readAsciiName true r).trans ((List.suffix_cons _ r).trans (List.suffix_cons _ _))
  · exact (leaves_readAsciiName false _).trans (List.suffix_cons _ _)
  · exact .none

theorem readAsciiClass_append (cs : List Char) :
    readAsciiClass (cs ++ closing) = (readAsciiClass cs).map extend := by
  cases cs with
  | nil => rfl
  | cons c r =>
    by_cases hc : c = ':'
    · subst hc
      cases r with
      | nil => rfl
      | cons d s =>
        by_cases hd : d = '^'
        · subst hd
          exact readAsciiName_append true s
        · rw [List.cons_append, List.cons_append, readAsciiClass, readAsciiClass]
          · exact readAsciiName_append false (d :: s)
          all_goals simpa using hd
    · rw [List.cons_append, readAsciiClass, readAsciiClass]
      · rfl
      all_goals exact fun _ h => hc (List.cons.inj h).1

theorem leadingHyphens_of_plain {steps : Nat} (h : ∀ r, cs ≠ '-' :: r) :
    leadingHyphens verbose steps cs = ([], cs) := by
  cases steps with
  | zero => rfl
  | succ steps =>
    rw [leadingHyphens]
    exact h

theorem leaves_leadingHyphens (verbose : Bool) (steps : Nat) (cs : List Char) :
    Leaves cs (some (leadingHyphens verbose steps cs)) := by
  induction steps generalizing cs with
  | zero => exact Leaves.some_iff.mpr (List.suffix_refl _)
  | succ steps ih =>
    by_cases hyphen : ∃ r, cs = '-' :: r
    · obtain ⟨r, rfl⟩ := hyphen
      have hrest := Leaves.some_iff.mp (ih (skip verbose r))
      rw [leadingHyphens]
      exact Leaves.some_iff.mpr (hrest.trans ((skip_suffix verbose r).trans (List.suffix_cons _ r)))
    · rw [leadingHyphens_of_plain fun r hr => hyphen ⟨r, hr⟩]
      exact Leaves.some_iff.mpr (List.suffix_refl _)

theorem follows_leadingHyphens {n m : Nat} (hn : cs.length ≤ n) (hm : cs.length ≤ m)
    (hquiet : quiet → Quiet verbose cs) :
    Follows quiet Past (some (leadingHyphens verbose n cs))
      (some (leadingHyphens verbose m (cs ++ closing))) := by
  induction n generalizing cs m with
  | zero =>
    obtain rfl : cs = [] := List.eq_nil_of_length_eq_zero (by omega)
    have hnil : ∀ r, ([] : List Char) ≠ '-' :: r := nofun
    have hclosing : ∀ r, [] ++ closing ≠ '-' :: r := by simp [closing]
    rw [leadingHyphens_of_plain hnil, leadingHyphens_of_plain hclosing]
    exact .same
  | succ n ih =>
    by_cases hyphen : ∃ r, cs = '-' :: r
    · obtain ⟨r, rfl⟩ := hyphen
      have hr : quiet → Quiet verbose r := fun h => (hquiet h).of_suffix (List.suffix_cons _ r)
      have hlength := (skip_suffix verbose r).length_le
      rw [List.length_cons] at hn hm
      obtain ⟨m, rfl⟩ : ∃ k, m = k + 1 := ⟨m - 1, by omega⟩
      rw [List.cons_append, leadingHyphens, leadingHyphens]
      have hrest : Follows quiet Past (some (leadingHyphens verbose n (skip verbose r)))
          (some (leadingHyphens verbose m (skip verbose (r ++ closing)))) := by
        refine .of_skip_past (f := fun ds => some (leadingHyphens verbose n ds))
          (g := fun ds => some (leadingHyphens verbose m ds)) hr ?_ (leaves_leadingHyphens _ _ _)
        exact ih (by omega) (by omega) fun h => (hr h).of_suffix (skip_suffix verbose r)
      exact hrest.map (f := fun x => (.literal '-' :: x.1, x.2)) (Q := Past)
        (fun x => rfl) fun y hy => hy
    · have hplain : ∀ r, cs ≠ '-' :: r := fun r hr => hyphen ⟨r, hr⟩
      have hbehind := append_ne_cons (by decide) hplain
      rw [leadingHyphens_of_plain hplain, leadingHyphens_of_plain hbehind]
      exact .same

theorem leaves_readSetStart (verbose : Bool) (cs : List Char) :
    Leaves cs (some (readSetStart verbose cs)) := by
  have hrest := Leaves.some_iff.mp (leaves_leadingHyphens verbose (cs.length + 1) cs)
  unfold readSetStart
  generalize leadingHyphens verbose (cs.length + 1) cs = opening at hrest
  refine Leaves.some_iff.mpr ?_
  split
  · next r => exact (skip_suffix verbose r).trans ((List.suffix_cons _ r).trans hrest)
  · exact hrest

theorem follows_readSetStart (hquiet : quiet → Quiet verbose cs) :
    Follows quiet Past (some (readSetStart verbose cs))
      (some (readSetStart verbose (cs ++ closing))) := by
  have hhyphens := follows_leadingHyphens (n := cs.length + 1) (m := (cs ++ closing).length + 1)
    (by omega) (by simp; omega) hquiet
  have hleft := leaves_leadingHyphens verbose (cs.length + 1) cs _ rfl
  unfold readSetStart
  rcases hhyphens.some_cases with hsame | ⟨hnot, hlost⟩
  · rw [hsame]
    generalize leadingHyphens verbose (cs.length + 1) cs = opening at hleft
    obtain ⟨items, left⟩ := opening
    by_cases hbracket : ∃ r, items = [] ∧ left = ']' :: r
    · obtain ⟨r, rfl, rfl⟩ := hbracket
      refine follows_skip (fun h => (hquiet h).of_suffix ?_) _ Lost.nil
      exact (List.suffix_cons _ r).trans hleft
    · dsimp only [extend_pair, extend_chars]
      split
      · next r h =>
        obtain ⟨rfl, rfl⟩ := Prod.mk.inj h
        exact absurd ⟨r, rfl, rfl⟩ hbracket
      · next h =>
        obtain ⟨rfl, rfl⟩ := Prod.mk.inj h
        split
        · next r h =>
          obtain ⟨rfl, hr⟩ := Prod.mk.inj h
          exact absurd hr (append_ne_cons (by decide) (fun s hs => hbracket ⟨s, rfl, hs⟩) r)
        · next h =>
          obtain ⟨rfl, rfl⟩ := Prod.mk.inj h
          exact .same
  · generalize leadingHyphens verbose ((cs ++ closing).length + 1) (cs ++ closing) = opening
      at hlost
    refine .of_not hnot ?_
    rintro y ⟨⟩
    split
    · exact absurd rfl (hlost.ne_cons (by decide))
    · exact hlost

theorem leaves_readSetOpening (verbose : Bool) (cs : List Char) :
    Leaves cs (some (readSetOpening verbose cs)) := by
  have hskip := skip_suffix verbose cs
  unfold readSetOpening
  generalize skip verbose cs = ds at hskip
  split
  · next r =>
    have hr := (skip_suffix verbose r).trans ((List.suffix_cons _ r).trans hskip)
    exact Leaves.some_iff.mpr ((Leaves.some_iff.mp (leaves_readSetStart verbose _)).trans hr)
  · exact Leaves.some_iff.mpr ((Leaves.some_iff.mp (leaves_readSetStart verbose ds)).trans hskip)

theorem follows_readSetOpening (hquiet : quiet → Quiet verbose cs) :
    Follows quiet Past (some (readSetOpening verbose cs))
      (some (readSetOpening verbose (cs ++ closing))) := by
  have hsuffix := skip_suffix verbose cs
  unfold readSetOpening
  rcases skip_append hquiet with hskip | ⟨hnot, hskip⟩ <;> rw [hskip]
  · generalize skip verbose cs = ds at hsuffix
    have hds : quiet → Quiet verbose ds := fun h => (hquiet h).of_suffix hsuffix
    split
    · next r =>
      have hr : quiet → Quiet verbose r := fun h => (hds h).of_suffix (List.suffix_cons _ r)
      simp only [List.cons_append]
      have hstart : Follows quiet Past (some (readSetStart verbose (skip verbose r)))
          (some (readSetStart verbose (skip verbose (r ++ closing)))) := by
        refine .of_skip_past (f := fun ds => some (readSetStart verbose ds))
          (g := fun ds => some (readSetStart verbose ds)) hr ?_ (leaves_readSetStart verbose _)
        exact follows_readSetStart fun h => (hr h).of_suffix (skip_suffix verbose r)
      exact hstart.map (f := fun x => (true, x)) (Q := Past) (fun x => rfl)
        fun y hy => hy
    · next hcaret =>
      split
      · next h => exact absurd h (append_ne_cons (by decide) hcaret _)
      · exact (follows_readSetStart hds).map (f := fun x => (false, x))
          (Q := Past) (fun x => rfl) fun y hy => hy
  · refine .of_not hnot ?_
    rintro y ⟨⟩
    exact Lost.nil.of_suffix (leaves_readSetStart verbose [] _ rfl)

end Openings

section Sets

theorem leaves_setOperation (c : Char) (r : List Char) : Leaves r (setOperation? (c :: r)) := by
  unfold setOperation?
  split <;> first | exact .none | skip
  all_goals
    next h =>
      obtain ⟨-, rfl⟩ := List.cons.inj h
      exact Leaves.some_iff.mpr (List.suffix_cons _ _)

theorem setOperation?_append (cs : List Char) :
    setOperation? (cs ++ closing) = (setOperation? cs).map extend := by
  rcases cs with _ | ⟨c, _ | ⟨d, r⟩⟩
  · rfl
  · unfold setOperation?
    simp [closing]
  · unfold setOperation?
    simp only [List.cons_append]
    split <;> split <;> simp_all

/-- A class from behind its opening bracket: whether it is negated, and what it contains. -/
def readBracketed (verbose : Bool) (steps : Nat) (cs : List Char) :
    Option (Bool × SetExpression × List Char) :=
  let opening := readSetOpening verbose cs
  (readSet verbose steps none opening.2.1 opening.2.2).map fun x => (opening.1, x)

theorem readClass_eq (verbose : Bool) (cs : List Char) : readClass verbose cs =
    (readBracketed verbose (cs.length + 1) cs).map fun x => (.bracketed x.1 x.2.1, x.2.2) := by
  unfold readClass readBracketed
  generalize readSetOpening verbose cs = opening
  obtain ⟨negated, first, left⟩ := opening
  dsimp only
  cases readSet verbose (cs.length + 1) none first left <;> rfl

variable {steps : Nat} {pending : Option (SetOperation × SetExpression)}
  {items : List SetExpression} {c : Char} {r : List Char}

/-- A bracket begins an item with a name, or else a class. -/
theorem readSet_of_bracket (h : skip verbose cs = '[' :: r) :
    readSet verbose (steps + 1) pending items cs =
      ((readAsciiClass r).or ((readBracketed verbose steps r).map fun x =>
        (.bracketed x.1 x.2.1, x.2.2))).bind fun x =>
          readSet verbose steps pending (x.1 :: items) x.2 := by
  rw [readSet, h]
  simp only
  cases readAsciiClass r with
  | some x => rfl
  | none =>
    unfold readBracketed
    generalize readSetOpening verbose r = opening
    obtain ⟨negated, first, left⟩ := opening
    dsimp only [Option.none_or]
    cases readSet verbose steps none first left <;> rfl

/-- What is neither a bracket nor the end of the text is an operation or a range. -/
theorem readSet_of_plain (h : skip verbose cs = c :: r) (hclose : c ≠ ']') (hopen : c ≠ '[') :
    readSet verbose (steps + 1) pending items cs =
      match setOperation? (c :: r) with
      | some x => readSet verbose steps (some (x.1, closeOperation pending items)) [] x.2
      | none =>
        (readSetRange verbose (c :: r)).bind fun x =>
          readSet verbose steps pending (x.1 :: items) x.2 := by
  rw [readSet, h]
  split
  · next h => cases h
  · next h => exact absurd (List.cons.inj h).1 hclose
  · next h => exact absurd (List.cons.inj h).1 hopen
  · cases setOperation? (c :: r) with
    | some x => rfl
    | none => cases readSetRange verbose (c :: r) <;> rfl

theorem leaves_readSet (steps : Nat) (pending : Option (SetOperation × SetExpression))
    (items : List SetExpression) (cs : List Char) :
    Leaves cs (readSet verbose steps pending items cs) := by
  induction steps generalizing pending items cs with
  | zero => exact .none
  | succ steps ih =>
    have hskip := skip_suffix verbose cs
    cases h : skip verbose cs with
    | nil =>
      rw [readSet, h]
      exact .none
    | cons c r =>
      rw [h] at hskip
      have hr := (List.suffix_cons c r).trans hskip
      by_cases hclose : c = ']'
      · subst hclose
        rw [readSet, h]
        exact Leaves.some_iff.mpr hr
      by_cases hopen : c = '['
      · subst hopen
        rw [readSet_of_bracket h]
        refine .bind (.trans (.or (leaves_readAsciiClass r) ?_) hr) fun x => ih _ _ _
        have hopening := leaves_readSetOpening verbose r _ rfl
        exact .map (.map ((ih _ _ _).trans hopening) fun x => rfl) fun x => rfl
      rw [readSet_of_plain h hclose hopen]
      cases hoperation : setOperation? (c :: r) with
      | some x => exact (ih _ _ _).trans ((leaves_setOperation c r x hoperation).trans hr)
      | none => exact .bind ((leaves_readSetRange verbose c r).trans hr) fun x => ih _ _ _

theorem leaves_readBracketed (verbose : Bool) (steps : Nat) (cs : List Char) :
    Leaves cs (readBracketed verbose steps cs) :=
  have hopening := leaves_readSetOpening verbose cs _ rfl
  .map ((leaves_readSet _ _ _ _).trans hopening) fun _ => rfl

/-- An item that begins with a bracket leaves less of the text. -/
theorem leaves_bracket (verbose : Bool) (steps : Nat) (cs : List Char) :
    Leaves cs ((readAsciiClass cs).or ((readBracketed verbose steps cs).map fun x =>
      (SetExpression.bracketed x.1 x.2.1, x.2.2))) :=
  .or (leaves_readAsciiClass cs) (.map (leaves_readBracketed verbose steps cs) fun _ => rfl)

/-- A class without its closing bracket is refused. -/
theorem readSet_eq_none (steps : Nat) (pending : Option (SetOperation × SetExpression))
    (items : List SetExpression) (h : ']' ∉ cs) :
    readSet verbose steps pending items cs = none := by
  induction steps generalizing pending items cs with
  | zero => rfl
  | succ steps ih =>
    have hskip := skip_suffix verbose cs
    cases hds : skip verbose cs with
    | nil => rw [readSet, hds]
    | cons c r =>
      rw [hds] at hskip
      have hr : ∀ s, s <:+ r → ']' ∉ s := fun s hs hmem =>
        h (hskip.subset (List.mem_cons_of_mem c (hs.subset hmem)))
      have hclose : c ≠ ']' := fun hc => h (hskip.subset (hc ▸ List.mem_cons_self))
      by_cases hopen : c = '['
      · subst hopen
        rw [readSet_of_bracket hds]
        exact Option.bind_eq_none_iff.mpr fun x hx =>
          ih _ _ (hr _ (leaves_bracket verbose steps r x hx))
      rw [readSet_of_plain hds hclose hopen]
      cases hoperation : setOperation? (c :: r) with
      | some x => exact ih _ _ (hr _ (leaves_setOperation c r x hoperation))
      | none =>
        exact Option.bind_eq_none_iff.mpr fun x hx =>
          ih _ _ (hr _ (leaves_readSetRange verbose c r x hx))

theorem follows_readBracketed {n m : Nat} (hquiet : quiet → Quiet verbose cs)
    (hset : ∀ s, s <:+ cs → ∀ items, Follows quiet (fun _ => False)
      (readSet verbose n none items s) (readSet verbose m none items (s ++ closing))) :
    Follows quiet (fun _ => False) (readBracketed verbose n cs)
      (readBracketed verbose m (cs ++ closing)) := by
  have hopening := leaves_readSetOpening verbose cs _ rfl
  unfold readBracketed
  rcases (follows_readSetOpening hquiet).some_cases with hsame | ⟨hnot, hlost⟩
  · rw [hsame]
    exact .map_within (hset _ hopening _) fun x => rfl
  · have hbracket : ']' ∉ (readSetOpening verbose (cs ++ closing)).2.2 :=
      hlost.not_mem (by decide)
    dsimp only
    rw [readSet_eq_none m none _ hbracket]
    exact .none_of_not hnot

theorem follows_readSet {n m : Nat} (hn : cs.length < n) (hm : cs.length + 2 < m)
    (pending : Option (SetOperation × SetExpression)) (items : List SetExpression)
    (hquiet : quiet → Quiet verbose cs) :
    Follows quiet (fun _ => False) (readSet verbose n pending items cs)
      (readSet verbose m pending items (cs ++ closing)) := by
  induction n generalizing pending items cs m with
  | zero => omega
  | succ n ih =>
    obtain ⟨m, rfl⟩ : ∃ k, m = k + 1 := ⟨m - 1, by omega⟩
    have hsuffix := skip_suffix verbose cs
    rcases skip_append hquiet with hskip | ⟨hnot, hskip⟩
    · cases hds : skip verbose cs with
      | nil =>
        rw [hds] at hskip
        -- the parenthesis is taken for an item, and behind it no bracket ends the class
        refine .inr ⟨fun _ => by rw [readSet, hds], fun z hz => ?_⟩
        rw [readSet_of_plain hskip (by decide) (by decide)] at hz
        obtain ⟨x, hx, hz⟩ := Option.bind_eq_some_iff.mp hz
        have hbracket : ']' ∉ x.2 := fun hmem =>
          absurd ((leaves_readSetRange verbose ')' ['$'] x hx).subset hmem) (by decide)
        cases hz.symm.trans (readSet_eq_none m pending (x.1 :: items) hbracket)
      | cons c r =>
        rw [hds, List.cons_append] at hskip
        rw [hds] at hsuffix
        have hr : quiet → Quiet verbose r :=
          fun h => (hquiet h).of_suffix ((List.suffix_cons c r).trans hsuffix)
        -- where less of the text is left, as much is left of both
        have hless : ∀ s, s <:+ r → ∀ pending items, Follows quiet (fun _ => False)
            (readSet verbose n pending items s)
            (readSet verbose m pending items (s ++ closing)) := by
          intro s hs pending items
          have hlength := hsuffix.length_le
          have hshorter := hs.length_le
          rw [List.length_cons] at hlength
          exact ih (by omega) (by omega) pending items fun h => (hr h).of_suffix hs
        by_cases hclose : c = ']'
        · subst hclose
          rw [readSet, readSet, hds, hskip]
          exact .same
        by_cases hopen : c = '['
        · subst hopen
          rw [readSet_of_bracket hds, readSet_of_bracket hskip, readAsciiClass_append]
          have hinner := follows_readBracketed hr fun s hs => hless s hs none
          refine .bind_within (.or (.map_within hinner fun x => rfl)) ?_
          exact fun x hx => hless _ (leaves_bracket verbose n r x hx) pending (x.1 :: items)
        rw [readSet_of_plain hds hclose hopen, readSet_of_plain hskip hclose hopen,
          ← List.cons_append, setOperation?_append]
        cases hoperation : setOperation? (c :: r) with
        | some x =>
          exact hless _ (leaves_setOperation c r x hoperation)
            (some (x.1, closeOperation pending items)) []
        | none =>
          refine .bind (follows_readSetRange fun h => (hquiet h).of_suffix hsuffix) ?_ ?_
          · exact fun x hx => hless _ (leaves_readSetRange verbose c r x hx) pending (x.1 :: items)
          · intro y hy z hz
            cases hz.symm.trans (readSet_eq_none m pending (y.1 :: items) hy)
    · refine .of_not hnot ?_
      rw [readSet, hskip]
      rintro y ⟨⟩

theorem leaves_readClass (verbose : Bool) (cs : List Char) : Leaves cs (readClass verbose cs) := by
  rw [readClass_eq]
  exact .map (leaves_readBracketed verbose _ cs) fun x => rfl

theorem follows_readClass (hquiet : quiet → Quiet verbose cs) :
    Follows quiet (fun _ => False) (readClass verbose cs)
      (readClass verbose (cs ++ closing)) := by
  rw [readClass_eq, readClass_eq]
  refine .map_within (follows_readBracketed hquiet fun s hs items => ?_) fun x => rfl
  have hlength := hs.length_le
  refine follows_readSet (by omega) ?_ none items fun h => (hquiet h).of_suffix hs
  rw [List.length_append]
  simp only [closing, List.length_cons, List.length_nil]
  omega

end Sets

end GridPolicy.Pattern.Parser
