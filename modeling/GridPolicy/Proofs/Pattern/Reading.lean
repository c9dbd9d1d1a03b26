import GridPolicy.Pattern.Parser

/-!
# Reading with something behind

To a text that has to match the whole of a field a closing is written: the parenthesis
of the group around it and the assertion for the end. A reader that comes to its end
within the text reads the same with the closing behind it. One that does not goes on
into the closing. That happens only where it fails on the text alone, and where a
comment is open at the end of the text.
-/
namespace GridPolicy.Pattern.Parser

/-- What is written behind a text that has to match the whole of a field. -/
def closing : List Char := [')', '$']

/-- What a reader returns, and in it the text that it leaves. -/
class Reading (α : Type) where
  rest : α → List Char
  /-- The same with the closing behind the text that is left. -/
  extend : α → α

instance : Reading (List Char) where
  rest cs := cs
  extend cs := cs ++ closing

instance {α β : Type} [Reading β] : Reading (α × β) where
  rest x := Reading.rest x.2
  extend x := (x.1, Reading.extend x.2)

open Reading

@[simp] theorem rest_chars (cs : List Char) : rest cs = cs := rfl

@[simp] theorem extend_chars (cs : List Char) : extend cs = cs ++ closing := rfl

section

variable {α β γ : Type} [Reading α] [Reading β] {cs ds : List Char}

@[simp] theorem rest_pair (c : γ) (x : α) : rest (c, x) = rest x := rfl

@[simp] theorem extend_pair (c : γ) (x : α) : extend (c, x) = (c, extend x) := rfl

/-- What a reader leaves is the end of the text `cs`. -/
def Leaves (cs : List Char) (a : Option α) : Prop := ∀ x, a = some x → rest x <:+ cs

namespace Leaves

@[simp] theorem none : Leaves cs (none : Option α) := nofun

@[simp] theorem some_iff {x : α} : Leaves cs (some x) ↔ rest x <:+ cs :=
  ⟨fun h => h x rfl, fun h _ hx => Option.some.inj hx ▸ h⟩

theorem trans {a : Option α} (h : Leaves ds a) (hds : ds <:+ cs) : Leaves cs a :=
  fun x hx => (h x hx).trans hds

theorem bind {a : Option α} {f : α → Option β} (h : Leaves cs a)
    (hf : ∀ x, Leaves (rest x) (f x)) : Leaves cs (a.bind f) := by
  cases a with
  | none => exact none
  | some x => exact (hf x).trans (h x rfl)

/-- What is done between two readers leaves the text alone. -/
theorem bind_value {δ : Type} {a : Option δ} {f : δ → Option β} (hf : ∀ x, Leaves cs (f x)) :
    Leaves cs (a.bind f) := by
  cases a with
  | none => exact none
  | some x => exact hf x

theorem map {a : Option α} {f : α → β} (h : Leaves cs a) (hf : ∀ x, rest (f x) = rest x) :
    Leaves cs (a.map f) := by
  cases a with
  | none => exact none
  | some x => simpa [hf] using h x rfl

theorem or {a b : Option α} (ha : Leaves cs a) (hb : Leaves cs b) : Leaves cs (a.or b) := by
  cases a with
  | none => exact hb
  | some x => exact ha

end Leaves

/-- `b` reads with the closing behind the text what `a` reads without it; or else `a`
fails, if the text is `quiet`, and what `b` returns is of the kind `P`. -/
def Follows (quiet : Prop) (P : α → Prop) (a b : Option α) : Prop :=
  b = a.map extend ∨ (quiet → a = none) ∧ ∀ y, b = some y → P y

variable {quiet : Prop} {P : α → Prop} {Q : β → Prop}

namespace Follows

theorem same {x : α} : Follows quiet P (some x) (some (extend x)) := .inl rfl

theorem failed : Follows quiet P (none : Option α) none := .inl rfl

/-- Of a text that is not quiet it is only asked what is lost. -/
theorem of_not {a b : Option α} (hnot : ¬ quiet) (hb : ∀ y, b = some y → P y) :
    Follows quiet P a b := .inr ⟨fun h => absurd h hnot, hb⟩

theorem none_of_not {a : Option α} (hnot : ¬ quiet) : Follows quiet P a none :=
  .of_not hnot fun _ h => absurd h.symm (Option.some_ne_none _)

/-- A reader that always returns something goes on into the closing only where the text is
not quiet. -/
theorem some_cases {x y : α} (h : Follows quiet P (some x) (some y)) :
    y = extend x ∨ ¬ quiet ∧ P y := by
  rcases h with hsame | ⟨hnone, hlost⟩
  · exact .inl (Option.some.inj hsame)
  · exact .inr ⟨fun hq => Option.some_ne_none x (hnone hq), hlost y rfl⟩

theorem bind {a b : Option α} {f g : α → Option β} (h : Follows quiet P a b)
    (hsame : ∀ x, a = some x → Follows quiet Q (f x) (g (extend x)))
    (hlost : ∀ y, P y → ∀ z, g y = some z → Q z) : Follows quiet Q (a.bind f) (b.bind g) := by
  rcases h with rfl | ⟨ha, hb⟩
  · cases a with
    | none => exact failed
    | some x => exact hsame x rfl
  · refine .inr ⟨fun hquiet => by rw [ha hquiet]; rfl, fun z hz => ?_⟩
    obtain ⟨y, hy, hz⟩ := Option.bind_eq_some_iff.mp hz
    exact hlost y (hb y hy) z hz

/-- What is done between two readers is done alike. -/
theorem bind_value {δ : Type} {a : Option δ} {f g : δ → Option β}
    (h : ∀ x, Follows quiet Q (f x) (g x)) : Follows quiet Q (a.bind f) (a.bind g) := by
  cases a with
  | none => exact failed
  | some x => exact h x

theorem map {a b : Option α} {f : α → β} (h : Follows quiet P a b)
    (hextend : ∀ x, f (extend x) = extend (f x)) (hP : ∀ y, P y → Q (f y)) :
    Follows quiet Q (a.map f) (b.map f) := by
  rcases h with rfl | ⟨ha, hb⟩
  · left
    cases a with
    | none => rfl
    | some x => simp [hextend]
  · refine .inr ⟨fun hquiet => by rw [ha hquiet]; rfl, fun z hz => ?_⟩
    obtain ⟨y, hy, rfl⟩ := Option.map_eq_some_iff.mp hz
    exact hP y (hb y hy)

/-- After a reader that ends within the text. -/
theorem bind_within {a b : Option α} {f g : α → Option β}
    (h : Follows quiet (fun _ => False) a b)
    (hsame : ∀ x, a = some x → Follows quiet Q (f x) (g (extend x))) :
    Follows quiet Q (a.bind f) (b.bind g) :=
  h.bind hsame fun _ => False.elim

theorem map_within {a b : Option α} {f : α → β} (h : Follows quiet (fun _ => False) a b)
    (hextend : ∀ x, f (extend x) = extend (f x)) : Follows quiet Q (a.map f) (b.map f) :=
  h.map hextend fun _ => False.elim

/-- Where one reader cannot go on into the closing, it is only the other that may. -/
theorem or {a b b' : Option α} (h : Follows quiet P b b') :
    Follows quiet P (a.or b) ((a.map extend).or b') := by
  cases a with
  | none => exact h
  | some x => exact .same

/-- The reader returns the same, or behind the text it returns nothing but what is lost. -/
theorem cases {a b : Option α} (h : Follows quiet P a b) :
    (∃ x, a = some x ∧ b = some (extend x)) ∨ (quiet → a = none) ∧ ∀ y, b = some y → P y := by
  rcases h with rfl | hlost
  · cases a with
    | none => exact .inr ⟨fun _ => rfl, nofun⟩
    | some x => exact .inl ⟨x, rfl, rfl⟩
  · exact .inr hlost

end Follows

end

/-- What is left when the parenthesis of the closing has been read. -/
def Lost (r : List Char) : Prop := r <:+ ['$']

namespace Lost

variable {r s : List Char} {c : Char}

@[simp] theorem nil : Lost [] := List.nil_suffix

theorem of_suffix (h : Lost s) (hr : r <:+ s) : Lost r := hr.trans h

theorem not_mem (h : Lost r) (hc : c ≠ '$') : c ∉ r :=
  fun hmem => hc (List.mem_singleton.mp (h.subset hmem))

theorem ne_cons (h : Lost r) (hc : c ≠ '$') : r ≠ c :: s := by
  rintro rfl
  exact h.not_mem hc List.mem_cons_self

end Lost

theorem lost_dollar : Lost ['$'] := List.suffix_refl _

/-- The parenthesis of the closing has been read. -/
abbrev Past {α : Type} [Reading α] (y : α) : Prop := Lost (rest y)

/-- Nothing but a parenthesis comes into the view of a reader with the closing. -/
theorem append_ne_cons {cs : List Char} {c : Char} (hc : c ≠ ')') (h : ∀ s, cs ≠ c :: s)
    (r : List Char) : cs ++ closing ≠ c :: r := by
  cases cs with
  | nil => exact fun hr => hc (List.cons.inj hr).1.symm
  | cons d s =>
    intro hr
    obtain ⟨rfl, -⟩ := List.cons.inj hr
    exact h s rfl

/-- What lies before a separator is read alike, and without one in the text there is none
in the closing either. -/
theorem cut_append {separator : Char} (h : separator ∉ closing) (cs : List Char) :
    (cs.dropWhile (· != separator) = [] ∧ (cs ++ closing).dropWhile (· != separator) = []) ∨
      ∃ s, cs.dropWhile (· != separator) = separator :: s ∧
        (cs ++ closing).dropWhile (· != separator) = separator :: (s ++ closing) ∧
        (cs ++ closing).takeWhile (· != separator) = cs.takeWhile (· != separator) := by
  induction cs with
  | nil =>
    have hne : separator ≠ ')' ∧ separator ≠ '$' := by simpa [closing] using h
    exact .inl ⟨rfl, by simp [closing, hne.1.symm, hne.2.symm]⟩
  | cons c r ih =>
    by_cases hc : c = separator
    · subst hc
      exact .inr ⟨r, by simp, by simp, by simp⟩
    · have hpass : (c != separator) = true := bne_iff_ne.mpr hc
      rw [List.cons_append, List.dropWhile_cons, List.dropWhile_cons, List.takeWhile_cons,
        List.takeWhile_cons, if_pos hpass, if_pos hpass, if_pos hpass, if_pos hpass]
      simpa only [List.cons.injEq, true_and] using ih

/-- In verbose mode every number sign has the end of its line behind it, so that no
comment is open at the end of the text. -/
def Quiet (verbose : Bool) (cs : List Char) : Prop :=
  verbose = true → ∀ before after, cs = before ++ '#' :: after → '\n' ∈ after

theorem Quiet.of_suffix {verbose : Bool} {cs r : List Char} (h : Quiet verbose cs)
    (hr : r <:+ cs) : Quiet verbose r := by
  obtain ⟨used, rfl⟩ := hr
  rintro hverbose before after rfl
  exact h hverbose (used ++ before) after (by simp)

section Blanks

variable {quiet : Prop} {verbose inComment : Bool} {cs : List Char}

theorem dropBlanks_suffix (inComment : Bool) (cs : List Char) : dropBlanks inComment cs <:+ cs := by
  induction cs generalizing inComment with
  | nil => exact List.suffix_refl _
  | cons c r ih =>
    rw [dropBlanks]
    split
    · exact (ih _).trans (List.suffix_cons c r)
    split
    · exact (ih _).trans (List.suffix_cons c r)
    split
    · exact (ih _).trans (List.suffix_cons c r)
    · exact List.suffix_refl _

theorem dropBlanks_append (inComment : Bool) (cs : List Char) :
    dropBlanks inComment (cs ++ closing) = dropBlanks inComment cs ++ closing ∨
      (dropBlanks inComment (cs ++ closing) = [] ∧
        ((inComment = true ∧ '\n' ∉ cs) ∨ ¬ Quiet true cs)) := by
  have hquiet {c : Char} {r : List Char} (h : ¬ Quiet true r) : ¬ Quiet true (c :: r) :=
    fun hcons => h (hcons.of_suffix (List.suffix_cons c r))
  induction cs generalizing inComment with
  | nil =>
    cases inComment with
    | true => exact .inr ⟨by decide, .inl ⟨rfl, List.not_mem_nil⟩⟩
    | false => exact .inl (by decide)
  | cons c r ih =>
    rw [List.cons_append, dropBlanks, dropBlanks]
    cases inComment with
    | true =>
      rcases ih (c != '\n') with h | ⟨h, ⟨hc, hr⟩ | hr⟩
      · exact .inl h
      · have hne : c ≠ '\n' := by simpa using hc
        exact .inr ⟨h, .inl ⟨rfl, by simp [hne.symm, hr]⟩⟩
      · exact .inr ⟨h, .inr (hquiet hr)⟩
    | false =>
      simp only [Bool.false_eq_true, ↓reduceIte, false_and, false_or]
      split
      · rcases ih false with h | ⟨h, ⟨hc, -⟩ | hr⟩
        · exact .inl h
        · cases hc
        · exact .inr ⟨h, hquiet hr⟩
      split
      · next hsign =>
        rcases ih true with h | ⟨h, ⟨-, hr⟩ | hr⟩
        · exact .inl h
        · exact .inr ⟨h, fun hcons => hr (hcons rfl [] r (by simp [eq_of_beq hsign]))⟩
        · exact .inr ⟨h, hquiet hr⟩
      · exact .inl rfl

theorem skip_suffix (verbose : Bool) (cs : List Char) : skip verbose cs <:+ cs := by
  unfold skip
  split
  · exact dropBlanks_suffix _ _
  · exact List.suffix_refl _

@[simp] theorem skip_nil (verbose : Bool) : skip verbose [] = [] := by cases verbose <;> rfl

/-- What is passed over ends before the closing, unless it is a comment that does not. -/
theorem skip_append (hquiet : quiet → Quiet verbose cs) :
    skip verbose (cs ++ closing) = skip verbose cs ++ closing ∨
      (¬ quiet ∧ skip verbose (cs ++ closing) = []) := by
  unfold skip
  cases verbose with
  | false => exact .inl rfl
  | true =>
    rcases dropBlanks_append false cs with h | ⟨h, ⟨hfalse, -⟩ | hr⟩
    · exact .inl h
    · cases hfalse
    · exact .inr ⟨fun hq => hr (hquiet hq), h⟩

/-- A reader that passes over blanks first: it goes on from the same text, or at the end. -/
theorem Follows.of_skip {β : Type} [Reading β] {Q : β → Prop} {f g : List Char → Option β}
    (hquiet : quiet → Quiet verbose cs)
    (hsame : Follows quiet Q (f (skip verbose cs)) (g (skip verbose cs ++ closing)))
    (hlost : ∀ z, g [] = some z → Q z) :
    Follows quiet Q (f (skip verbose cs)) (g (skip verbose (cs ++ closing))) := by
  rcases skip_append hquiet with h | ⟨hnot, h⟩
  · rwa [h]
  · rw [h]
    exact .of_not hnot hlost

/-- At the end of the text there is nothing left to read. -/
theorem Follows.of_skip_past {β : Type} [Reading β] {f g : List Char → Option β}
    (hquiet : quiet → Quiet verbose cs)
    (hsame : Follows quiet Past (f (skip verbose cs)) (g (skip verbose cs ++ closing)))
    (hleaves : Leaves [] (g [])) :
    Follows quiet Past (f (skip verbose cs)) (g (skip verbose (cs ++ closing))) :=
  .of_skip hquiet hsame fun z hz => Lost.nil.of_suffix (hleaves z hz)

/-- The text left when blanks have been passed over. -/
theorem follows_skip {α : Type} {P : α × List Char → Prop} (hquiet : quiet → Quiet verbose cs)
    (a : α) (hnil : P (a, [])) :
    Follows quiet P (some (a, skip verbose cs)) (some (a, skip verbose (cs ++ closing))) := by
  refine .of_skip (f := fun cs => some (a, cs)) (g := fun cs => some (a, cs)) hquiet .same ?_
  rintro z ⟨⟩
  exact hnil

theorem leaves_takeKind (verbose : Bool) (kind : Char → Bool) (steps : Nat) (cs : List Char) :
    Leaves cs (some (takeKind verbose kind steps cs)) := by
  induction steps generalizing cs with
  | zero => exact Leaves.some_iff.mpr (List.suffix_refl _)
  | succ steps ih =>
    cases cs with
    | nil => exact Leaves.some_iff.mpr (List.suffix_refl _)
    | cons c r =>
      rw [takeKind]
      split
      · have hrest := Leaves.some_iff.mp (ih (skip verbose r))
        refine Leaves.some_iff.mpr (hrest.trans ?_)
        exact (skip_suffix verbose r).trans (List.suffix_cons c r)
      · exact Leaves.some_iff.mpr (List.suffix_refl _)

theorem follows_takeKind {kind : Char → Bool} {n m : Nat} (hkind : kind ')' = false)
    (hn : cs.length ≤ n) (hm : cs.length + 2 ≤ m) (hquiet : quiet → Quiet verbose cs) :
    Follows quiet Past (some (takeKind verbose kind n cs))
      (some (takeKind verbose kind m (cs ++ closing))) := by
  have hclosing (k : Nat) : takeKind verbose kind (k + 1) ([] ++ closing) = ([], closing) := by
    simp [closing, takeKind, hkind]
  obtain ⟨m, rfl⟩ : ∃ k, m = k + 1 := ⟨m - 1, by omega⟩
  induction n generalizing cs m with
  | zero =>
    obtain rfl : cs = [] := List.eq_nil_of_length_eq_zero (by omega)
    rw [hclosing]
    exact .same
  | succ n ih =>
    cases cs with
    | nil =>
      rw [hclosing]
      exact .same
    | cons c r =>
      have hr : quiet → Quiet verbose r := fun h => (hquiet h).of_suffix (List.suffix_cons c r)
      have hlength := (skip_suffix verbose r).length_le
      rw [List.length_cons] at hn hm
      obtain ⟨m, rfl⟩ : ∃ k, m = k + 1 := ⟨m - 1, by omega⟩
      rw [List.cons_append, takeKind, takeKind]
      split
      · have htaken : Follows quiet Past (some (takeKind verbose kind n (skip verbose r)))
            (some (takeKind verbose kind (m + 1) (skip verbose (r ++ closing)))) := by
          refine .of_skip_past (f := fun ds => some (takeKind verbose kind n ds))
            (g := fun ds => some (takeKind verbose kind (m + 1) ds)) hr ?_ (leaves_takeKind _ _ _ _)
          exact ih (by omega) (fun h => (hr h).of_suffix (skip_suffix verbose r)) m (by omega)
        exact htaken.map (f := fun x => (c :: x.1, x.2)) (Q := Past)
          (fun x => rfl) fun y hy => hy
      · exact .same

theorem peekPast_append (inComment : Bool) (cs : List Char) :
    peekPast inComment (cs ++ closing) = (peekPast inComment cs).or (some ')') := by
  induction cs generalizing inComment with
  | nil => cases inComment <;> decide
  | cons c r ih =>
    rw [List.cons_append, peekPast, peekPast]
    split
    · exact ih _
    split
    · exact ih _
    · rfl

theorem blank_of_peekPast_eq_none {c : Char} {r : List Char}
    (h : peekPast false (c :: r) = none) : Text.isBlank c = true ∨ c = '#' := by
  rw [peekPast] at h
  split at h
  · next hblank => exact .inl hblank
  split at h
  · next hsign => exact .inr (by simpa using hsign)
  · cases h

/-- The closing is not mistaken for a character that is looked out for. -/
theorem peek_append {c : Char} (hclosing : c ≠ ')') (hblank : Text.isBlank c = false)
    (hsign : c ≠ '#') (verbose : Bool) (cs : List Char) :
    (peek verbose (cs ++ closing) == some c) = (peek verbose cs == some c) := by
  rw [Bool.eq_iff_iff, beq_iff_eq, beq_iff_eq]
  unfold peek
  cases verbose with
  | false =>
    cases cs with
    | nil => simp [closing, hclosing.symm]
    | cons d r => simp
  | true =>
    simp only [↓reduceIte, peekPast_append]
    cases hpast : peekPast false cs with
    | some d => simp
    | none =>
      have hhead : cs.head? ≠ some c := by
        cases cs with
        | nil => simp
        | cons d r =>
          intro hd
          rw [List.head?_cons, Option.some.injEq] at hd
          rcases blank_of_peekPast_eq_none hpast with hd' | hd'
          · rw [hd, hblank] at hd'
            cases hd'
          · exact hsign (hd ▸ hd')
      simp [hhead, hclosing.symm]

end Blanks

end GridPolicy.Pattern.Parser
