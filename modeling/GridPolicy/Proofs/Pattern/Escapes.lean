import GridPolicy.Proofs.Pattern.Reading

/-!
# Reading escapes with something behind
-/
namespace GridPolicy.Pattern.Parser

open Reading

variable {quiet : Prop} {verbose : Bool} {cs : List Char}

section CodePoints

theorem leaves_hexDigits (verbose : Bool) (acc count : Nat) (cs : List Char) :
    Leaves cs (hexDigits verbose acc count cs) := by
  induction count generalizing acc cs with
  | zero => simp [hexDigits]
  | succ count ih =>
    cases cs with
    | nil => exact .none
    | cons c r =>
      rw [hexDigits]
      refine .bind_value fun d => ?_
      exact (ih _ _).trans ((skip_suffix verbose r).trans (List.suffix_cons c r))

theorem follows_hexDigits (acc count : Nat) (hquiet : quiet → Quiet verbose cs) :
    Follows quiet Past (hexDigits verbose acc count cs)
      (hexDigits verbose acc count (cs ++ closing)) := by
  induction count generalizing acc cs with
  | zero => exact .same
  | succ count ih =>
    cases cs with
    | nil => exact .failed
    | cons c r =>
      have hr : quiet → Quiet verbose r := fun h => (hquiet h).of_suffix (List.suffix_cons c r)
      rw [List.cons_append, hexDigits, hexDigits]
      refine .bind_value fun d => ?_
      refine .of_skip_past (f := hexDigits verbose _ count) (g := hexDigits verbose _ count) hr ?_
        (leaves_hexDigits _ _ _ _)
      exact ih _ fun h => (hr h).of_suffix (skip_suffix verbose r)

theorem leaves_untilBrace (verbose : Bool) (steps : Nat) (cs : List Char) :
    Leaves cs (untilBrace verbose steps cs) := by
  induction steps generalizing cs with
  | zero => exact .none
  | succ steps ih =>
    have hskip := skip_suffix verbose cs
    rw [untilBrace]
    generalize skip verbose cs = ds at hskip
    split
    · exact .none
    · exact Leaves.some_iff.mpr ((List.suffix_cons _ _).trans hskip)
    · refine .map ?_ fun x => rfl
      exact (ih _).trans ((List.suffix_cons _ _).trans hskip)

theorem untilBrace_eq_none (steps : Nat) (h : '}' ∉ cs) : untilBrace verbose steps cs = none := by
  induction steps generalizing cs with
  | zero => rfl
  | succ steps ih =>
    have hskip : '}' ∉ skip verbose cs := fun hmem => h ((skip_suffix verbose cs).subset hmem)
    rw [untilBrace]
    generalize skip verbose cs = ds at hskip
    split
    · rfl
    · exact absurd List.mem_cons_self hskip
    · rw [ih fun hmem => hskip (List.mem_cons_of_mem _ hmem)]
      rfl

/-- The brace is found before the closing or not at all. -/
theorem follows_untilBrace {n m : Nat} (hn : cs.length < n) (hm : cs.length + 2 < m)
    (hquiet : quiet → Quiet verbose cs) :
    Follows quiet (fun _ => False) (untilBrace verbose n cs)
      (untilBrace verbose m (cs ++ closing)) := by
  induction n generalizing cs m with
  | zero => omega
  | succ n ih =>
    obtain ⟨m, rfl⟩ : ∃ k, m = k + 1 := ⟨m - 1, by omega⟩
    have hsuffix := skip_suffix verbose cs
    rw [untilBrace, untilBrace]
    rcases skip_append hquiet with hskip | ⟨hnot, hskip⟩ <;> rw [hskip]
    · generalize skip verbose cs = ds at hsuffix
      split
      · have hnone : untilBrace verbose m ['$'] = none := untilBrace_eq_none m (by decide)
        exact .inr ⟨fun _ => rfl, by simp [closing, hnone]⟩
      · exact .same
      · next c r hc =>
        have hr : r <:+ cs := (List.suffix_cons c r).trans hsuffix
        have hlength := hsuffix.length_le
        rw [List.length_cons] at hlength
        rw [List.cons_append]
        split
        · next h => cases h
        · next h => exact (hc (List.cons.inj h).1).elim
        · next h =>
          obtain ⟨rfl, rfl⟩ := List.cons.inj h
          refine .map (ih (by omega) (by omega) fun h => (hquiet h).of_suffix hr) ?_ ?_
          · exact fun x => rfl
          · exact fun y hy => hy
    · exact .none_of_not hnot

theorem leaves_readHex (verbose : Bool) (digits : Nat) (cs : List Char) :
    Leaves cs (readHex verbose digits cs) := by
  have hskip := skip_suffix verbose cs
  unfold readHex
  generalize skip verbose cs = ds at hskip
  split
  · next r =>
    refine .bind ((leaves_untilBrace _ _ r).trans ((List.suffix_cons _ r).trans hskip)) ?_
    rintro ⟨written, left⟩
    dsimp only
    split
    · exact .none
    · refine .bind_value fun values => .bind_value fun c => ?_
      exact Leaves.some_iff.mpr (skip_suffix verbose left)
  · refine .bind ((leaves_hexDigits _ _ _ ds).trans hskip) ?_
    rintro ⟨n, left⟩
    exact .bind_value fun c => Leaves.some_iff.mpr (List.suffix_refl _)

theorem leaves_readHex_of_skip {digits : Nat} (h : skip verbose cs = []) :
    Leaves [] (readHex verbose digits cs) := by
  have hnil := leaves_readHex verbose digits []
  unfold readHex at hnil ⊢
  rw [skip_nil] at hnil
  rwa [h]

theorem follows_readHex (digits : Nat) (hquiet : quiet → Quiet verbose cs) :
    Follows quiet Past (readHex verbose digits cs)
      (readHex verbose digits (cs ++ closing)) := by
  have hsuffix := skip_suffix verbose cs
  rcases skip_append hquiet with hskip | ⟨hnot, hskip⟩
  · unfold readHex
    rw [hskip]
    generalize skip verbose cs = ds at hsuffix
    split
    · next r =>
      have hr : quiet → Quiet verbose r :=
        fun h => (hquiet h).of_suffix ((List.suffix_cons _ r).trans hsuffix)
      refine .bind_within (follows_untilBrace (by omega) (by simp [closing]) hr) ?_
      rintro ⟨written, left⟩ hwritten
      have hleft : quiet → Quiet verbose left :=
        fun h => (hr h).of_suffix (leaves_untilBrace _ _ r _ hwritten)
      dsimp only [extend_pair, extend_chars]
      split
      · exact .failed
      · exact .bind_value fun values => .bind_value fun c => follows_skip hleft c Lost.nil
    · next hbrace =>
      have hds : quiet → Quiet verbose ds := fun h => (hquiet h).of_suffix hsuffix
      split
      · next h => exact absurd h (append_ne_cons (by decide) hbrace _)
      · refine .bind (follows_hexDigits 0 digits hds) ?_ ?_
        · rintro ⟨n, left⟩ -
          exact .bind_value fun c => .same
        · rintro ⟨n, left⟩ hlost z hz
          obtain ⟨c, -, hc⟩ := Option.bind_eq_some_iff.mp hz
          obtain rfl := Option.some.inj hc
          exact hlost
  · refine .of_not hnot fun z hz => ?_
    exact Lost.nil.of_suffix (leaves_readHex_of_skip hskip z hz)

theorem leaves_readProperty (verbose : Bool) (cs : List Char) :
    Leaves cs (readProperty verbose cs) := by
  have hskip := skip_suffix verbose cs
  unfold readProperty
  generalize skip verbose cs = ds at hskip
  split
  · exact .none
  · exact .none
  · next r =>
    refine .bind ((leaves_untilBrace _ _ r).trans ((List.suffix_cons _ r).trans hskip)) ?_
    rintro ⟨name, left⟩
    dsimp only
    split <;> exact Leaves.some_iff.mpr (List.suffix_refl _)
  · next c r _ _ =>
    refine Leaves.some_iff.mpr ?_
    exact (skip_suffix verbose r).trans ((List.suffix_cons c r).trans hskip)

theorem follows_readProperty (hquiet : quiet → Quiet verbose cs) :
    Follows quiet Past (readProperty verbose cs)
      (readProperty verbose (cs ++ closing)) := by
  have hsuffix := skip_suffix verbose cs
  unfold readProperty
  rcases skip_append hquiet with hskip | ⟨hnot, hskip⟩ <;> rw [hskip]
  · generalize skip verbose cs = ds at hsuffix
    split
    · refine .inr ⟨fun _ => rfl, ?_⟩
      rintro y ⟨⟩
      exact lost_dollar.of_suffix (skip_suffix verbose ['$'])
    · exact .failed
    · next r =>
      have hr : quiet → Quiet verbose r :=
        fun h => (hquiet h).of_suffix ((List.suffix_cons _ r).trans hsuffix)
      refine .bind_within (follows_untilBrace (by omega) (by simp [closing]) hr) ?_
      rintro ⟨name, left⟩ -
      dsimp only [extend_pair, extend_chars]
      split <;> exact .same
    · next c r hslash hbrace =>
      have hr : quiet → Quiet verbose r :=
        fun h => (hquiet h).of_suffix ((List.suffix_cons _ r).trans hsuffix)
      rw [List.cons_append]
      split
      · next h => cases h
      · next h => exact (hslash (List.cons.inj h).1).elim
      · next h => exact (hbrace (List.cons.inj h).1).elim
      · next h =>
        obtain ⟨rfl, rfl⟩ := List.cons.inj h
        exact .map (f := fun x => (Query.named (String.ofList [c]), x))
          (follows_skip hr false Lost.nil) (fun x => rfl) fun y hy => hy
  · exact .none_of_not hnot

end CodePoints

section Boundaries

/-- An opening brace is left, and behind it there is nothing but the closing. -/
def Hanging (verbose : Bool) (r : List Char) : Prop :=
  ∃ s, r = '{' :: s ∧ skip verbose s = closing

theorem leaves_readBoundary (verbose : Bool) (cs : List Char) :
    Leaves cs (readBoundary verbose cs) := by
  unfold readBoundary
  split
  · next r =>
    have hskip := skip_suffix verbose r
    generalize skip verbose r = ds at hskip
    split
    · exact .none
    · next c s =>
      split
      · exact Leaves.some_iff.mpr (List.suffix_refl _)
      · have hname :=
          Leaves.some_iff.mp (leaves_takeKind verbose isNameChar (s.length + 1) (c :: s))
        generalize takeKind verbose isNameChar (s.length + 1) (c :: s) = taken at hname
        split
        · next name left =>
          have hleft : left <:+ '{' :: r :=
            ((List.suffix_cons _ left).trans hname).trans (hskip.trans (List.suffix_cons _ r))
          cases boundary? (String.ofList name) with
          | none => exact .none
          | some kind => exact Leaves.some_iff.mpr hleft
        · exact .none
  · exact Leaves.some_iff.mpr (List.suffix_refl _)

theorem follows_readBoundary (hquiet : quiet → Quiet verbose cs) :
    Follows quiet (fun y => Hanging verbose (rest y)) (readBoundary verbose cs)
      (readBoundary verbose (cs ++ closing)) := by
  by_cases hbrace : ∃ r, cs = '{' :: r
  · obtain ⟨r, rfl⟩ := hbrace
    have hr : quiet → Quiet verbose r := fun h => (hquiet h).of_suffix (List.suffix_cons _ r)
    have hsuffix := skip_suffix verbose r
    rw [List.cons_append, readBoundary, readBoundary]
    rcases skip_append hr with hskip | ⟨hnot, hskip⟩ <;> rw [hskip]
    · generalize skip verbose r = ds at hsuffix hskip
      cases ds with
      | nil =>
        refine .inr ⟨fun _ => rfl, ?_⟩
        rintro y ⟨⟩
        exact ⟨r ++ closing, rfl, hskip⟩
      | cons c s =>
        rw [List.cons_append]
        dsimp only
        split
        · exact .same
        · have htaken := follows_takeKind (n := s.length + 1) (m := (s ++ closing).length + 1)
            (show isNameChar ')' = false by decide) (by simp) (by simp [closing])
            fun h => (hr h).of_suffix hsuffix
          rw [List.cons_append] at htaken
          rcases htaken.some_cases with hsame | ⟨hnot, hlost⟩
          · rw [hsame]
            generalize takeKind verbose isNameChar (s.length + 1) (c :: s) = taken
            obtain ⟨name, left⟩ := taken
            dsimp only [extend_pair, extend_chars]
            split
            · next named left h =>
              obtain ⟨rfl, rfl⟩ := Prod.mk.inj h
              split
              · next named after h =>
                obtain ⟨rfl, hafter⟩ := Prod.mk.inj h
                obtain rfl := (List.cons.inj hafter).2
                cases boundary? (String.ofList name) with
                | none => exact .failed
                | some kind => exact .same
              · next hother => exact (hother _ _ rfl).elim
            · next hplain =>
              split
              · next named after h =>
                obtain ⟨-, hafter⟩ := Prod.mk.inj h
                refine absurd hafter (append_ne_cons (by decide) (fun t ht => ?_) _)
                exact hplain name t (ht ▸ rfl)
              · exact .failed
          · generalize takeKind verbose isNameChar ((s ++ closing).length + 1)
              (c :: (s ++ closing)) = taken at hlost
            refine .of_not hnot ?_
            split
            · next left => exact absurd rfl (hlost.ne_cons (by decide))
            · rintro y ⟨⟩
    · exact .none_of_not hnot
  · have hplain : ∀ s, cs ≠ '{' :: s := fun s hs => hbrace ⟨s, hs⟩
    have hbehind := append_ne_cons (by decide) hplain
    rw [readBoundary, readBoundary]
    · exact .same
    · exact hbehind
    · exact hplain

end Boundaries

section Escape

/-- What an escape does depends on its letter: it is complete, it is none, or it goes on
with a code point, a property or the name of a boundary. -/
theorem readEscape_cases (verbose : Bool) (c : Char) :
    (∃ item, ∀ r, readEscape verbose (c :: r) = some (item, r)) ∨
    (∀ r, readEscape verbose (c :: r) = none) ∨
    (∃ digits, ∃ item : Bool → Char → Primitive, ∀ r, readEscape verbose (c :: r) =
      (readHex verbose digits r).map fun x =>
        (item ((skip verbose r).head? == some '{') x.1, x.2)) ∨
    (∃ item : Query → Bool → Primitive, ∀ r, readEscape verbose (c :: r) =
      (readProperty verbose r).map fun x => (item x.1 x.2.1, x.2.2)) ∨
    (∀ r, readEscape verbose (c :: r) =
      (readBoundary verbose r).map fun x => (.assertion x.1, x.2)) := by
  by_cases hcomplete : c ∈ ['d', 's', 'w', 'D', 'S', 'W', 'a', 'f', 't', 'n', 'r', 'v', 'A', 'z',
      'B', '<', '>']
  · simp only [List.mem_cons, List.not_mem_nil, or_false] at hcomplete
    left
    rcases hcomplete with rfl | rfl | rfl | rfl | rfl | rfl | rfl | rfl | rfl | rfl | rfl | rfl |
      rfl | rfl | rfl | rfl | rfl <;> exact ⟨_, fun r => rfl⟩
  by_cases hhex : c ∈ ['x', 'u', 'U']
  · simp only [List.mem_cons, List.not_mem_nil, or_false] at hhex
    right; right; left
    rcases hhex with rfl | rfl | rfl
    · exact ⟨2, fun inBraces d => if inBraces then .literal d else .byte d, fun r => rfl⟩
    · exact ⟨4, fun _ d => .literal d, fun r => rfl⟩
    · exact ⟨8, fun _ d => .literal d, fun r => rfl⟩
  by_cases hproperty : c ∈ ['p', 'P']
  · simp only [List.mem_cons, List.not_mem_nil, or_false] at hproperty
    right; right; right; left
    rcases hproperty with rfl | rfl
    · exact ⟨fun q turned => .property q turned, fun r => rfl⟩
    · exact ⟨fun q turned => .property q (!turned), fun r => rfl⟩
  by_cases hboundary : c = 'b'
  · subst hboundary
    exact .inr (.inr (.inr (.inr fun r => rfl)))
  have hplain : ∀ r, readEscape verbose (c :: r) =
      if c.toNat < 128 && !c.isAlphanum then some (.literal c, r) else none := by
    intro r
    unfold readEscape
    split <;> simp_all
  by_cases hsign : (c.toNat < 128 && !c.isAlphanum) = true
  · exact .inl ⟨.literal c, fun r => by rw [hplain, if_pos hsign]⟩
  · exact .inr (.inl fun r => by rw [hplain, if_neg hsign])

theorem leaves_readEscape (verbose : Bool) (cs : List Char) :
    Leaves cs (readEscape verbose cs) := by
  cases cs with
  | nil => exact .none
  | cons c r =>
    have hr := List.suffix_cons c r
    rcases readEscape_cases verbose c with
      ⟨item, h⟩ | h | ⟨digits, item, h⟩ | ⟨item, h⟩ | h <;> rw [h]
    · exact Leaves.some_iff.mpr hr
    · exact .none
    · exact .map ((leaves_readHex verbose digits r).trans hr) fun x => rfl
    · exact .map ((leaves_readProperty verbose r).trans hr) fun x => rfl
    · exact .map ((leaves_readBoundary verbose r).trans hr) fun x => rfl

/-- What an item may leave when it has gone on into the closing. Only an assertion leaves
more than the parenthesis behind. -/
def Strays (verbose : Bool) (y : Primitive × List Char) : Prop :=
  Lost y.2 ∨ (∃ kind, y.1 = .assertion kind) ∧ Hanging verbose y.2

theorem follows_readEscape (hquiet : quiet → Quiet verbose cs) :
    Follows quiet (Strays verbose) (readEscape verbose cs)
      (readEscape verbose (cs ++ closing)) := by
  cases cs with
  | nil =>
    refine .inr ⟨fun _ => rfl, ?_⟩
    rintro y ⟨⟩
    exact .inl lost_dollar
  | cons c r =>
    have hr : quiet → Quiet verbose r := fun h => (hquiet h).of_suffix (List.suffix_cons c r)
    rw [List.cons_append]
    rcases readEscape_cases verbose c with
      ⟨item, h⟩ | h | ⟨digits, item, h⟩ | ⟨item, h⟩ | h <;> rw [h, h]
    · exact .same
    · exact .failed
    · rcases skip_append hr with hskip | ⟨hnot, hskip⟩
      · have hhead : ((skip verbose (r ++ closing)).head? == some '{') =
            ((skip verbose r).head? == some '{') := by
          rw [hskip]
          cases skip verbose r with
          | nil => decide
          | cons d s => rfl
        rw [hhead]
        exact .map (follows_readHex digits hr) (fun x => rfl) fun y hy => .inl hy
      · refine .of_not hnot fun y hy => ?_
        obtain ⟨z, hz, rfl⟩ := Option.map_eq_some_iff.mp hy
        exact .inl (Lost.nil.of_suffix (leaves_readHex_of_skip hskip z hz))
    · exact .map (follows_readProperty hr) (fun x => rfl) fun y hy => .inl hy
    · exact .map (follows_readBoundary hr) (fun x => rfl) fun y hy => .inr ⟨⟨_, rfl⟩, hy⟩

end Escape

end GridPolicy.Pattern.Parser
