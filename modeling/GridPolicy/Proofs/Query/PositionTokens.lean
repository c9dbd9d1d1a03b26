import GridPolicy.Policy.QueryProcessor
import GridPolicy.Proofs.Query.NamedTokens
import GridPolicy.Proofs.Run.Settled
import GridPolicy.Proofs.Text.Integer
import Mathlib.Data.List.Chain

/-!
# Filling from a row

To fill a template from a row is to put each value in the place of its token and to leave
all else as it is. The positions are exchanged one after the other, though, each in what
the ones before have left, so a value is looked through for the tokens of later positions,
and so is what comes to stand around it. What is asked for here is that this finds nothing:
then the template is filled at once, and the named tokens of a query that are filled next
are its own.
-/
namespace GridPolicy

namespace Template

/-- A character of a template, or the token of a position. -/
inductive Piece where
  | char (c : Char)
  | position (i : Nat)
  deriving DecidableEq, Repr

/-- A piece once the values of the row are put in. Positions behind the row keep their token. -/
def Piece.spelled (row : Row) : Piece → List Char
  | char c => [c]
  | position i => (row[i]?.getD (positionToken i)).toList

def spelledWith (row : Row) (ps : List Piece) : List Char := ps.flatMap (Piece.spelled row)

/-- The position whose token a text begins with. -/
def positionAt? (count : Nat) (cs : List Char) : Option Nat :=
  (List.range count).find? fun i => (positionToken i).toList.isPrefixOf cs

/-- The pieces of a text for the positions below `count`; `skip` counts the characters of a
token that are still to be passed over. -/
def piecesFrom (count : Nat) : Nat → List Char → List Piece
  | _, [] => []
  | skip + 1, _ :: r => piecesFrom count skip r
  | 0, c :: r =>
    match positionAt? count (c :: r) with
    | some i => .position i :: piecesFrom count ((positionToken i).length - 1) r
    | none => .char c :: piecesFrom count 0 r

def pieces (count : Nat) (cs : List Char) : List Piece := piecesFrom count 0 cs

/-- The text with the values of a row in the places of their tokens. -/
def exchanged (row : Row) (cs : List Char) : List Char := spelledWith row (pieces row.length cs)

/-- Wherever the token of a position stands once the values of the row are put in, it is a
piece of the template. -/
def Own (row : Row) (ps : List Piece) (i : Nat) : Prop :=
  ∀ u v, spelledWith row ps = u ++ ((positionToken i).toList ++ v) →
    ∃ before after, ps = before ++ .position i :: after ∧ spelledWith row before = u ∧
      spelledWith row after = v

/-- The pieces are those of the text, and each token of a position is one of them. -/
structure Reading (count : Nat) (cs : List Char) (ps : List Piece) : Prop where
  spelled : spelledWith [] ps = cs
  below : ∀ i, .position i ∈ ps → i < count
  own : ∀ i < count, Own [] ps i

/-- Whichever values of a row have been put in, the token for the next is only found where
the template has it. -/
def Undisturbed (row : Row) (ps : List Piece) : Prop :=
  ∀ i < row.length, Own (row.take i) ps i

section Spelled

variable {row : Row} {ps qs : List Piece}

@[simp] theorem spelledWith_nil : spelledWith row [] = [] := rfl

@[simp] theorem spelledWith_cons (p : Piece) :
    spelledWith row (p :: ps) = p.spelled row ++ spelledWith row ps := rfl

@[simp] theorem spelledWith_append :
    spelledWith row (ps ++ qs) = spelledWith row ps ++ spelledWith row qs := List.flatMap_append

theorem spelledWith_map_char (cs : List Char) : spelledWith row (cs.map .char) = cs := by
  induction cs with
  | nil => rfl
  | cons c cs ih => simp [ih, Piece.spelled]

end Spelled

section Tokens

theorem toList_positionToken (i : Nat) :
    (positionToken i).toList = '\x7b' :: ((toString i).toList ++ ['\x7d']) := by
  simp [positionToken]

theorem positionToken_ne_nil (i : Nat) : (positionToken i).toList ≠ [] := by
  simp [toList_positionToken]

theorem isDigit_of_mem {i : Nat} {c : Char} (h : c ∈ (toString i).toList) : c.isDigit = true :=
  Text.isDigit_of_mem_repr h

theorem closing_not_mem (i : Nat) : '\x7d' ∉ (toString i).toList :=
  fun h => absurd (isDigit_of_mem h) (by decide)

/-- No token of a position begins another one. -/
theorem eq_of_positionToken_begins {i k : Nat} {rest : List Char}
    (h : (positionToken k).toList <+: (positionToken i).toList ++ rest) : k = i := by
  obtain ⟨more, hmore⟩ := h
  have hborder : Text.Unbordered ['\x7d'] := by decide
  have hfree (n : Nat) : ¬ ['\x7d'] <:+: (toString n).toList := by
    rw [List.singleton_infix_iff]
    exact closing_not_mem n
  have hk := Text.cutAt_append hborder (by simp) (hfree k) more
  have hi := Text.cutAt_append hborder (by simp) (hfree i) rest
  have hsame : (toString k).toList ++ (['\x7d'] ++ more) =
      (toString i).toList ++ (['\x7d'] ++ rest) := by
    simpa [toList_positionToken] using hmore
  rw [hsame, hi, Option.some.injEq, Prod.mk.injEq] at hk
  have hread := (Text.natural?_repr k).symm.trans (congrArg Text.natural? hk.1.symm)
  exact Option.some.inj (hread.trans (Text.natural?_repr i))

/-- Inside a token of a position none begins. -/
theorem eq_of_positionToken_meets {i k : Nat} {rest u v : List Char}
    (h : (positionToken k).toList ++ rest = u ++ ((positionToken i).toList ++ v))
    (hu : u.length < (positionToken k).toList.length) : i = k ∧ u = [] ∧ v = rest := by
  cases u with
  | nil =>
    have hik : i = k := eq_of_positionToken_begins ⟨v, h.symm⟩
    subst hik
    exact ⟨rfl, rfl, (List.append_cancel_left h).symm⟩
  | cons c u =>
    exfalso
    have hinner : (toString k).toList ++ ['\x7d'] ++ rest =
        u ++ ('\x7b' :: ((toString i).toList ++ ['\x7d'] ++ v)) := by
      have htail := congrArg List.tail h
      simpa [toList_positionToken] using htail
    have hshort : u.length < ((toString k).toList ++ ['\x7d']).length := by
      simpa [toList_positionToken] using hu
    rcases List.mem_append.mp (Text.mem_of_append_eq hinner hshort) with hdigit | hclosing
    · exact absurd (isDigit_of_mem hdigit) (by decide)
    · simp at hclosing

end Tokens

section Pieces

variable {count i : Nat} {c : Char} {cs r : List Char}

theorem positionAt?_eq_none :
    positionAt? count cs = none ↔ ∀ i < count, ¬ (positionToken i).toList <+: cs := by
  simp [positionAt?, List.find?_eq_none, List.isPrefixOf_iff_prefix]

theorem positionAt?_token (h : i < count) (rest : List Char) :
    positionAt? count ((positionToken i).toList ++ rest) = some i := by
  cases hat : positionAt? count ((positionToken i).toList ++ rest) with
  | none => exact absurd (List.prefix_append ..) (positionAt?_eq_none.mp hat i h)
  | some k =>
    have hbegins := List.find?_some hat
    rw [List.isPrefixOf_iff_prefix] at hbegins
    rw [eq_of_positionToken_begins hbegins]

theorem piecesFrom_skip (count : Nat) (cs rest : List Char) :
    piecesFrom count cs.length (cs ++ rest) = piecesFrom count 0 rest := by
  induction cs with
  | nil => rfl
  | cons c cs ih => simpa [piecesFrom] using ih

@[simp] theorem pieces_nil : pieces count [] = [] := rfl

theorem pieces_token (h : i < count) (rest : List Char) :
    pieces count ((positionToken i).toList ++ rest) = .position i :: pieces count rest := by
  have hat := positionAt?_token h rest
  obtain ⟨c, r, htoken⟩ := List.exists_cons_of_ne_nil (positionToken_ne_nil i)
  have hlength : (positionToken i).length - 1 = r.length := by
    rw [← String.length_toList, htoken]
    rfl
  rw [htoken, List.cons_append] at hat ⊢
  rw [pieces, piecesFrom, hat]
  dsimp only
  rw [hlength, piecesFrom_skip, pieces]

theorem pieces_char (h : ∀ i < count, ¬ (positionToken i).toList <+: c :: r) :
    pieces count (c :: r) = .char c :: pieces count r := by
  rw [pieces, piecesFrom, positionAt?_eq_none.mpr h, pieces]

/-- A text is gone through from the left: past tokens, and past characters at which none
begins. -/
@[elab_as_elim]
theorem pieces_induction {motive : List Char → Prop} (count : Nat) (nil : motive [])
    (token : ∀ i rest, i < count → motive rest → motive ((positionToken i).toList ++ rest))
    (char : ∀ c r, (∀ i < count, ¬ (positionToken i).toList <+: c :: r) → motive r →
      motive (c :: r)) (cs : List Char) : motive cs := by
  induction cs using
    Text.scan_induction (P := fun t => ∃ i < count, t = (positionToken i).toList) with
  | hne =>
    rintro ⟨i, -, hi⟩
    exact positionToken_ne_nil i hi.symm
  | nil => exact nil
  | found t rest ht ih =>
    obtain ⟨i, hi, rfl⟩ := ht
    exact token i rest hi ih
  | char c r hnone ih => exact char c r (fun i hi => hnone _ ⟨i, hi, rfl⟩) ih

end Pieces

section Own

variable {row : Row} {p : Piece} {ps : List Piece} {i : Nat}

/-- In a template with one piece more a token is found nowhere else if none begins in what the
piece is spelled as, unless it is that token. -/
theorem Own.cons (h : Own row ps i)
    (hpiece : ∀ u v, p.spelled row ++ spelledWith row ps = u ++ ((positionToken i).toList ++ v) →
      u.length < (p.spelled row).length → p = .position i ∧ u = [] ∧ v = spelledWith row ps) :
    Own row (p :: ps) i := by
  intro u v heq
  rw [spelledWith_cons] at heq
  rcases Nat.lt_or_ge u.length (p.spelled row).length with hlt | hge
  · obtain ⟨rfl, rfl, rfl⟩ := hpiece u v heq hlt
    exact ⟨[], ps, rfl, rfl, rfl⟩
  · obtain ⟨w, rfl⟩ : p.spelled row <+: u :=
      List.prefix_of_prefix_length_le ⟨spelledWith row ps, heq⟩ ⟨_, rfl⟩ hge
    rw [List.append_assoc] at heq
    obtain ⟨before, after, rfl, rfl, rfl⟩ := h w v (List.append_cancel_left heq)
    exact ⟨p :: before, after, rfl, rfl, rfl⟩

/-- Behind the first piece no token is found that was not found before. -/
theorem Own.tail (hi : row[i]? = none) (h : Own row (p :: ps) i) : Own row ps i := by
  intro u v heq
  obtain ⟨before, after, hps, hbefore, hafter⟩ :=
    h (p.spelled row ++ u) v (by rw [spelledWith_cons, heq, List.append_assoc])
  cases before with
  | nil =>
    rw [List.nil_append, List.cons.injEq] at hps
    rw [hps.1, spelledWith_nil, Piece.spelled, hi] at hbefore
    simp [toList_positionToken] at hbefore
  | cons q before =>
    rw [List.cons_append, List.cons.injEq] at hps
    obtain ⟨rfl, rfl⟩ := hps
    exact ⟨before, after, rfl, List.append_cancel_left hbefore, hafter⟩

end Own

/-- Taken apart, a text still is what it was, and no token in it is passed over. -/
theorem reading_pieces (count : Nat) (cs : List Char) : Reading count cs (pieces count cs) := by
  induction cs using pieces_induction count with
  | nil =>
    refine ⟨rfl, by simp, fun i _ u v heq => ?_⟩
    simp [toList_positionToken] at heq
  | token k rest hk ih =>
    have hspelled : (Piece.position k).spelled [] = (positionToken k).toList := rfl
    rw [pieces_token hk]
    refine ⟨by rw [spelledWith_cons, ih.spelled, hspelled], ?_, fun i hi => ?_⟩
    · rintro i hi
      rcases List.mem_cons.mp hi with h | h
      · cases h
        exact hk
      · exact ih.below i h
    · refine (ih.own i hi).cons fun u v heq hu => ?_
      obtain ⟨rfl, rfl, rfl⟩ := eq_of_positionToken_meets heq hu
      exact ⟨rfl, rfl, rfl⟩
  | char c r hnone ih =>
    rw [pieces_char hnone]
    refine ⟨by rw [spelledWith_cons, ih.spelled]; rfl, ?_, fun i hi => ?_⟩
    · rintro i hi
      rcases List.mem_cons.mp hi with h | h
      · cases h
      · exact ih.below i h
    · refine (ih.own i hi).cons fun u v heq hu => ?_
      obtain rfl : u = [] := List.length_eq_zero_iff.mp (by simpa [Piece.spelled] using hu)
      rw [ih.spelled] at heq
      exact absurd ⟨v, heq.symm⟩ (hnone i hi)

section Fill

variable {row : Row} {ps : List Piece} {i : Nat}

/-- Where the token is only found in its place, to exchange it for the value of its position is
to put that value in. -/
theorem replaceFrom_own (hi : i < row.length) (h : Own (row.take i) ps i) :
    Text.replaceFrom (positionToken i).toList row[i].toList 0 (spelledWith (row.take i) ps) =
      spelledWith (row.take (i + 1)) ps := by
  have hempty : (row.take i)[i]? = none := by simp
  induction ps with
  | nil => rfl
  | cons p ps ih =>
    have htail := ih (h.tail hempty)
    rw [spelledWith_cons, spelledWith_cons, ← htail]
    by_cases hp : p = .position i
    · subst hp
      have hnew : (row.take (i + 1))[i]? = some row[i] := by simp
      simp only [Piece.spelled, hempty, hnew, Option.getD_none, Option.getD_some]
      exact Text.replaceFrom_needle (positionToken_ne_nil i) ..
    · have hsame : p.spelled (row.take (i + 1)) = p.spelled (row.take i) := by
        cases p with
        | char c => rfl
        | position k =>
          have hk : k ≠ i := fun hk => hp (hk ▸ rfl)
          have hlookup : (row.take (i + 1))[k]? = (row.take i)[k]? := by
            rcases Nat.lt_or_ge k i with hlt | hge
            · rw [List.getElem?_take_of_lt hlt, List.getElem?_take_of_lt (by omega)]
            · rw [List.getElem?_take_eq_none hge, List.getElem?_take_eq_none (by omega)]
          simp only [Piece.spelled, hlookup]
      rw [hsame]
      refine Text.replaceFrom_append fun u v hcs hv => ?_
      rintro ⟨rest, hrest⟩
      have heq : spelledWith (row.take i) (p :: ps) =
          u ++ ((positionToken i).toList ++ rest) := by
        rw [spelledWith_cons, hcs, List.append_assoc, hrest]
      obtain ⟨before, after, hps, hbefore, -⟩ := h u rest heq
      cases before with
      | nil => exact hp (List.cons.inj hps).1
      | cons q before =>
        obtain rfl : p = q := (List.cons.inj hps).1
        have hlength := congrArg List.length hbefore
        have hpos := List.length_pos_of_ne_nil hv
        rw [spelledWith_cons, hcs, List.length_append, List.length_append] at hlength
        omega

/-- The positions that are left are filled one after the other. -/
theorem fillFrom_steps (state : Nat → List Char)
    (hstep : ∀ i (h : i < row.length),
      Text.replaceFrom (positionToken i).toList row[i].toList 0 (state i) = state (i + 1))
    {rest : Row} {position : Nat} {query : String} (hrest : row.drop position = rest)
    (hquery : query.toList = state position) :
    (fillFrom position query rest).toList = state (max position row.length) := by
  induction rest generalizing position query with
  | nil =>
    rw [List.drop_eq_nil_iff] at hrest
    rw [fillFrom, hquery, Nat.max_eq_left hrest]
  | cons value rest ih =>
    have hposition : position < row.length := by
      by_contra hge
      rw [List.drop_eq_nil_of_le (by omega)] at hrest
      cases hrest
    rw [List.drop_eq_getElem_cons hposition, List.cons.injEq] at hrest
    obtain ⟨rfl, hrest⟩ := hrest
    have hnext : (Text.replaceAll (positionToken position) row[position] query).toList =
        state (position + 1) := by
      rw [Text.replaceAll, String.toList_ofList, hquery, hstep position hposition]
    rw [fillFrom, ih hrest hnext, Nat.max_eq_right hposition, Nat.max_eq_right hposition.le]

/-- Without disturbance each position is filled in the text that those before have left. -/
theorem fillFrom_spelled (h : Undisturbed row ps) {rest : Row} {position : Nat} {query : String}
    (hrest : row.drop position = rest)
    (hquery : query.toList = spelledWith (row.take position) ps) :
    (fillFrom position query rest).toList = spelledWith row ps := by
  have hfilled := fillFrom_steps (fun k => spelledWith (row.take k) ps)
    (fun i hi => replaceFrom_own hi (h i hi)) hrest hquery
  rwa [List.take_of_length_le (Nat.le_max_right ..)] at hfilled

end Fill

section Apart

variable {row : Row} {ps : List Piece} {count : Nat}

/-- What a token of a position may begin or go on with. -/
def Piece.leads : Piece → Bool
  | char c => c == '\x7b' || c.isDigit
  | position _ => false

def Piece.isPosition : Piece → Bool
  | char _ => false
  | position _ => true

/-- No token of a position stands where another one may go on. -/
def Apart (ps : List Piece) : Prop := ps.IsChain fun p q => (p.leads && q.isPosition) = false

instance : DecidablePred Apart := fun ps => inferInstanceAs (Decidable (ps.IsChain _))

/-- Digits with a brace behind them that stand behind what may lead to them are the
template's own. -/
theorem prefix_of_apart {p : Piece} (hp : p.leads = true) (h : Apart (p :: ps))
    {digits : List Char} (hdigits : ∀ c ∈ digits, c.isDigit = true)
    (hbegins : digits ++ ['\x7d'] <+: spelledWith row ps) :
    digits ++ ['\x7d'] <+: spelledWith [] ps := by
  induction digits generalizing p ps with
  | nil =>
    cases ps with
    | nil => exact hbegins
    | cons q ps =>
      have hq : q.isPosition = false := by simpa [hp] using (List.isChain_cons_cons.mp h).1
      cases q with
      | position k => cases hq
      | char d =>
        obtain ⟨rest, hrest⟩ := hbegins
        have hd : d = '\x7d' := (List.cons.inj hrest).1.symm
        exact ⟨spelledWith [] ps, by rw [hd]; rfl⟩
  | cons c digits ih =>
    cases ps with
    | nil => simp at hbegins
    | cons q ps =>
      obtain ⟨hpq, hrest⟩ := List.isChain_cons_cons.mp h
      have hq : q.isPosition = false := by simpa [hp] using hpq
      cases q with
      | position k => cases hq
      | char d =>
        rw [spelledWith_cons, Piece.spelled, List.cons_append, List.singleton_append,
          List.cons_prefix_cons] at hbegins
        obtain ⟨rfl, hbegins⟩ := hbegins
        have hc : c.isDigit = true := hdigits c (by simp)
        have hlead : (Piece.char c).leads = true := by simp [Piece.leads, hc]
        rw [spelledWith_cons, Piece.spelled, List.cons_append, List.singleton_append,
          List.cons_prefix_cons]
        exact ⟨rfl, ih hlead hrest (fun c hc => hdigits c (by simp [hc])) hbegins⟩

/-- Values without an opening brace disturb nothing in a template whose tokens stand apart. -/
theorem undisturbed_of_apart {cs : List Char} (hvalues : ∀ value ∈ row, '\x7b' ∉ value.toList)
    (hapart : Apart (pieces row.length cs)) : Undisturbed row (pieces row.length cs) := by
  intro i hi
  induction cs using pieces_induction row.length with
  | nil =>
    intro u v heq
    simp [toList_positionToken] at heq
  | token k rest hk ih =>
    rw [pieces_token hk] at hapart ⊢
    refine (ih hapart.tail).cons fun u v heq hu => ?_
    rcases Nat.lt_or_ge k i with hlt | hge
    · have hvalue : (Piece.position k).spelled (row.take i) = row[k].toList := by
        simp [Piece.spelled, List.getElem?_take_of_lt hlt, List.getElem?_eq_getElem hk]
      rw [hvalue] at heq hu
      rw [toList_positionToken] at heq
      exact absurd (Text.mem_of_append_eq heq hu) (hvalues row[k] (List.getElem_mem hk))
    · have htoken : (Piece.position k).spelled (row.take i) = (positionToken k).toList := by
        simp [Piece.spelled, List.getElem?_take_eq_none hge]
      rw [htoken] at heq hu
      obtain ⟨rfl, rfl, rfl⟩ := eq_of_positionToken_meets heq hu
      exact ⟨rfl, rfl, rfl⟩
  | char c r hnone ih =>
    rw [pieces_char hnone] at hapart ⊢
    refine (ih hapart.tail).cons fun u v heq hu => ?_
    obtain rfl : u = [] := List.length_eq_zero_iff.mp (by simpa [Piece.spelled] using hu)
    rw [Piece.spelled, toList_positionToken] at heq
    obtain ⟨rfl, hbehind⟩ := List.cons.inj heq
    have hlater : (toString i).toList ++ ['\x7d'] <+: spelledWith [] (pieces row.length r) :=
      prefix_of_apart rfl hapart (fun _ hc => isDigit_of_mem hc) ⟨v, hbehind.symm⟩
    rw [(reading_pieces row.length r).spelled] at hlater
    refine absurd ?_ (hnone i hi)
    rw [toList_positionToken]
    exact List.cons_prefix_cons.mpr ⟨rfl, hlater⟩

end Apart

section Named

variable {row : Row} {count : Nat} {text : List Char} {c : Char}

/-- Neither a brace nor a digit, as a token of a position has. -/
def Foreign (c : Char) : Prop := c ≠ '\x7b' ∧ c ≠ '\x7d' ∧ c.isDigit = false

theorem Foreign.not_mem (h : Foreign c) (i : Nat) : c ∉ (positionToken i).toList := by
  obtain ⟨hopening, hclosing, hdigit⟩ := h
  have hnumber : c ∉ (toString i).toList := fun hc => by
    rw [isDigit_of_mem hc] at hdigit
    cases hdigit
  rw [toList_positionToken, List.mem_cons, List.mem_append, List.mem_singleton]
  rintro (h | h | h)
  · exact hopening h
  · exact hnumber h
  · exact hclosing h

theorem foreign_of_mem_text (t : Token) : ∀ c ∈ t.text.toList, Foreign c := by
  cases t <;> simp [Foreign, Token.text, Token.name, Token.opening, Token.closing]

/-- No token goes on past a foreign character. -/
theorem pieces_append_cons (h : Foreign c) (text r : List Char) :
    pieces count (text ++ c :: r) = pieces count text ++ .char c :: pieces count r := by
  have hnone {cs : List Char} (hcs : ∀ i < count, ¬ (positionToken i).toList <+: cs) :
      ∀ i < count, ¬ (positionToken i).toList <+: cs ++ c :: r := fun i hi => by
    rw [Text.prefix_append_cons (h.not_mem i)]
    exact hcs i hi
  induction text using pieces_induction count with
  | nil =>
    rw [List.nil_append, pieces_nil, List.nil_append]
    have hempty : ∀ i < count, ¬ (positionToken i).toList <+: [] := fun i _ => by
      simp [toList_positionToken]
    exact pieces_char (hnone hempty)
  | token i rest hi ih => rw [List.append_assoc, pieces_token hi, pieces_token hi, ih]; rfl
  | char d rest hd ih =>
    have hlonger : ∀ i < count, ¬ (positionToken i).toList <+: d :: (rest ++ c :: r) := hnone hd
    rw [List.cons_append, pieces_char hd, pieces_char hlonger, ih]
    rfl

/-- A token with a name stands between what is before it and what is behind it. -/
theorem exchanged_append_text (text : List Char) (token : Token) (rest : List Char) :
    exchanged row (text ++ (token.text.toList ++ rest)) =
      exchanged row text ++ (token.text.toList ++ exchanged row rest) := by
  have hforeign := foreign_of_mem_text token
  have hbehind {cs : List Char} (hcs : ∀ c ∈ cs, Foreign c) :
      pieces row.length (cs ++ rest) = cs.map .char ++ pieces row.length rest := by
    induction cs with
    | nil => rfl
    | cons c cs ih =>
      have hc : pieces row.length (c :: (cs ++ rest)) = .char c :: pieces row.length (cs ++ rest) :=
        pieces_append_cons (hcs c (by simp)) [] (cs ++ rest)
      rw [List.cons_append, hc, ih fun c hc => hcs c (by simp [hc])]
      rfl
  obtain ⟨c, cs, htoken⟩ : ∃ c cs, token.text.toList = c :: cs :=
    ⟨'I', _, token.toList_text⟩
  rw [htoken] at hforeign ⊢
  have hcs := hbehind fun d (hd : d ∈ cs) => hforeign d (List.mem_cons_of_mem c hd)
  simp only [exchanged, List.cons_append, pieces_append_cons (hforeign c (by simp)), hcs,
    spelledWith_append, spelledWith_cons, spelledWith_map_char]
  rfl

/-- The composition with the values of a row put into its texts. -/
def Composition.exchanged (row : Row) : Composition → Composition
  | ending text => ending (Template.exchanged row text)
  | leading text token rest => leading (Template.exchanged row text) token (rest.exchanged row)

theorem Composition.spelled_exchanged (q : Composition) :
    (q.exchanged row).spelled = Template.exchanged row q.spelled := by
  induction q with
  | ending text => rfl
  | leading text token rest ih => rw [spelled, exchanged_append_text, exchanged, spelled, ih]

end Named

end Template

namespace QueryProcessor

/-- The query of an iteration is filled from the row of the invocation, and then its named
tokens are. -/
theorem query_of_iteration {i : Invocation} {grid : Grid} {log after : List Entry}
    {it : QueryIteration} {query : String}
    (hquery : i.parameters.filledField? "query_string" = some query)
    (h : iteration i grid log = (.done it, after)) :
    ∃ c mid, Template.fillNamed (Template.fillRow query (ownRow i.parameters)) c grid mid =
      (.done it.query, after) := by
  unfold iteration at h
  rw [hquery] at h
  obtain ⟨_, _, -, h⟩ := Run.done_of_bind h
  obtain ⟨_, _, -, h⟩ := Run.done_of_bind h
  obtain ⟨c, mid, -, h⟩ := Run.done_of_bind h
  obtain ⟨filled, _, hfilled, h⟩ := Run.done_of_bind h
  cases h
  exact ⟨c, mid, Run.mapError_apply_eq_done.mp hfilled⟩

end QueryProcessor

namespace Template

/-- Without disturbance a template is filled from a row at once: each token of a position is
exchanged for the value, and all else stays. If moreover no named token begins in a text of
the query once it is so filled, the named tokens of the query are filled next and no others,
in the query processor as elsewhere. -/
theorem fillRow_undisturbed {query : String} {row : Row}
    (h : Undisturbed row (pieces row.length query.toList)) :
    Reading row.length query.toList (pieces row.length query.toList) ∧
    (fillRow query row).toList = exchanged row query.toList ∧
    ∀ q : Composition, q.Plain → q.spelled = query.toList → (q.exchanged row).Plain →
      (∀ c grid log out after, fillNamed (fillRow query row) c grid log = (.done out, after) ↔
        (q.exchanged row).Fills c grid log out after) ∧
      ∀ i grid log it after, i.parameters.filledField? "query_string" = some query →
        QueryProcessor.ownRow i.parameters = row →
        QueryProcessor.iteration i grid log = (.done it, after) →
        ∃ c mid, (q.exchanged row).Fills c grid mid it.query after := by
  have hfilled : (fillRow query row).toList = exchanged row query.toList := by
    refine fillFrom_spelled h rfl ?_
    rw [List.take_zero]
    exact (reading_pieces row.length query.toList).spelled.symm
  refine ⟨reading_pieces .., hfilled, fun q hplain hquery hexchanged => ?_⟩
  have hspelled : (q.exchanged row).spelled = (fillRow query row).toList := by
    rw [q.spelled_exchanged, hquery, hfilled]
  have hdone : ∀ c grid log out after,
      fillNamed (fillRow query row) c grid log = (.done out, after) ↔
        (q.exchanged row).Fills c grid log out after :=
    fun _ _ _ _ _ => hexchanged.fillNamed_eq_done hspelled
  refine ⟨hdone, ?_⟩
  rintro i grid log it after hstring rfl hiteration
  obtain ⟨c, mid, hnamed⟩ := QueryProcessor.query_of_iteration hstring hiteration
  exact ⟨c, mid, (hdone c grid mid it.query after).mp hnamed⟩

theorem fillRow_undisturbed_quoted :
    Undisturbed ["a", "b"] (pieces 2 "'\x7b0\x7d' OR '\x7b1\x7d' OR '\x7b0\x7d'".toList) ∧
    (fillRow "'\x7b0\x7d' OR '\x7b1\x7d' OR '\x7b0\x7d'" ["a", "b"]).toList =
      "'a' OR 'b' OR 'a'".toList := by
  have h : Undisturbed ["a", "b"]
      (pieces 2 "'\x7b0\x7d' OR '\x7b1\x7d' OR '\x7b0\x7d'".toList) :=
    undisturbed_of_apart (by decide) (by decide)
  exact ⟨h, (fillRow_undisturbed h).2.1⟩

/-- A value that is the token of the next position disturbs. -/
example : fillRow "\x7b0\x7d\x7b1\x7d" ["\x7b1\x7d", "x"] = "xx" ∧
    exchanged ["\x7b1\x7d", "x"] "\x7b0\x7d\x7b1\x7d".toList = "\x7b1\x7dx".toList := by
  decide

end Template

end GridPolicy
