import GridPolicy.Proofs.Run.Answers
import GridPolicy.Proofs.Text.Occurrence
import GridPolicy.Query.Template
import Mathlib.Data.Set.Subsingleton

/-!
# The grammar of named tokens

A query is in order if it is composed of texts in which no token begins and of named
tokens between them. It can be so composed in one way only. Filling puts the value of
each token in its place; what is wrong with a query that cannot be filled is decided by
the first token that is no good, whatever stands behind it.
-/
namespace GridPolicy

namespace Token

theorem unbordered_opening : Text.Unbordered opening.toList := by decide

theorem unbordered_closing : Text.Unbordered closing.toList := by decide

theorem opening_ne_nil : opening.toList ≠ [] := by decide

theorem closing_ne_nil : closing.toList ≠ [] := by decide

theorem toList_text (t : Token) :
    t.text.toList = opening.toList ++ (t.name.toList ++ closing.toList) := by
  simp [text]

theorem closing_not_infix_name (t : Token) : ¬ closing.toList <:+: t.name.toList := by
  cases t <;> decide

theorem ofName?_eq_none {name : String} : ofName? name = none ↔ ∀ t : Token, t.name ≠ name := by
  have hall : ∀ t : Token, t ∈ all := fun t => by cases t <;> decide
  simp [ofName?, hall]

end Token

/-- What a token stands for, where nothing has to be asked for. -/
def Circumstances.known? (c : Circumstances) : Token → Option String
  | .currentTime => some (toString c.currentTime)
  | .lifetime => some (toString c.lifetime)
  | .userName => some c.userName
  | .collectionName => some c.collectionName
  | .dataName => some c.dataName
  | .sourceResource => some c.sourceResource
  | .destinationResource => some c.destinationResource
  | .sourceLeaves => none
  | .destinationLeaves => none

/-- The resource whose leaves a token stands for. -/
def Circumstances.bundled? (c : Circumstances) : Token → Option String
  | .sourceLeaves => some c.sourceResource
  | .destinationLeaves => some c.destinationResource
  | _ => none

/-- What a token comes to from a log, and the log as it is then. -/
inductive Circumstances.Stands (c : Circumstances) (grid : Grid) (log : List Entry)
    (token : Token) : Except SubstitutionError String → List Entry → Prop
  | known {value : String} (h : c.known? token = some value) :
      Stands c grid log token (.ok value) log
  /-- The ids of the leaves in quotes, with commas between. -/
  | leaves {resource : String} {ids : List Int} (h : c.bundled? token = some resource)
      (hids : grid.answer log (.leafBundle resource) = .ok ids) (hne : ids ≠ []) :
      Stands c grid log token (.ok (Text.join ", " (ids.map fun id => "'" ++ toString id ++ "'")))
        (log ++ [.call (.leafBundle resource)])
  | noLeaves {resource : String} (h : c.bundled? token = some resource)
      (hids : grid.answer log (.leafBundle resource) = .ok []) :
      Stands c grid log token (.error (.noLeaves resource))
        (log ++ [.call (.leafBundle resource)])
  | leavesFailed {resource : String} {cause : ServiceError}
      (h : c.bundled? token = some resource)
      (hids : grid.answer log (.leafBundle resource) = .error cause) :
      Stands c grid log token (.error (.leavesFailed resource cause))
        (log ++ [.call (.leafBundle resource)])

section Values

variable {c : Circumstances} {grid : Grid} {log after : List Entry} {token : Token}

/-- A token either has a value or is one for the leaves of a resource. -/
theorem Circumstances.value_cases (c : Circumstances) (token : Token) :
    (∃ value, c.known? token = some value ∧ c.value token = pure value) ∨
    ∃ resource, c.known? token = none ∧ c.bundled? token = some resource ∧
      c.value token = leafBundle resource := by
  cases token with
  | sourceLeaves => exact .inr ⟨_, rfl, rfl, rfl⟩
  | destinationLeaves => exact .inr ⟨_, rfl, rfl, rfl⟩
  | _ => exact .inl ⟨_, rfl, rfl⟩

theorem Circumstances.bundled?_eq_none {value : String} (h : c.known? token = some value) :
    c.bundled? token = none := by
  cases token <;> first | rfl | cases h

theorem Circumstances.Stands.value_eq {answer : Except SubstitutionError String}
    (h : c.Stands grid log token answer after) :
    c.value token grid log = (Outcome.ofExcept answer, after) := by
  rcases c.value_cases token with ⟨v, hknown, hvalue⟩ | ⟨r, hknown, hbundled, hvalue⟩
  · rw [hvalue]
    cases h with
    | known h => cases hknown.symm.trans h; rfl
    | leaves h | noLeaves h | leavesFailed h =>
      rw [bundled?_eq_none hknown] at h
      cases h
  · rw [hvalue, leafBundle_apply]
    cases h with
    | known h => cases hknown.symm.trans h
    | @leaves _ ids h hids hne =>
      cases hbundled.symm.trans h
      obtain ⟨id, ids, rfl⟩ := List.exists_cons_of_ne_nil hne
      rw [hids]
      rfl
    | noLeaves h hids | leavesFailed h hids =>
      cases hbundled.symm.trans h
      rw [hids]
      rfl

theorem Circumstances.exists_stands (c : Circumstances) (grid : Grid) (log : List Entry)
    (token : Token) : ∃ answer after, c.Stands grid log token answer after := by
  rcases c.value_cases token with ⟨v, hknown, -⟩ | ⟨r, -, hbundled, -⟩
  · exact ⟨_, _, .known hknown⟩
  · cases hids : grid.answer log (.leafBundle r) with
    | error cause => exact ⟨_, _, .leavesFailed hbundled hids⟩
    | ok ids =>
      by_cases hne : ids = []
      · subst hne
        exact ⟨_, _, .noLeaves hbundled hids⟩
      · exact ⟨_, _, .leaves hbundled hids hne⟩

end Values

namespace Template

/-- A query as the grammar has it: texts, and between them tokens. -/
inductive Composition where
  | ending (text : List Char)
  | leading (text : List Char) (token : Token) (rest : Composition)

namespace Composition

/-- The query that is composed so. -/
def spelled : Composition → List Char
  | ending text => text
  | leading text token rest => text ++ (token.text.toList ++ rest.spelled)

/-- No token begins in any of the texts. -/
def Plain : Composition → Prop
  | ending text => ¬ Token.opening.toList <:+: text
  | leading text _ rest => ¬ Token.opening.toList <:+: text ∧ rest.Plain

/-- From a log the texts with the values of the tokens between them are `out`, and the log
is left as it is then. -/
inductive Fills (c : Circumstances) (grid : Grid) :
    Composition → List Entry → String → List Entry → Prop
  | ending {text : List Char} {log : List Entry} :
      Fills c grid (ending text) log (String.ofList text) log
  | leading {text : List Char} {token : Token} {rest : Composition} {value out : String}
      {log mid after : List Entry} (hvalue : c.Stands grid log token (.ok value) mid)
      (hrest : Fills c grid rest mid out after) :
      Fills c grid (leading text token rest) log (String.ofList text ++ (value ++ out)) after

/-- The parts that a template with this composition is taken apart into. -/
def parts : Composition → List Part
  | ending text => [.literal text]
  | leading text token rest => .literal text :: .token token :: rest.parts

theorem parts_injective {q q' : Composition} (h : q.parts = q'.parts) : q = q' := by
  induction q generalizing q' with
  | ending text => cases q' <;> simp_all [parts]
  | leading text token rest ih =>
    cases q' with
    | ending text' => simp [parts] at h
    | leading text' token' rest' =>
      simp only [parts, List.cons.injEq, Part.literal.injEq, Part.token.injEq] at h
      rw [h.1, h.2.1, ih h.2.2]

end Composition

/-- The token at the beginning of a text is no good. -/
inductive Offends (c : Circumstances) (grid : Grid) (query : String) (log : List Entry) :
    List Char → SubstitutionError → List Entry → Prop
  /-- It has no end. -/
  | unterminated {body : List Char} (h : ¬ Token.closing.toList <:+: body) :
      Offends c grid query log (Token.opening.toList ++ body) (.unterminated query) log
  /-- Up to the nearest end it is none of the named ones. -/
  | unknown {name rest : List Char} (hnearest : ¬ Token.closing.toList <:+: name)
      (h : ∀ t : Token, t.text.toList ≠ Token.opening.toList ++ (name ++ Token.closing.toList)) :
      Offends c grid query log
        (Token.opening.toList ++ (name ++ (Token.closing.toList ++ rest)))
        (.unknownToken (String.ofList (Token.opening.toList ++ (name ++ Token.closing.toList)))
          query) log
  /-- It is one for leaves, and there are none to be had. -/
  | leaves {token : Token} {rest : List Char} {e : SubstitutionError} {after : List Entry}
      (h : c.Stands grid log token (.error e) after) :
      Offends c grid query log (token.text.toList ++ rest) e after

section Parts

variable {text body name rest : List Char}

theorem parts_of_plain (h : ¬ Token.opening.toList <:+: text) : parts text = [.literal text] := by
  rw [parts]
  split
  · rfl
  · next hcut => rw [Text.cutAt_eq_none.mpr h] at hcut; cases hcut

/-- What is behind the beginning of a token is a name or has no end. -/
theorem parts_of_begun (h : ¬ Token.opening.toList <:+: text) :
    parts (text ++ (Token.opening.toList ++ body)) = .literal text ::
      match Text.cutAt Token.closing.toList body with
      | none => [.unterminated]
      | some (name, rest) => namedPart name :: parts rest := by
  have hcut := Text.cutAt_append Token.unbordered_opening Token.opening_ne_nil h body
  rw [parts]
  split
  · next hnone => rw [hcut] at hnone; cases hnone
  · next hsome =>
    rw [hcut] at hsome
    cases hsome
    split <;> next hend => rw [hend]

theorem parts_of_unterminated (h : ¬ Token.opening.toList <:+: text)
    (hbody : ¬ Token.closing.toList <:+: body) :
    parts (text ++ (Token.opening.toList ++ body)) = [.literal text, .unterminated] := by
  rw [parts_of_begun h, Text.cutAt_eq_none.mpr hbody]

theorem parts_of_named (h : ¬ Token.opening.toList <:+: text)
    (hname : ¬ Token.closing.toList <:+: name) :
    parts (text ++ (Token.opening.toList ++ (name ++ (Token.closing.toList ++ rest)))) =
      .literal text :: namedPart name :: parts rest := by
  rw [parts_of_begun h, Text.cutAt_append Token.unbordered_closing Token.closing_ne_nil hname]

theorem parts_of_token (h : ¬ Token.opening.toList <:+: text) (token : Token) :
    parts (text ++ (token.text.toList ++ rest)) =
      .literal text :: .token token :: parts rest := by
  have hnamed : namedPart token.name.toList = .token token := by
    simp [namedPart, Token.ofName?_name]
  have hparts : parts (text ++ (Token.opening.toList ++
      (token.name.toList ++ (Token.closing.toList ++ rest)))) =
        .literal text :: namedPart token.name.toList :: parts rest :=
    parts_of_named h token.closing_not_infix_name
  rw [hnamed] at hparts
  simpa [Token.toList_text] using hparts

theorem Composition.Plain.parts_spelled {q : Composition} (h : q.Plain) :
    Template.parts q.spelled = q.parts := by
  induction q with
  | ending text => exact parts_of_plain h
  | leading text token rest ih =>
    rw [spelled, parts_of_token h.1, ih h.2, Composition.parts]

/-- No query is composed in two ways. -/
theorem Composition.Plain.eq_of_spelled {q q' : Composition} (h : q.Plain) (h' : q'.Plain)
    (hspelled : q.spelled = q'.spelled) : q = q' := by
  apply parts_injective
  rw [← h.parts_spelled, ← h'.parts_spelled, hspelled]

end Parts

section Fill

variable {query out : String} {c : Circumstances} {grid : Grid} {log mid after : List Entry}
  {q : Composition} {rest : List Char} {e : SubstitutionError}

theorem fill_literal {text : List Char} {r : List Part} {o : Except SubstitutionError String}
    (h : fill query c r grid log = (Outcome.ofExcept o, after)) :
    fill query c (.literal text :: r) grid log =
      (Outcome.ofExcept (o.map (String.ofList text ++ ·)), after) := by
  rw [fill, Run.bind_apply, h]
  cases o <;> rfl

theorem fill_token {token : Token} {value : String} {r : List Part}
    {o : Except SubstitutionError String} (hvalue : c.Stands grid log token (.ok value) mid)
    (h : fill query c r grid mid = (Outcome.ofExcept o, after)) :
    fill query c (.token token :: r) grid log =
      (Outcome.ofExcept (o.map (value ++ ·)), after) := by
  rw [fill, Run.bind_of_done hvalue.value_eq, Run.bind_apply, h]
  cases o <;> rfl

/-- A query without tokens stays as it is. -/
theorem fillNamed_of_plain (h : ¬ Token.opening.toList <:+: query.toList) (c : Circumstances) :
    fillNamed query c = pure query := by
  have hwhole : String.ofList query.toList ++ "" = query := by simp
  unfold fillNamed
  rw [parts_of_plain h]
  funext grid log
  exact congrArg (fun text => (Outcome.done text, log)) hwhole

/-- A composition whose tokens have values is filled with them. -/
theorem Composition.Fills.fill_eq (hplain : q.Plain) (h : q.Fills c grid log out after) :
    fill query c (Template.parts q.spelled) grid log = (.done out, after) := by
  rw [hplain.parts_spelled]
  clear hplain
  induction h with
  | @ending text log =>
    have hend : fill query c [] grid log = (Outcome.ofExcept (.ok ""), log) := rfl
    have hwhole : String.ofList text ++ "" = String.ofList text := String.append_empty
    rw [parts, fill_literal hend]
    exact congrArg (fun out => (Outcome.done out, log)) hwhole
  | @leading _ _ _ _ out _ _ _ hvalue _ ih =>
    have hrest : fill query c _ grid _ = (Outcome.ofExcept (.ok out), _) := ih
    exact fill_literal (fill_token hvalue hrest)

/-- What offends behind a plain text is found there. -/
theorem Offends.fill_eq {text : List Char} (htext : ¬ Token.opening.toList <:+: text)
    (h : Offends c grid query log rest e after) :
    fill query c (parts (text ++ rest)) grid log = (.failed e, after) := by
  have hliteral : ∀ r, fill query c r grid log = (Outcome.ofExcept (.error e), after) →
      fill query c (.literal text :: r) grid log = (.failed e, after) :=
    fun r hr => fill_literal hr
  cases h with
  | unterminated hbody =>
    rw [parts_of_unterminated htext hbody]
    exact hliteral _ rfl
  | @unknown name rest hnearest hunknown =>
    have hname : Token.ofName? (String.ofList name) = none := by
      rw [Token.ofName?_eq_none]
      intro t ht
      apply hunknown t
      rw [t.toList_text, ht, String.toList_ofList]
    have hpart : namedPart name = .unknown name := by simp [namedPart, hname]
    have htoken : Token.opening ++ String.ofList name ++ Token.closing =
        String.ofList (Token.opening.toList ++ (name ++ Token.closing.toList)) := by
      simp [String.ofList_append, String.append_assoc]
    rw [parts_of_named htext hnearest, hpart]
    apply hliteral
    rw [fill, htoken]
    rfl
  | @leaves token rest _ _ hvalue =>
    rw [parts_of_token htext]
    apply hliteral
    rw [fill, Run.bind_apply, hvalue.value_eq]
    rfl

/-- So it is behind a composition whose tokens have values. -/
theorem Composition.Fills.fill_offending (hplain : q.Plain) (h : q.Fills c grid log out mid)
    (hoffends : Offends c grid query mid rest e after) :
    fill query c (Template.parts (q.spelled ++ rest)) grid log = (.failed e, after) := by
  induction h with
  | ending => exact hoffends.fill_eq hplain
  | leading hvalue _ ih =>
    have hrest : fill query c _ grid _ = (Outcome.ofExcept (.error e), after) :=
      ih hplain.2 hoffends
    rw [spelled, List.append_assoc, List.append_assoc, parts_of_token hplain.1]
    exact fill_literal (fill_token hvalue hrest)

end Fill

/-- What a text comes to from a log, and the log as it is then. -/
inductive Verdict (c : Circumstances) (grid : Grid) (query : String) (log : List Entry)
    (cs : List Char) : Except SubstitutionError String → List Entry → Prop
  /-- It is in order, and each token of it has a value. -/
  | filled {q : Composition} {out : String} {after : List Entry} (hplain : q.Plain)
      (hcs : q.spelled = cs) (hfills : q.Fills c grid log out after) :
      Verdict c grid query log cs (.ok out) after
  /-- It is in order, and each token of it has a value, up to one that offends. -/
  | offended {q : Composition} {out : String} {mid : List Entry} {rest : List Char}
      {e : SubstitutionError} {after : List Entry} (hplain : q.Plain)
      (hcs : q.spelled ++ rest = cs) (hfills : q.Fills c grid log out mid)
      (hoffends : Offends c grid query mid rest e after) :
      Verdict c grid query log cs (.error e) after

section Verdicts

variable {query : String} {c : Circumstances} {grid : Grid} {log mid after : List Entry}
  {text name tail cs : List Char} {answer : Except SubstitutionError String}

/-- What offends behind a plain text is the first that does. -/
theorem Offends.verdict {rest : List Char} {e : SubstitutionError}
    (htext : ¬ Token.opening.toList <:+: text) (h : Offends c grid query log rest e after) :
    Verdict c grid query log (text ++ rest) (.error e) after :=
  .offended (q := .ending text) htext rfl .ending h

/-- A text and a token with a value lead on to what is behind them. -/
theorem Verdict.leading {token : Token} {value : String}
    (htext : ¬ Token.opening.toList <:+: text)
    (hvalue : c.Stands grid log token (.ok value) mid)
    (h : Verdict c grid query mid tail answer after) :
    ∃ answer', Verdict c grid query log (text ++ (token.text.toList ++ tail)) answer' after := by
  cases h with
  | @filled q _ _ hplain hcs hfills =>
    have hspelled : (Composition.leading text token q).spelled =
      text ++ (token.text.toList ++ tail) := by rw [Composition.spelled, hcs]
    have hplain' : (Composition.leading text token q).Plain := ⟨htext, hplain⟩
    exact ⟨_, .filled hplain' hspelled (.leading hvalue hfills)⟩
  | @offended q _ _ rest _ _ hplain hcs hfills hoffends =>
    have hspelled : (Composition.leading text token q).spelled ++ rest =
      text ++ (token.text.toList ++ tail) := by simp [Composition.spelled, ← hcs]
    have hplain' : (Composition.leading text token q).Plain := ⟨htext, hplain⟩
    exact ⟨_, .offended hplain' hspelled (.leading hvalue hfills) hoffends⟩

theorem exists_verdict (query : String) (c : Circumstances) (grid : Grid) (log : List Entry)
    (cs : List Char) : ∃ answer after, Verdict c grid query log cs answer after := by
  induction hlength : cs.length using Nat.strong_induction_on generalizing cs log with
  | h n ih =>
    cases hcut : Text.cutAt Token.opening.toList cs with
    | none => exact ⟨_, _, .filled (q := .ending cs) (Text.cutAt_eq_none.mp hcut) rfl .ending⟩
    | some cut =>
      obtain ⟨text, body⟩ := cut
      have htext := Text.not_infix_of_cutAt Token.opening_ne_nil hcut
      have hcs := Text.eq_of_cutAt hcut
      cases hend : Text.cutAt Token.closing.toList body with
      | none =>
        rw [hcs]
        exact ⟨_, _, Offends.verdict htext (.unterminated (Text.cutAt_eq_none.mp hend))⟩
      | some cut =>
        obtain ⟨name, tail⟩ := cut
        have hname := Text.not_infix_of_cutAt Token.closing_ne_nil hend
        have hbody := Text.eq_of_cutAt hend
        by_cases hknown : ∃ t : Token, t.name.toList = name
        · obtain ⟨token, rfl⟩ := hknown
          have hwhole : cs = text ++ (token.text.toList ++ tail) := by
            simp [hcs, hbody, token.toList_text]
          have hshorter : tail.length < n := by
            have := List.length_pos_of_ne_nil Token.opening_ne_nil
            simp only [← hlength, hcs, hbody, List.length_append]
            omega
          rw [hwhole]
          obtain ⟨answer, mid, hstands⟩ := c.exists_stands grid log token
          cases answer with
          | error e => exact ⟨_, _, Offends.verdict htext (.leaves hstands)⟩
          | ok value =>
            obtain ⟨answer, after, hrest⟩ := ih _ hshorter mid tail rfl
            obtain ⟨answer', hverdict⟩ := hrest.leading htext hstands
            exact ⟨answer', after, hverdict⟩
        · rw [hcs, hbody]
          refine ⟨_, _, Offends.verdict htext (.unknown hname fun t ht => hknown ⟨t, ?_⟩)⟩
          simpa [t.toList_text] using ht

theorem Verdict.fill_eq (h : Verdict c grid query log cs answer after) :
    fill query c (parts cs) grid log = (Outcome.ofExcept answer, after) := by
  cases h with
  | filled hplain hcs hfills => exact hcs ▸ hfills.fill_eq hplain
  | offended hplain hcs hfills hoffends => exact hcs ▸ hfills.fill_offending hplain hoffends

/-- Texts in order come to what their composition is filled with, and to nothing else. -/
theorem Composition.Plain.fillNamed_eq_done {q : Composition} {out : String} (hplain : q.Plain)
    (hquery : q.spelled = query.toList) :
    fillNamed query c grid log = (.done out, after) ↔ q.Fills c grid log out after := by
  constructor
  · intro h
    obtain ⟨answer, after', hverdict⟩ := exists_verdict query c grid log query.toList
    have hsame : (Outcome.ofExcept answer, after') = (.done out, after) :=
      hverdict.fill_eq.symm.trans h
    cases hverdict with
    | offended => cases hsame
    | filled hplain' hquery' hfills =>
      cases hsame
      obtain rfl := hplain.eq_of_spelled hplain' (hquery.trans hquery'.symm)
      exact hfills
  · intro h
    rw [fillNamed, ← hquery]
    exact h.fill_eq hplain

end Verdicts

/-- A query is composed of plain texts and tokens in at most one way. It is filled if it is
so composed and each token has a value, with these values between the texts. Otherwise the
first token that offends decides what is said. -/
theorem fillNamed_eq_verdict (query : String) (c : Circumstances) (grid : Grid)
    (log : List Entry) :
    {q : Composition | q.Plain ∧ q.spelled = query.toList}.Subsingleton ∧
    (∃ answer after, fillNamed query c grid log = (Outcome.ofExcept answer, after)) ∧
    ∀ answer after, fillNamed query c grid log = (Outcome.ofExcept answer, after) ↔
      Verdict c grid query log query.toList answer after := by
  obtain ⟨answer, after, hverdict⟩ := exists_verdict query c grid log query.toList
  have hfilled := hverdict.fill_eq
  refine ⟨?_, ⟨answer, after, hfilled⟩, fun answer' after' => ⟨fun h => ?_, Verdict.fill_eq⟩⟩
  · rintro q ⟨hplain, hspelled⟩ q' ⟨hplain', hspelled'⟩
    exact hplain.eq_of_spelled hplain' (hspelled.trans hspelled'.symm)
  · have hsame := hfilled.symm.trans h
    rw [Prod.mk.injEq] at hsame
    obtain ⟨houtcome, rfl⟩ := hsame
    have hanswer : answer = answer' := by
      cases answer <;> cases answer' <;> simp_all [Outcome.ofExcept]
    exact hanswer ▸ hverdict

end Template

end GridPolicy
