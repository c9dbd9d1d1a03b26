import GridPolicy.Policy.ResourcePairs
import GridPolicy.Proofs.Document.Quoted
import GridPolicy.Proofs.Query.PositionTokens

/-!
# Metadata filled from a row

The metadata that resources are looked for by is filled from a row in its written form, and
what comes out is read again. A token of a position holds none of the quotes, colons and
commas of that form, so each key and each value is filled apart from the others. The values
of the row, though, come to stand inside quotes without the form that they have there. What
is read again is the metadata filled field by field if that form is no other than their own;
otherwise a value may be read as something else, may add a field, or may not be read at all.
-/
namespace GridPolicy

namespace Template

/-- A text with a value in the places of the token of a position. -/
def replaced (i : Nat) (value cs : List Char) : List Char :=
  Text.replaceFrom (positionToken i).toList value 0 cs

/-- What stands inside quotes, filled from a row. -/
def filledForm (row : Row) (cs : List Char) : List Char := (fillRow (String.ofList cs) row).toList

/-- A text with the values of a row in the places of their tokens. -/
def exchangedText (row : Row) (s : String) : String := String.ofList (exchanged row s.toList)

section Frame

variable {c : Char} (i : Nat) (value : List Char)

theorem foreign_quote : Foreign '\"' := ⟨by decide, by decide, by decide⟩

theorem foreign_colon : Foreign ':' := ⟨by decide, by decide, by decide⟩

theorem foreign_comma : Foreign ',' := ⟨by decide, by decide, by decide⟩

theorem toString_ne_nil : (toString i).toList ≠ [] := fun h => by
  have hread : Text.natural? (toString i).toList = some i := Text.natural?_repr i
  rw [h] at hread
  cases hread

theorem replaced_append_cons (hc : Foreign c) (cs rest : List Char) :
    replaced i value (cs ++ c :: rest) = replaced i value cs ++ c :: replaced i value rest :=
  Text.replaceFrom_append_cons (hc.not_mem i) (positionToken_ne_nil i) cs rest

theorem replaced_cons (hc : Foreign c) (rest : List Char) :
    replaced i value (c :: rest) = c :: replaced i value rest :=
  replaced_append_cons i value hc [] rest

theorem replaced_framedField (key body rest : List Char) :
    replaced i value (framedField key body rest) =
      framedField (replaced i value key) (replaced i value body) (replaced i value rest) := by
  simp only [framedField, replaced_append_cons i value foreign_quote,
    replaced_cons i value foreign_quote, replaced_cons i value foreign_colon]

theorem replaced_closing : replaced i value ['\x7d'] = ['\x7d'] := by
  refine Text.replaceFrom_cons ?_ value
  simp [toList_positionToken, List.cons_prefix_cons]

/-- In a token there is a digit behind the opening brace. -/
theorem replaced_opening (hc : c.isDigit = false) (rest : List Char) :
    replaced i value ('\x7b' :: c :: rest) = '\x7b' :: replaced i value (c :: rest) := by
  obtain ⟨d, digits, hdigits⟩ := List.exists_cons_of_ne_nil (toString_ne_nil i)
  have hdigit : d.isDigit = true := isDigit_of_mem (hdigits ▸ List.mem_cons_self)
  refine Text.replaceFrom_cons (fun hbegins => ?_) value
  rw [toList_positionToken, hdigits, List.cons_append, List.cons_prefix_cons,
    List.cons_prefix_cons] at hbegins
  rw [hbegins.2.1, hc] at hdigit
  cases hdigit

theorem replaced_framedRest (bodies : List (List Char × List Char)) :
    replaced i value (framedRest bodies) =
      framedRest (bodies.map (Prod.map (replaced i value) (replaced i value))) := by
  induction bodies with
  | nil => exact replaced_closing i value
  | cons b bodies ih =>
    rw [framedRest, replaced_cons i value foreign_comma, replaced_framedField, ih]
    rfl

/-- No token of a position reaches over the frame of an object. -/
theorem replaced_framed (bodies : List (List Char × List Char)) :
    replaced i value (framed bodies) =
      framed (bodies.map (Prod.map (replaced i value) (replaced i value))) := by
  cases bodies with
  | nil =>
    rw [framed, replaced_opening i value (by decide), replaced_closing]
    rfl
  | cons b bodies =>
    rw [framed, framedField, replaced_opening i value (by decide), ← framedField,
      replaced_framedField, replaced_framedRest]
    rfl

/-- A frame is filled by filling what is in it. -/
theorem fillRow_framed (bodies : List (List Char × List Char)) (row : Row) :
    (fillRow (String.ofList (framed bodies)) row).toList =
      framed (bodies.map (Prod.map (filledForm row) (filledForm row))) := by
  have hfill (position : Nat) :
      (fillFrom position (String.ofList (framed bodies)) row).toList =
        framed (bodies.map (Prod.map
          (fun cs => (fillFrom position (String.ofList cs) row).toList)
          (fun cs => (fillFrom position (String.ofList cs) row).toList))) := by
    induction row generalizing position bodies with
    | nil => simp [fillFrom]
    | cons v row ih =>
      have hhere := replaced_framed position v.toList bodies
      rw [replaced] at hhere
      simp only [fillFrom, Text.replaceAll, String.toList_ofList, hhere, ih, List.map_map]
      rfl
  exact hfill 0

end Frame

section Quotes

variable {row : Row} {text : String} {i : Nat} {value cs : List Char}

theorem bare_positionToken (i : Nat) : Bare (positionToken i).toList := by
  intro c hc
  rw [toList_positionToken, List.mem_cons, List.mem_append, List.mem_singleton] at hc
  rcases hc with rfl | hc | rfl
  · rfl
  · have hdigit := isDigit_of_mem hc
    refine quotedChar_plain ?_ ?_ ?_
    · rintro rfl
      cases hdigit
    · rintro rfl
      cases hdigit
    · simp only [Char.isDigit, Bool.and_eq_true, decide_eq_true_eq, ge_iff_le,
        UInt32.le_iff_toNat_le] at hdigit
      exact Nat.le_trans (by decide) hdigit.1
  · rfl

/-- Inside quotes no token begins within the form of a character at which none begins
outside. -/
theorem not_begins_in_form {c : Char} {r u v : List Char}
    (hnone : ¬ (positionToken i).toList <+: c :: r) (hform : quotedChar c = u ++ v)
    (hv : v ≠ []) : ¬ (positionToken i).toList <+: v ++ quotedChars r := by
  intro hbegins
  rcases quotedChar_cases c with hc | ⟨form, hc, hopening⟩
  · rw [hc] at hform
    obtain ⟨rfl, rfl⟩ : u = [] ∧ v = [c] := by
      cases u with
      | nil => exact ⟨rfl, hform.symm⟩
      | cons d u => simp_all
    rw [← hc, ← quotedChars_cons, prefix_quotedChars (bare_positionToken i)] at hbegins
    exact hnone hbegins
  · obtain ⟨d, v, rfl⟩ := List.exists_cons_of_ne_nil hv
    rw [toList_positionToken, List.cons_append, List.cons_prefix_cons] at hbegins
    have hmem : '\x7b' ∈ '\\' :: form := by
      rw [← hc, hform, hbegins.1]
      simp
    simp [hopening] at hmem

/-- Inside quotes a token is found where it is found outside, so a value that has no other
form there may be put in on either side. -/
theorem replaced_quotedChars (h : (positionToken i).toList <:+: cs → Bare value) :
    replaced i value (quotedChars cs) = quotedChars (replaced i value cs) := by
  have hne := positionToken_ne_nil i
  unfold replaced
  induction cs using Text.scan_induction (P := (· = (positionToken i).toList)) with
  | hne => exact hne.symm
  | nil => rfl
  | found t rest ht ih =>
    subst ht
    have hvalue := h (List.prefix_append _ rest).isInfix
    rw [quotedChars_append, (bare_positionToken i).quotedChars_eq, Text.replaceFrom_needle hne,
      Text.replaceFrom_needle hne, quotedChars_append, hvalue.quotedChars_eq, ih fun _ => hvalue]
  | char c r hnone ih =>
    have hhere := hnone _ rfl
    rw [Text.replaceFrom_cons hhere, quotedChars_cons, quotedChars_cons,
      ← ih fun hin => h (List.infix_cons hin)]
    exact Text.replaceFrom_append fun u v hform hv => not_begins_in_form hhere hform hv

/-- The row fits the text: no token is found that is not the text's own, and the values that
are put in have no other form inside quotes. -/
structure Fits (row : Row) (text : String) : Prop where
  undisturbed : Undisturbed row (pieces row.length text.toList)
  bare : ∀ i (h : i < row.length), .position i ∈ pieces row.length text.toList →
    Bare row[i].toList

theorem Fits.filledForm_quotedChars (h : Fits row text) :
    filledForm row (quotedChars text.toList) = quotedChars (exchangedText row text).toList := by
  have hstart : (String.ofList (quotedChars text.toList)).toList =
      quotedChars (spelledWith (row.take 0) (pieces row.length text.toList)) := by
    rw [String.toList_ofList, List.take_zero, (reading_pieces _ _).spelled]
  have hstep (i : Nat) (hi : i < row.length) :
      replaced i row[i].toList
          (quotedChars (spelledWith (row.take i) (pieces row.length text.toList))) =
        quotedChars (spelledWith (row.take (i + 1)) (pieces row.length text.toList)) := by
    have hown := h.undisturbed i hi
    have hvalue : (positionToken i).toList <:+:
        spelledWith (row.take i) (pieces row.length text.toList) → Bare row[i].toList := by
      rintro ⟨u, v, huv⟩
      obtain ⟨before, after, hps, -⟩ := hown u v (by rw [← huv, List.append_assoc])
      exact h.bare i hi (by simp [hps])
    rw [replaced_quotedChars hvalue, replaced, replaceFrom_own hi hown]
  have hfilled := fillFrom_steps
    (fun k => quotedChars (spelledWith (row.take k) (pieces row.length text.toList)))
    hstep rfl hstart
  rw [Nat.zero_max, List.take_length] at hfilled
  rw [filledForm, fillRow, exchangedText, String.toList_ofList]
  exact hfilled

/-- A text that is the token of the first position and nothing else. -/
theorem pieces_first : pieces 1 ("\x7b0\x7d" : String).toList = [.position 0] := by
  have htoken : ("\x7b0\x7d" : String).toList = (positionToken 0).toList ++ [] := by decide
  rw [htoken, pieces_token Nat.one_pos, pieces_nil]

theorem fits_first {v : String} (hopening : '\x7b' ∉ v.toList) (hbare : Bare v.toList) :
    Fits [v] "\x7b0\x7d" ∧ exchangedText [v] "\x7b0\x7d" = v := by
  have hapart : Apart (pieces 1 ("\x7b0\x7d" : String).toList) := by
    rw [pieces_first]
    exact .singleton _
  refine ⟨⟨undisturbed_of_apart (by simpa using hopening) hapart, fun i hi _ => ?_⟩, ?_⟩
  · obtain rfl := Nat.lt_one_iff.mp hi
    exact hbare
  · have hexchanged : exchanged [v] ("\x7b0\x7d" : String).toList =
        spelledWith [v] [.position 0] := by rw [← pieces_first]; rfl
    rw [exchangedText, hexchanged]
    simp [Piece.spelled]

theorem pieces_of_free (h : ∀ i < row.length, ¬ (positionToken i).toList <:+: cs) :
    pieces row.length cs = cs.map .char := by
  induction cs using pieces_induction row.length with
  | nil => rfl
  | token i rest hi => exact absurd (List.prefix_append ..).isInfix (h i hi)
  | char c r hnone ih =>
    rw [pieces_char hnone, ih fun i hi hin => h i hi (List.infix_cons hin), List.map_cons]

/-- Every row fits a text without tokens, and leaves it as it is. -/
theorem fits_of_free (h : ∀ i < row.length, ¬ (positionToken i).toList <:+: text.toList) :
    Fits row text ∧ exchangedText row text = text := by
  have hpieces := pieces_of_free h
  refine ⟨⟨fun i hi u v heq => ?_, fun i hi hmem => ?_⟩, ?_⟩
  · rw [hpieces, spelledWith_map_char] at heq
    exact absurd ⟨u, v, by rw [heq, List.append_assoc]⟩ (h i hi)
  · simp [hpieces] at hmem
  · rw [exchangedText, exchanged, hpieces, spelledWith_map_char, String.ofList_toList]

theorem filledForm_of_free (h : ∀ i < row.length, ¬ (positionToken i).toList <:+: text.toList) :
    filledForm row (quotedChars text.toList) = quotedChars text.toList := by
  obtain ⟨hfits, hsame⟩ := fits_of_free h
  rw [hfits.filledForm_quotedChars, hsame]

end Quotes

end Template

namespace ResourcePairs

open Template

/-- A text with its key, the values of a row put in. -/
def exchangedField (row : Row) (t : String × String) : String × String :=
  (t.1, exchangedText row t.2)

section Texts

variable {texts : List (String × String)} {row : Row}

/-- A key of the metadata has the text of that key, the values of a row put in. -/
theorem get?_exchanged (texts : List (String × String)) (row : Row) (key : String) :
    (Fields.ofTexts (texts.map (exchangedField row))).get? key =
      (texts.lookup key).map fun s => .text (exchangedText row s) := by
  induction texts with
  | nil => rfl
  | cons t rest ih =>
    obtain ⟨k, s⟩ := t
    have hcons : Fields.ofTexts (((k, s) :: rest).map (exchangedField row)) =
        (k, .text (exchangedText row s)) :: Fields.ofTexts (rest.map (exchangedField row)) := rfl
    rw [hcons, Fields.get?_cons, List.lookup_cons, ih]
    by_cases hkey : k = key
    · simp [hkey]
    · have hne : (key == k) = false := by simpa using Ne.symm hkey
      simp [hkey, hne]

theorem distinct_exchanged (h : (texts.map Prod.fst).Nodup) (row : Row) :
    (Fields.ofTexts (texts.map (exchangedField row))).Distinct := by
  have hkeys : (Fields.ofTexts (texts.map (exchangedField row))).map Prod.fst =
      texts.map Prod.fst := by
    rw [Fields.ofTexts, List.map_map, List.map_map]
    rfl
  rwa [Fields.Distinct, hkeys]

/-- Whatever the row, the metadata is read again from the frame of the metadata around its
keys and values, each filled by itself. -/
theorem fillMetadata?_texts (texts : List (String × String)) (row : Row) :
    fillMetadata? (.object (Fields.ofTexts texts)) (row.map .text) =
      Document.Reader.parse (String.ofList (framed
        ((texts.map quotedForms).map (Prod.map (filledForm row) (filledForm row))))) := by
  have hrow : (row.map Document.text).map Document.plain = row := by
    rw [List.map_map]
    exact List.map_id row
  have hwritten : (Document.object (Fields.ofTexts texts)).written =
      String.ofList (framed (texts.map quotedForms)) := by
    rw [← Document.toList_written_texts, String.ofList_toList]
  rw [fillMetadata?, hrow, hwritten, ← fillRow_framed, String.ofList_toList]

theorem fillMetadata?_fits
    (hkeys : ∀ t ∈ texts, ∀ i < row.length, ¬ (positionToken i).toList <:+: t.1.toList)
    (hfits : ∀ t ∈ texts, Fits row t.2) :
    fillMetadata? (.object (Fields.ofTexts texts)) (row.map .text) =
      some (.object (Fields.ofList (Fields.ofTexts (texts.map (exchangedField row))))) := by
  have hforms : (texts.map quotedForms).map (Prod.map (filledForm row) (filledForm row)) =
      (texts.map (exchangedField row)).map quotedForms := by
    rw [List.map_map, List.map_map]
    refine List.map_congr_left fun t ht => ?_
    rw [Function.comp_apply, Function.comp_apply, quotedForms, Prod.map_apply,
      filledForm_of_free (hkeys t ht), (hfits t ht).filledForm_quotedChars]
    rfl
  rw [fillMetadata?_texts, hforms, Document.Reader.parse_framed]

end Texts

/-- The invocations for the resources in the first column of the rows. -/
def pairsOf (invoke : Invoker) (i : Invocation) (rows : List Row) : Run PolicyError Document := do
  let failures ← runEntries invoke i (neighbours (rows.filterMap List.head?))
    (chainEntries i.configuration)
  Run.ofExcept (PolicyError.ofFailures failures)
  return .null

theorem body_eq_pairsOf {i : Invocation} {configured filled : Document}
    (hchain : chainEntries i.configuration ≠ [])
    (hmetadata : configuredMetadata? i.configuration = some configured)
    (hwanted : wantedMetadata i configured = pure filled) (invoke : Invoker) :
    body invoke i =
      (queryRows (resourceQuery filled) 0 .general).mapError .service >>= pairsOf invoke i := by
  have hentries : (chainEntries i.configuration).isEmpty = false := by simpa using hchain
  simp only [body, hentries, hmetadata, hwanted]
  rfl

/-- Every key and every value of the metadata is filled from the row by itself, in written form.
Where no key has a token and the row fits the values, the metadata to look for has the same
keys and, for each, the value that was configured with the values of the row put in; the
invocation is not refused, and the resources are asked for by this metadata. -/
theorem wantedMetadata_fieldwise (texts : List (String × String)) (row : Row) :
    fillMetadata? (.object (Fields.ofTexts texts)) (row.map .text) =
      Document.Reader.parse (String.ofList (framed
        ((texts.map quotedForms).map (Prod.map (filledForm row) (filledForm row))))) ∧
    ((texts.map Prod.fst).Nodup →
      (∀ t ∈ texts, ∀ k < row.length, ¬ (positionToken k).toList <:+: t.1.toList) →
      (∀ t ∈ texts, Fits row t.2) →
      ∃ filled : Fields,
        (∀ key, filled.get? key =
          (texts.lookup key).map fun s => .text (exchangedText row s)) ∧
        ∀ i, i.parameters.get? Key.queryResults = some (Document.ofTexts row) →
          wantedMetadata i (.object (Fields.ofTexts texts)) = pure (.object filled) ∧
          (chainEntries i.configuration ≠ [] →
            configuredMetadata? i.configuration = some (.object (Fields.ofTexts texts)) →
            ∀ invoke, body invoke i =
              (queryRows (resourceQuery (.object filled)) 0 .general).mapError .service >>=
                pairsOf invoke i)) := by
  refine ⟨fillMetadata?_texts texts row, fun hkeys hfree hfits => ?_⟩
  have hfilled := fillMetadata?_fits hfree hfits
  refine ⟨Fields.ofList (Fields.ofTexts (texts.map (exchangedField row))), fun key => ?_,
    fun i hresults => ?_⟩
  · rw [Fields.get?_ofList (distinct_exchanged hkeys row), get?_exchanged]
  · have hwanted : wantedMetadata i (.object (Fields.ofTexts texts)) =
        pure (.object (Fields.ofList (Fields.ofTexts (texts.map (exchangedField row))))) := by
      simp only [wantedMetadata, hresults, Document.ofTexts, hfilled]
    exact ⟨hwanted, fun hchain hmetadata => body_eq_pairsOf hchain hmetadata hwanted⟩

theorem wantedMetadata_fieldwise_named :
    let texts := [("attribute", "\x7b0\x7d")]
    let row : Row := ["site::tier"]
    let query :=
      "SELECT RESC_NAME, ORDER(META_RESC_ATTR_UNITS) WHERE META_RESC_ATTR_NAME = 'site::tier'"
    let i : Invocation :=
      ⟨name, .object [(Key.queryResults, .ofTexts row)],
        .object [(Key.conditional, .object [(Key.metadata, .object (Fields.ofTexts texts))]),
          (Key.policiesToInvoke, .array [.object [("policy", .text "tier")]])]⟩
    (texts.map Prod.fst).Nodup ∧
    (∀ t ∈ texts, ∀ k < row.length, ¬ (positionToken k).toList <:+: t.1.toList) ∧
    (∀ t ∈ texts, Fits row t.2) ∧
    ∀ invoke, body invoke i =
      (queryRows query 0 .general).mapError .service >>= pairsOf invoke i := by
  intro texts row query i
  have hfirst := fits_first (v := "site::tier") (by decide) (by decide)
  have hkeys : (texts.map Prod.fst).Nodup := by decide
  have hfree : ∀ t ∈ texts, ∀ k < row.length, ¬ (positionToken k).toList <:+: t.1.toList := by
    decide
  have hfits : ∀ t ∈ texts, Fits row t.2 := by
    intro t ht
    obtain rfl := List.mem_singleton.mp ht
    exact hfirst.1
  obtain ⟨filled, hget, hasked⟩ := (wantedMetadata_fieldwise texts row).2 hkeys hfree hfits
  have hquery : resourceQuery (.object filled) = query := by
    have hfield (key : String) : (Document.object filled).textField? key =
        (texts.lookup key).map (exchangedText row) := by
      rw [Document.textField?, Document.get?, Document.fields, hget]
      cases texts.lookup key <;> rfl
    have hattribute : (texts.lookup "attribute").map (exchangedText row) = some "site::tier" :=
      congrArg some hfirst.2
    have hvalue : (texts.lookup "value").map (exchangedText row) = none := by decide
    have hunits : (texts.lookup "units").map (exchangedText row) = none := by decide
    have hclauses : columns.filterMap (clause? (.object filled)) =
        ["META_RESC_ATTR_NAME = 'site::tier'"] := by
      simp [columns, clause?, Document.filledField?, hfield, hattribute, hvalue, hunits]
    unfold resourceQuery
    simp [hclauses, Text.join, query]
  refine ⟨hkeys, hfree, hfits, fun invoke => ?_⟩
  rw [(hasked i rfl).2 (by decide) rfl invoke, hquery]

section Token

variable {key : String} (hkey : ¬ (positionToken 0).toList <:+: key.toList)
include hkey

/-- A value in the place of a whole text comes to stand inside the quotes as it is. -/
theorem fillMetadata?_token (value : String) :
    fillMetadata? (.object (Fields.ofTexts [(key, "\x7b0\x7d")])) [.text value] =
      Document.Reader.parse (String.ofList (framed [(quotedChars key.toList, value.toList)])) := by
  have hfree : ∀ i < [value].length, ¬ (positionToken i).toList <:+: key.toList := by
    intro i hi
    rwa [Nat.lt_one_iff.mp hi]
  have hvalueForm : filledForm [value] (quotedChars ("\x7b0\x7d" : String).toList) =
      value.toList := by
    have hform : quotedChars ("\x7b0\x7d" : String).toList = (positionToken 0).toList ++ [] := by
      decide
    have hput := Text.replaceFrom_needle (positionToken_ne_nil 0) value.toList []
    rw [filledForm, hform, fillRow, fillFrom, fillFrom, Text.replaceAll, String.toList_ofList,
      String.toList_ofList, hput]
    simp [Text.replaceFrom]
  have htexts := fillMetadata?_texts [(key, "\x7b0\x7d")] [value]
  simp only [List.map_cons, List.map_nil, quotedForms, Prod.map_apply,
    filledForm_of_free hfree, hvalueForm] at htexts
  exact htexts

/-- A value may bring a frame of its own: whoever chooses it chooses a further field, or gives
one of the others another value. -/
theorem fillMetadata?_adds_field (value other more : String) :
    fillMetadata? (.object (Fields.ofTexts [(key, "\x7b0\x7d")]))
        [.text (String.ofList (quotedChars value.toList ++
          '\"' :: ',' :: '\"' :: (quotedChars other.toList ++
            '\"' :: ':' :: '\"' :: quotedChars more.toList)))] =
      some (.object (Fields.ofList (Fields.ofTexts [(key, value), (other, more)]))) := by
  rw [fillMetadata?_token hkey, String.toList_ofList, ← Document.Reader.parse_framed]
  simp [framed, framedField, framedRest, quotedForms]

/-- Behind a quote of its own a value has to go on like a frame, or the invocation is refused. -/
theorem fillMetadata?_refused (value : String) {c : Char}
    (hspace : Document.Reader.isSpace c = false) (hcomma : c ≠ ',') (hclosing : c ≠ '\x7d')
    (rest : List Char) :
    fillMetadata? (.object (Fields.ofTexts [(key, "\x7b0\x7d")]))
      [.text (String.ofList (quotedChars value.toList ++ '\"' :: c :: rest))] = none := by
  rw [fillMetadata?_token hkey, String.toList_ofList,
    ← Document.Reader.parse_stray (key, value) hspace hcomma hclosing (rest ++ ['\"', '\x7d'])]
  simp [framed, framedField, framedRest, quotedForms]

end Token

end ResourcePairs

end GridPolicy
