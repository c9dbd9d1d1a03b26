import GridPolicy.Document.Printer
import GridPolicy.Document.Reader
import GridPolicy.Proofs.Document.Fields
import Mathlib.Tactic.SplitIfs

/-!
# Texts in quotes

Inside quotes some characters have another form than outside. A text in quotes is read as the
text it is of, and so is an object of texts: what is written of it is a frame of braces,
quotes, colons and commas around the forms of its keys and values, and what is read are these
keys and values. The frame is described apart from what it is filled with, since a text that
is put into it need not be the form of any.
-/
namespace GridPolicy

/-- The form that a text has inside quotes. -/
def quotedChars (cs : List Char) : List Char := cs.flatMap quotedChar

@[simp] theorem quotedChars_nil : quotedChars [] = [] := rfl

@[simp] theorem quotedChars_cons (c : Char) (cs : List Char) :
    quotedChars (c :: cs) = quotedChar c ++ quotedChars cs := rfl

@[simp] theorem quotedChars_append (cs rest : List Char) :
    quotedChars (cs ++ rest) = quotedChars cs ++ quotedChars rest := List.flatMap_append

theorem toList_quoted (s : String) :
    (quoted s).toList = '\"' :: (quotedChars s.toList ++ ['\"']) := by
  simp [quoted, quotedChars]

/-- A character stands for itself inside quotes, or its form has a backslash and then only
letters, digits and signs that need no form. -/
theorem quotedChar_cases (c : Char) :
    quotedChar c = [c] ∨ ∃ r, quotedChar c = '\\' :: r ∧ '\x7b' ∉ r := by
  have hhex : ∀ n < 16, '\x7b' ≠ hexDigit n := by decide
  unfold quotedChar
  repeat' split
  all_goals simp
  next hcontrol => exact ⟨hhex _ (by omega), hhex _ (by omega)⟩

/-- No character of the text has another form inside quotes. -/
def Bare (cs : List Char) : Prop := ∀ c ∈ cs, quotedChar c = [c]

instance : DecidablePred Bare := fun _ => List.decidableBAll _ _

theorem quotedChar_plain {c : Char} (hquote : c ≠ '\"') (hescape : c ≠ '\\')
    (hcontrol : 32 ≤ c.toNat) : quotedChar c = [c] := by
  have hne {d : Char} (hd : d.toNat < 32) : c ≠ d := by
    rintro rfl
    omega
  have hline : c ≠ '\n' := hne (by decide)
  have hreturn : c ≠ '\r' := hne (by decide)
  have htab : c ≠ '\t' := hne (by decide)
  have hcode {n : Nat} (hn : n < 32) : c.toNat ≠ n := by omega
  simp [quotedChar, hquote, hescape, hline, hreturn, htab, hcode, Nat.not_lt.mpr hcontrol]

theorem Bare.quotedChars_eq {cs : List Char} (h : Bare cs) : quotedChars cs = cs := by
  induction cs with
  | nil => rfl
  | cons c cs ih =>
    obtain ⟨hc, hcs⟩ := List.forall_mem_cons.mp h
    rw [quotedChars_cons, hc, ih hcs, List.singleton_append]

/-- What is bare stands at the beginning inside quotes if it stands there outside. -/
theorem prefix_quotedChars {needle cs : List Char} (h : Bare needle) :
    needle <+: quotedChars cs ↔ needle <+: cs := by
  induction needle generalizing cs with
  | nil => simp
  | cons a needle ih =>
    obtain ⟨ha, hneedle⟩ := List.forall_mem_cons.mp h
    cases cs with
    | nil => simp
    | cons c cs =>
      rw [quotedChars_cons]
      rcases quotedChar_cases c with hc | ⟨r, hc, -⟩
      · rw [hc, List.singleton_append, List.cons_prefix_cons, List.cons_prefix_cons, ih hneedle]
      · have hescape : a ≠ '\\' := by
          rintro rfl
          exact absurd ha (by decide)
        have hne : a ≠ c := by
          rintro rfl
          rw [ha, List.cons.injEq] at hc
          exact hescape hc.1
        simp [hc, List.cons_prefix_cons, hescape, hne]

namespace Document.Reader

section Text

variable {acc rest : List Char} {c : Char}

theorem hexValue?_hexDigit : ∀ n < 16, hexValue? (hexDigit n) = some n := by decide

theorem hexFour?_control {n : Nat} (h : n < 32) :
    hexFour? '0' '0' (hexDigit (n / 16)) (hexDigit (n % 16)) = some n := by
  have hhigh := hexValue?_hexDigit (n / 16) (by omega)
  have hlow := hexValue?_hexDigit (n % 16) (by omega)
  have hzero : hexValue? '0' = some 0 := rfl
  simp [hexFour?, hhigh, hlow, hzero, Nat.div_add_mod']

/-- The rest is looked at only if the character may be half of a pair. -/
theorem readText_hex {a b c d : Char} {n : Nat} (h : hexFour? a b c d = some n)
    (hlow : n < 0xD800) :
    readText acc ('\\' :: 'u' :: a :: b :: c :: d :: rest) =
      readText (Char.ofNat n :: acc) rest := by
  have hhigh : isHigh n = false := by simp [isHigh]; omega
  have hlower : isLow n = false := by simp [isLow]; omega
  rw [readText.eq_def]
  split
  all_goals grind

theorem readText_short {e : Char} (h : shortEscape? c = some e) :
    readText acc ('\\' :: c :: rest) = readText (e :: acc) rest := by
  have hu : c ≠ 'u' := by rintro rfl; cases h
  rw [readText.eq_def]
  split
  all_goals grind

theorem readText_plain (hquote : c ≠ '\"') (hescape : c ≠ '\\') (hcontrol : 32 ≤ c.toNat) :
    readText acc (c :: rest) = readText (c :: acc) rest := by
  rw [readText.eq_def]
  split
  all_goals grind

theorem readText_quotedChar (acc : List Char) (c : Char) (rest : List Char) :
    readText acc (quotedChar c ++ rest) = readText (c :: acc) rest := by
  have hcode {n : Nat} (h : (c.toNat == n) = true) : c = Char.ofNat n := by
    rw [← Char.ofNat_toNat c, eq_of_beq h]
  unfold quotedChar
  split_ifs with hquote hescape hline hreturn htab hback hfeed hcontrol
  · exact readText_short (by rw [eq_of_beq hquote]; rfl)
  · exact readText_short (by rw [eq_of_beq hescape]; rfl)
  · exact readText_short (by rw [eq_of_beq hline]; rfl)
  · exact readText_short (by rw [eq_of_beq hreturn]; rfl)
  · exact readText_short (by rw [eq_of_beq htab]; rfl)
  · exact readText_short (by rw [hcode hback]; rfl)
  · exact readText_short (by rw [hcode hfeed]; rfl)
  · have hread : readText acc (['\\', 'u', '0', '0', hexDigit (c.toNat / 16),
        hexDigit (c.toNat % 16)] ++ rest) = readText (Char.ofNat c.toNat :: acc) rest :=
      readText_hex (hexFour?_control hcontrol) (by omega)
    rwa [Char.ofNat_toNat] at hread
  · exact readText_plain (by simpa using hquote) (by simpa using hescape) (by omega)

theorem readText_quotedChars (acc cs rest : List Char) :
    readText acc (quotedChars cs ++ '\"' :: rest) =
      some (String.ofList (acc.reverse ++ cs), rest) := by
  induction cs generalizing acc with
  | nil => simp [readText]
  | cons c cs ih =>
    rw [quotedChars_cons, List.append_assoc, readText_quotedChar, ih]
    simp

end Text

end Document.Reader

/-- An object of texts. -/
def Fields.ofTexts (texts : List (String × String)) : Fields := texts.map fun t => (t.1, .text t.2)

/-- A key and a value in the frame of an object, with what follows them. -/
def framedField (key value rest : List Char) : List Char :=
  '\"' :: (key ++ '\"' :: ':' :: '\"' :: (value ++ '\"' :: rest))

/-- The frame from behind a value on. -/
def framedRest : List (List Char × List Char) → List Char
  | [] => ['\x7d']
  | (key, value) :: r => ',' :: framedField key value (framedRest r)

/-- What stands between the quotes of keys and values, in the frame of an object. -/
def framed : List (List Char × List Char) → List Char
  | [] => ['\x7b', '\x7d']
  | (key, value) :: r => '\x7b' :: framedField key value (framedRest r)

/-- The forms of a key and a value inside quotes. -/
def quotedForms (t : String × String) : List Char × List Char :=
  (quotedChars t.1.toList, quotedChars t.2.toList)

namespace Document

section Written

variable {texts : List (String × String)}

theorem toList_writtenFields (t : String × String) (texts : List (String × String)) :
    (writtenFields (Fields.ofTexts (t :: texts))).toList ++ ['\x7d'] =
      framedField (quotedForms t).1 (quotedForms t).2 (framedRest (texts.map quotedForms)) := by
  induction texts generalizing t with
  | nil =>
    simp [Fields.ofTexts, writtenFields, Document.written, toList_quoted, framedField, framedRest,
      quotedForms]
  | cons next rest ih =>
    have hnext := ih next
    simp only [Fields.ofTexts, List.map_cons, framedRest, ← hnext]
    simp [writtenFields, Document.written, toList_quoted, framedField, quotedForms]

/-- The written form of an object of texts is its frame around the forms of its keys and
values. -/
theorem toList_written_texts (texts : List (String × String)) :
    (object (Fields.ofTexts texts)).written.toList = framed (texts.map quotedForms) := by
  cases texts with
  | nil => rfl
  | cons t rest =>
    simp [Document.written, framed, ← toList_writtenFields]

theorem canonicalFields_ofTexts (texts : List (String × String)) :
    canonicalFields (Fields.ofTexts texts) = Fields.ofTexts texts := by
  induction texts with
  | nil => rfl
  | cons t rest ih =>
    simpa [Fields.ofTexts, canonicalFields, Document.canonical] using ih

end Written

namespace Reader

theorem skipSpaces_cons {c : Char} (h : isSpace c = false) (rest : List Char) :
    skipSpaces (c :: rest) = c :: rest := List.dropWhile_cons_of_neg (by simp [h])

theorem readValue_quoted (depth steps : Nat) (s : String) (rest : List Char) :
    readValue depth (steps + 1) ('\"' :: (quotedChars s.toList ++ '\"' :: rest)) =
      some (.text s, rest) := by
  rw [readValue, skipSpaces_cons rfl]
  simp [readText_quotedChars]

section Fields

variable (depth steps : Nat) (t : String × String) (rest : List Char) (acc : Fields)

theorem readFields_comma :
    readFields depth (steps + 2) (framedField (quotedForms t).1 (quotedForms t).2 (',' :: rest))
        acc = readFields depth (steps + 1) rest ((t.1, .text t.2) :: acc) := by
  have hcolon : ∀ r, skipSpaces (':' :: r) = ':' :: r := skipSpaces_cons rfl
  have hcomma : skipSpaces (',' :: rest) = ',' :: rest := skipSpaces_cons rfl rest
  rw [readFields, framedField, quotedForms, skipSpaces_cons rfl]
  simp [readText_quotedChars, hcolon, readValue_quoted, hcomma]

theorem readFields_closing :
    readFields depth (steps + 2)
        (framedField (quotedForms t).1 (quotedForms t).2 ('\x7d' :: rest)) acc =
      some (((t.1, .text t.2) :: acc).reverse, rest) := by
  have hcolon : ∀ r, skipSpaces (':' :: r) = ':' :: r := skipSpaces_cons rfl
  have hclosing : skipSpaces ('\x7d' :: rest) = '\x7d' :: rest := skipSpaces_cons rfl rest
  rw [readFields, framedField, quotedForms, skipSpaces_cons rfl]
  simp [readText_quotedChars, hcolon, readValue_quoted, hclosing]

theorem readFields_stray {c : Char} (hspace : isSpace c = false) (hcomma : c ≠ ',')
    (hclosing : c ≠ '\x7d') :
    readFields depth (steps + 2) (framedField (quotedForms t).1 (quotedForms t).2 (c :: rest))
        acc = none := by
  have hcolon : ∀ r, skipSpaces (':' :: r) = ':' :: r := skipSpaces_cons rfl
  have hstray : skipSpaces (c :: rest) = c :: rest := skipSpaces_cons hspace rest
  rw [readFields, framedField, quotedForms, skipSpaces_cons rfl]
  simp [readText_quotedChars, hcolon, readValue_quoted, hstray, hcomma, hclosing]

end Fields

/-- Each field takes a step, and the value of the last one another. -/
theorem readFields_framed (depth spare : Nat) (t : String × String)
    (texts : List (String × String)) (acc : Fields) :
    readFields depth (spare + texts.length + 2)
        (framedField (quotedForms t).1 (quotedForms t).2 (framedRest (texts.map quotedForms))) acc =
      some (acc.reverse ++ Fields.ofTexts (t :: texts), []) := by
  induction texts generalizing t acc with
  | nil => simp [framedRest, readFields_closing, Fields.ofTexts]
  | cons next rest ih =>
    have hnext := ih next ((t.1, .text t.2) :: acc)
    have hmore : acc.reverse ++ Fields.ofTexts (t :: next :: rest) =
        ((t.1, Document.text t.2) :: acc).reverse ++ Fields.ofTexts (next :: rest) := by
      simp [Fields.ofTexts]
    rw [hmore, ← hnext]
    exact readFields_comma depth (spare + rest.length + 1) t _ acc

theorem readValue_object {depth : Nat} (h : 1 < depth) (steps : Nat) (key value rest : List Char) :
    readValue depth (steps + 1) ('\x7b' :: framedField key value rest) =
      (readFields (depth - 1) steps (framedField key value rest) []).map fun read =>
        (.object read.1, read.2) := by
  have hquote : ∀ r, skipSpaces ('\"' :: r) = '\"' :: r := skipSpaces_cons rfl
  rw [readValue, skipSpaces_cons rfl]
  simp [framedField, hquote, Nat.not_le.mpr h]

theorem length_le_framedRest (bodies : List (List Char × List Char)) :
    bodies.length ≤ (framedRest bodies).length := by
  induction bodies with
  | nil => simp
  | cons b r ih =>
    simp only [framedRest, framedField, List.length_cons, List.length_append]
    omega

theorem parse_of_readValue {cs : List Char} (read : Option Document)
    (h : readValue 128 (2 * cs.length + 2) cs = read.map fun d => (d, [])) :
    parse (String.ofList cs) = read.map Document.canonical := by
  unfold parse parseWritten
  rw [String.toList_ofList]
  dsimp only
  rw [h]
  cases read <;> rfl

/-- Behind the quote that ends a value there may only be a comma or a closing brace. -/
theorem parse_stray (t : String × String) {c : Char} (hspace : isSpace c = false)
    (hcomma : c ≠ ',') (hclosing : c ≠ '\x7d') (rest : List Char) :
    parse (String.ofList
      ('\x7b' :: framedField (quotedForms t).1 (quotedForms t).2 (c :: rest))) = none := by
  refine parse_of_readValue none ?_
  rw [List.length_cons, Nat.mul_succ, readValue_object (by decide), readFields_stray _ _ _ _ _
    hspace hcomma hclosing]
  rfl

/-- An object of texts is read from its frame around their forms. -/
theorem parse_framed (texts : List (String × String)) :
    parse (String.ofList (framed (texts.map quotedForms))) =
      some (.object (Fields.ofList (Fields.ofTexts texts))) := by
  have hcanonical : (object (Fields.ofTexts texts)).canonical =
      .object (Fields.ofList (Fields.ofTexts texts)) := by
    rw [Document.canonical, canonicalFields_ofTexts]
  rw [← hcanonical]
  apply parse_of_readValue (some (.object (Fields.ofTexts texts)))
  cases texts with
  | nil => rfl
  | cons t rest =>
    have hlength := length_le_framedRest (rest.map quotedForms)
    obtain ⟨spare, hspare⟩ : ∃ spare, 2 * (framed ((t :: rest).map quotedForms)).length + 2 =
        spare + rest.length + 2 + 1 := by
      have hsteps : rest.length + 3 ≤ 2 * (framed ((t :: rest).map quotedForms)).length + 2 := by
        simp only [List.length_map, List.map_cons, framed, framedField, List.length_cons,
          List.length_append] at hlength ⊢
        omega
      exact Nat.exists_eq_add_of_le' hsteps
    rw [hspare, List.map_cons, framed, readValue_object (by decide), readFields_framed]
    rfl

end Reader

end Document

end GridPolicy
