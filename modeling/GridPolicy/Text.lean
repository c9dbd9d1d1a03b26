/-!
# Text

Text is handled as a list of characters: every scan below walks the list, so a
statement about what is cut, kept or replaced is an induction on it. `String`
is only the outer form. The blank characters are the white space of Unicode,
which is wider than the ASCII class of the core library.
-/
namespace GridPolicy.Text

/-- The characters with the Unicode property White_Space. -/
def isBlank (c : Char) : Bool :=
  let n := c.toNat
  (0x9 ≤ n && n ≤ 0xD) || n == 0x20 || n == 0x85 || n == 0xA0 || n == 0x1680 ||
    (0x2000 ≤ n && n ≤ 0x200A) || n == 0x2028 || n == 0x2029 || n == 0x202F ||
    n == 0x205F || n == 0x3000

/-- Drops the longest end of the list whose members all satisfy `p`. -/
def dropEndWhile {α : Type} (p : α → Bool) (cs : List α) : List α :=
  (cs.reverse.dropWhile p).reverse

@[simp] theorem dropEndWhile_nil {α : Type} (p : α → Bool) : dropEndWhile p [] = [] := rfl

/-- A last member that satisfies `p` is dropped, and the rest is cut the same way. -/
theorem dropEndWhile_concat {α : Type} (p : α → Bool) (cs : List α) (c : α) :
    dropEndWhile p (cs ++ [c]) = if p c then dropEndWhile p cs else cs ++ [c] := by
  by_cases h : p c <;> simp [dropEndWhile, h]

/-- What is dropped and what is kept make up the list. -/
theorem dropEndWhile_append_suffix {α : Type} (p : α → Bool) (cs : List α) :
    dropEndWhile p cs ++ (cs.reverse.takeWhile p).reverse = cs := by
  rw [dropEndWhile, ← List.reverse_append, List.takeWhile_append_dropWhile,
    List.reverse_reverse]

/-- Removes blank characters at both ends. -/
def trimChars (cs : List Char) : List Char :=
  dropEndWhile isBlank (cs.dropWhile isBlank)

/-- Removes blank characters at both ends. -/
def trim (s : String) : String := String.ofList (trimChars s.toList)

/-- What follows the lead completes it to the text. -/
theorem append_of_isPrefixOf? {lead cs rest : List Char} (h : lead.isPrefixOf? cs = some rest) :
    lead ++ rest = cs := by
  induction lead generalizing cs with
  | nil => exact (Option.some.inj h).symm
  | cons c r ih =>
    cases cs with
    | nil =>
      have none_eq : none = some rest := h
      cases none_eq
    | cons d cs =>
      have step : (c :: r).isPrefixOf? (d :: cs) =
          if c == d then r.isPrefixOf? cs else none := rfl
      rw [step] at h
      split at h
      · next hd => rw [List.cons_append, ih h, eq_of_beq hd]
      · cases h

/-- Splits at the first occurrence of `needle`, which belongs to neither part. -/
def cutAt (needle : List Char) : List Char → Option (List Char × List Char)
  | [] => if needle.isEmpty then some ([], []) else none
  | c :: r =>
    match needle.isPrefixOf? (c :: r) with
    | some rest => some ([], rest)
    | none => (cutAt needle r).map fun parts => (c :: parts.1, parts.2)

/-- What was before the occurrence, the occurrence and what is after it make up
the text. -/
theorem eq_of_cutAt {needle cs before after : List Char}
    (h : cutAt needle cs = some (before, after)) : cs = before ++ (needle ++ after) := by
  induction cs generalizing before with
  | nil =>
    by_cases hn : needle = []
    · simp_all [cutAt]
    · simp [cutAt, hn] at h
  | cons c r ih =>
    cases hp : needle.isPrefixOf? (c :: r) with
    | some rest =>
      simp only [cutAt, hp, Option.some.injEq, Prod.mk.injEq] at h
      obtain ⟨rfl, rfl⟩ := h
      simpa using (append_of_isPrefixOf? hp).symm
    | none =>
      simp only [cutAt, hp, Option.map_eq_some_iff, Prod.mk.injEq, Prod.exists] at h
      obtain ⟨b, a, hcut, rfl, rfl⟩ := h
      rw [ih hcut]
      rfl

/-- Splits at the last occurrence of `separator`, which belongs to neither part. -/
def cutLast (separator : Char) : List Char → Option (List Char × List Char)
  | [] => none
  | c :: r =>
    match cutLast separator r with
    | some (before, after) => some (c :: before, after)
    | none => if c = separator then some ([], r) else none

/-- Whether `needle` occurs in the text. -/
def contains (text needle : String) : Bool := (cutAt needle.toList text.toList).isSome

/-- Every occurrence of `needle`, found from the left and without overlap, is
exchanged for `value`; `skip` counts the characters of an occurrence that are
still to be passed over. An empty needle occurs nowhere. -/
def replaceFrom (needle value : List Char) : Nat → List Char → List Char
  | _, [] => []
  | skip + 1, _ :: r => replaceFrom needle value skip r
  | 0, c :: r =>
    if !needle.isEmpty && needle.isPrefixOf (c :: r) then
      value ++ replaceFrom needle value (needle.length - 1) r
    else c :: replaceFrom needle value 0 r

/-- Exchanges every occurrence of `needle` for `value`. -/
def replaceAll (needle value text : String) : String :=
  String.ofList (replaceFrom needle.toList value.toList 0 text.toList)

/-- What follows `lead`, if the text begins with it. -/
def after? (lead text : String) : Option String :=
  (lead.toList.isPrefixOf? text.toList).map String.ofList

/-- Whether the text ends with `tail`. -/
def endsWith (text tail : String) : Bool := tail.toList.isSuffixOf text.toList

/-- Whether the text begins with `lead`. -/
def beginsWith (text lead : String) : Bool := lead.toList.isPrefixOf text.toList

/-- An ASCII lower-case letter becomes its capital; nothing else changes. -/
def upper (s : String) : String := String.ofList (s.toList.map Char.toUpper)

/-- An ASCII capital becomes its lower-case letter; nothing else changes. -/
def lower (s : String) : String := String.ofList (s.toList.map Char.toLower)

/-- Equality up to the case of ASCII letters. -/
def sameLetters (a b : String) : Bool := lower a == lower b

/-- The pieces between the occurrences of a separating character. -/
def pieces (separator : Char) (s : String) : List String :=
  (s.toList.splitOn separator).map String.ofList

/-- The texts in order with `separator` between neighbours. -/
def join (separator : String) : List String → String
  | [] => ""
  | [s] => s
  | s :: r => s ++ separator ++ join separator r

/-- The lines of a text: each ends at a line feed, a carriage return before
the line feed belongs to the ending, and a last line need not be ended. -/
def lines (s : String) : List String :=
  let cut := s.toList.splitOn '\n'
  let kept := if cut.getLast? == some [] then cut.dropLast else cut
  kept.map fun line =>
    String.ofList (if line.getLast? == some '\r' then line.dropLast else line)

end GridPolicy.Text
