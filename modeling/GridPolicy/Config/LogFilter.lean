import GridPolicy.Pattern
import GridPolicy.Pattern.Unicode.NameCharacter
import GridPolicy.Text.Integer

/-!
# Filters for log messages

A filter is a list of directives with commas between them. A directive is a level,
or a target with an optional span in brackets and an optional level behind an
equality sign. Only whether a text is a filter is decided here; what it filters is
not this library's concern.

A directive is scanned without the blanks around it, but its parts are cut out of the
text with the blanks: each part begins and ends as many bytes too early as there are
bytes of blanks in front. So hardly any directive with blanks in front has a level,
and a part may begin or end inside a character, which breaks the reading off.
-/
namespace GridPolicy.LogFilter

/-- What reading a text as a filter comes to. -/
inductive Verdict where
  | accepted
  | refused
  | broken
  deriving DecidableEq, Repr

/-- The names of the levels; a number up to five stands for a level too. -/
def levelNames : List String := ["off", "error", "warn", "info", "debug", "trace"]

/-- A level; no text is one too. -/
def isLevel (cs : List Char) : Bool :=
  let s := String.ofList cs
  cs.isEmpty || levelNames.contains (Text.lower s) ||
    match Text.nat64? s with
    | some n => n ≤ 5
    | none => false

/-- What a target may begin with. -/
def isTargetStart (c : Char) : Bool :=
  c == '-' || c == ':' || c == '_' || Pattern.Unicode.isAlphanumeric c

/-- The assertions about words of any script. -/
def asksForWords : Look → Bool
  | .wordBoundary u | .notWordBoundary u | .wordStart u | .wordEnd u | .wordStartHalf u
  | .wordEndHalf u => u
  | _ => false

/-- The value of a field: a truth value, a number, or a pattern of any size that does
not ask for words. Whatever is a truth value or a number is such a pattern, signs in
front of numbers apart. -/
def isFieldValue (cs : List Char) : Bool :=
  isSignedNumber cs ||
    match Pattern.read? (String.ofList cs) with
    | some p => !p.anyLook asksForWords
    | none => false
where
  /-- A decimal number with the sign that no pattern begins with. -/
  isSignedNumber : List Char → Bool
    | '+' :: r => isUnsignedNumber r
    | _ => false
  isUnsignedNumber (cs : List Char) : Bool :=
    ["inf", "infinity", "nan"].contains (Text.lower (String.ofList cs)) ||
      isMantissa (cs.takeWhile isNoMark) &&
        match cs.dropWhile isNoMark with
        | [] => true
        | _ :: exponent => isExponent exponent
  isNoMark (c : Char) : Bool := c != 'e' && c != 'E'
  isMantissa (cs : List Char) : Bool :=
    cs.any Char.isDigit && (cs.filter fun c => c != '.').all Char.isDigit && cs.count '.' ≤ 1
  isExponent : List Char → Bool
    | '+' :: r | '-' :: r => !r.isEmpty && r.all Char.isDigit
    | r => !r.isEmpty && r.all Char.isDigit

/-- A field by its name, with an optional value behind an equality sign. -/
def isField (cs : List Char) : Bool :=
  !cs.isEmpty &&
    match cs.splitOn '=' with
    | _ :: value :: _ => isFieldValue value
    | _ => true

/-- How far a directive has been read, with the position where the part began that is
being read. A target begins where the directive does. -/
inductive Progress where
  | start
  | target
  | span (first : Nat)
  | field (first : Nat)
  | afterField
  | afterSpan
  | level (first : Nat)
  deriving DecidableEq, Repr

/-- The characters from a position in bytes on, if a character begins there. -/
def dropBytes : Nat → List Char → Option (List Char)
  | 0, cs => some cs
  | _ + 1, [] => none
  | n + 1, c :: r => if c.utf8Size ≤ n + 1 then dropBytes (n + 1 - c.utf8Size) r else none
termination_by _ cs => cs.length

/-- The characters up to a position in bytes, if a character ends there. -/
def takeBytes : Nat → List Char → Option (List Char)
  | 0, _ => some []
  | _ + 1, [] => none
  | n + 1, c :: r =>
    if c.utf8Size ≤ n + 1 then (takeBytes (n + 1 - c.utf8Size) r).map (c :: ·) else none
termination_by _ cs => cs.length

/-- The part of a text between two positions in bytes. -/
def cut? (text : List Char) (first last : Nat) : Option (List Char) :=
  (dropBytes first text).bind (takeBytes (last - first))

/-- What reading comes to if a part that has been cut out has to satisfy `p`. -/
def check (part : Option (List Char)) (p : List Char → Bool) (next : Verdict) : Verdict :=
  match part with
  | none => .broken
  | some cs => if p cs then next else .refused

/-- Reads the rest of a directive. `text` is the directive with the blanks around it,
and `i` the position reached in the directive without them. -/
def readDirective (text : List Char) (i : Nat) : Progress → List Char → Verdict
  | .start, [] => .refused
  | .target, [] => .accepted
  | .span _, [] => .refused
  | .field _, [] => .refused
  | .afterField, [] => .refused
  | .afterSpan, [] => .accepted
  | .level first, [] => check (dropBytes first text) isLevel .accepted
  | .start, c :: r =>
    if c == '[' then readDirective text (i + 1) (.span (i + 1)) r
    else if isTargetStart c then readDirective text (i + c.utf8Size) .target r
    else .refused
  | .target, c :: r =>
    if c == '=' then
      check (takeBytes i text) (fun _ => true) (readDirective text (i + 1) (.level (i + 1)) r)
    else if c == '[' then
      check (takeBytes i text) (fun _ => true) (readDirective text (i + 1) (.span (i + 1)) r)
    else readDirective text (i + c.utf8Size) .target r
  | .span first, c :: r =>
    if c == ']' then
      check (cut? text first i) (fun _ => true) (readDirective text (i + 1) .afterSpan r)
    else if c == '\x7b' then
      check (cut? text first i) (fun _ => true) (readDirective text (i + 1) (.field (i + 1)) r)
    else readDirective text (i + c.utf8Size) (.span first) r
  | .field first, c :: r =>
    if c == '\x7d' then
      check (cut? text first i) isField (readDirective text (i + 1) .afterField r)
    else readDirective text (i + c.utf8Size) (.field first) r
  | .afterField, c :: r => if c == ']' then readDirective text (i + 1) .afterSpan r else .refused
  | .afterSpan, c :: r =>
    if c == '=' then readDirective text (i + 1) (.level (i + 1)) r else .refused
  | .level first, c :: r => readDirective text (i + c.utf8Size) (.level first) r

def readWhole (text : List Char) : Verdict :=
  readDirective text 0 .start (Text.trimChars text)

/-- The first of the directives that is not accepted decides. -/
def readAll : List (List Char) → Verdict
  | [] => .accepted
  | cs :: r =>
    match readWhole cs with
    | .accepted => readAll r
    | verdict => verdict

/-- Reads a text as a filter. Empty directives are passed over. -/
def read (s : String) : Verdict :=
  readAll ((s.toList.splitOn ',').filter fun cs => !cs.isEmpty)

/-- Whether a text is a filter. -/
def isFilter (s : String) : Bool := read s == .accepted

end GridPolicy.LogFilter
