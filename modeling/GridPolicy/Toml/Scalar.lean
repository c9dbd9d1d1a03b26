import GridPolicy.Document

/-!
# Scalars of TOML

Numbers, dates and times are decided on a whole token: the characters up to the
next blank, line end, comma, closing bracket or comment. Texts are read character
by character, since only they can hold any of these.

A date or a time has no kind of its own in a document. It travels as an object
with one field, whose value is the date or time in its plainest form.
-/
namespace GridPolicy.Toml

def isBlank (c : Char) : Bool := c == ' ' || c == '\t'

/-- A tab or a character that is no control character of ASCII. -/
def isPrinting (c : Char) : Bool :=
  c == '\t' || (0x20 ≤ c.toNat && c.toNat ≤ 0x7E) || 0x80 ≤ c.toNat

/-- The rest after a line end, if the text begins with one. -/
def lineEnd? : List Char → Option (List Char)
  | '\n' :: r => some r
  | '\r' :: '\n' :: r => some r
  | _ => none

/-! ## Texts -/

def hexValue? (c : Char) : Option Nat :=
  let n := c.toNat
  if 48 ≤ n && n ≤ 57 then some (n - 48)
  else if 97 ≤ n && n ≤ 102 then some (n - 87)
  else if 65 ≤ n && n ≤ 70 then some (n - 55)
  else none

/-- The character with a code point in hexadecimal. -/
def scalar? (digits : List Char) : Option Char := do
  let values ← digits.mapM hexValue?
  let n : Nat := values.foldl (fun n d => n * 16 + d) 0
  if n < 0xD800 || (0xDFFF < n && n < 0x110000) then return Char.ofNat n else none

def shortEscape? : Char → Option Char
  | 'b' => some (Char.ofNat 8)
  | 't' => some '\t'
  | 'n' => some '\n'
  | 'f' => some (Char.ofNat 12)
  | 'r' => some '\r'
  | '\"' => some '\"'
  | '\\' => some '\\'
  | _ => none

def ended (acc : List Char) (rest : List Char) : Option (String × List Char) :=
  some (String.ofList acc.reverse, rest)

/-- A basic text of one line after its opening quote; `acc` holds what was read,
last character first. -/
def readBasic (acc : List Char) : List Char → Option (String × List Char)
  | [] => none
  | '\"' :: r => ended acc r
  | '\\' :: 'u' :: a :: b :: c :: d :: r => do readBasic ((← scalar? [a, b, c, d]) :: acc) r
  | '\\' :: 'U' :: a :: b :: c :: d :: e :: f :: g :: h :: r => do
    readBasic ((← scalar? [a, b, c, d, e, f, g, h]) :: acc) r
  | '\\' :: c :: r => do readBasic ((← shortEscape? c) :: acc) r
  | c :: r => if isPrinting c && c != '\\' then readBasic (c :: acc) r else none

/-- A literal text of one line after its opening quote. -/
def readLiteral (acc : List Char) : List Char → Option (String × List Char)
  | [] => none
  | '\'' :: r => ended acc r
  | c :: r => if isPrinting c then readLiteral (c :: acc) r else none

/-- Where the reader of a text of several lines is: in the text, behind a
backslash that has to be the last of its line, or on the blank lines after it. -/
inductive Folding where
  | text
  | pending
  | blank
  deriving DecidableEq

/-- A basic text of several lines after its opening quotes. Up to two quotes may
stand directly before the closing ones. -/
def readBasicLines (mode : Folding) (acc : List Char) : List Char → Option (String × List Char)
  | [] => none
  | '\r' :: '\n' :: r =>
    if mode == .text then readBasicLines .text ('\n' :: acc) r else readBasicLines .blank acc r
  | '\n' :: r =>
    if mode == .text then readBasicLines .text ('\n' :: acc) r else readBasicLines .blank acc r
  | ' ' :: r =>
    if mode == .text then readBasicLines .text (' ' :: acc) r else readBasicLines mode acc r
  | '\t' :: r =>
    if mode == .text then readBasicLines .text ('\t' :: acc) r else readBasicLines mode acc r
  | c :: r =>
    if mode == .pending then none
    else
      match c, r with
      | '\"', '\"' :: '\"' :: '\"' :: '\"' :: r => ended ('\"' :: '\"' :: acc) r
      | '\"', '\"' :: '\"' :: '\"' :: r => ended ('\"' :: acc) r
      | '\"', '\"' :: '\"' :: r => ended acc r
      | '\\', 'u' :: a :: b :: c :: d :: r => do
        readBasicLines .text ((← scalar? [a, b, c, d]) :: acc) r
      | '\\', 'U' :: a :: b :: c :: d :: e :: f :: g :: h :: r => do
        readBasicLines .text ((← scalar? [a, b, c, d, e, f, g, h]) :: acc) r
      | '\\', e :: r =>
        if isBlank e || e == '\n' || e == '\r' then readBasicLines .pending acc (e :: r)
        else do readBasicLines .text ((← shortEscape? e) :: acc) r
      | c, r => if isPrinting c && c != '\\' then readBasicLines .text (c :: acc) r else none

/-- A literal text of several lines after its opening quotes. -/
def readLiteralLines (acc : List Char) : List Char → Option (String × List Char)
  | [] => none
  | '\'' :: '\'' :: '\'' :: '\'' :: '\'' :: r => ended ('\'' :: '\'' :: acc) r
  | '\'' :: '\'' :: '\'' :: '\'' :: r => ended ('\'' :: acc) r
  | '\'' :: '\'' :: '\'' :: r => ended acc r
  | '\r' :: '\n' :: r => readLiteralLines ('\n' :: acc) r
  | c :: r => if isPrinting c || c == '\n' then readLiteralLines (c :: acc) r else none

/-- A line end directly after the opening quotes is no part of the text. -/
def afterOpening (cs : List Char) : List Char := (lineEnd? cs).getD cs

/-- A text of any of the four forms. -/
def readText : List Char → Option (String × List Char)
  | '\"' :: '\"' :: '\"' :: r => readBasicLines .text [] (afterOpening r)
  | '\"' :: r => readBasic [] r
  | '\'' :: '\'' :: '\'' :: r => readLiteralLines [] (afterOpening r)
  | '\'' :: r => readLiteral [] r
  | _ => none

/-! ## Numbers -/

/-- Digits without the underscores, each of which has to stand between two digits. -/
def ungroup (isDigit : Char → Bool) : List Char → Option (List Char)
  | [] => none
  | [c] => if isDigit c then some [c] else none
  | c :: '_' :: r => if isDigit c then (ungroup isDigit r).map (c :: ·) else none
  | c :: r => if isDigit c then (ungroup isDigit r).map (c :: ·) else none

def decimalValue (digits : List Char) : Nat :=
  digits.foldl (fun n c => n * 10 + (c.toNat - 48)) 0

/-- The digits of a whole number, which has no zero in front. -/
def wholeDigits? (cs : List Char) : Option (List Char) :=
  (ungroup Char.isDigit cs).filter fun digits => digits.head? != some '0' || digits.length == 1

/-- Whether there is a minus sign, and what follows the sign. -/
def splitSign : List Char → Bool × List Char
  | '-' :: r => (true, r)
  | '+' :: r => (false, r)
  | cs => (false, cs)

/-- A whole number of the given base, which is a power of two. -/
def based? (base : Nat) (cs : List Char) : Option Int := do
  let isDigit (c : Char) : Bool :=
    match hexValue? c with
    | some v => v < base
    | none => false
  let digits ← ungroup isDigit cs
  let values ← digits.mapM hexValue?
  let n : Nat := values.foldl (fun n d => n * base + d) 0
  if n ≤ 9223372036854775807 then return n else none

/-- A whole number of 64 bits with a sign. -/
def integer? : List Char → Option Int
  | '0' :: 'x' :: r => based? 16 r
  | '0' :: 'o' :: r => based? 8 r
  | '0' :: 'b' :: r => based? 2 r
  | cs => do
    let (negative, digits) := splitSign cs
    let n := decimalValue (← wholeDigits? digits)
    if negative then
      if n ≤ 9223372036854775808 then return -(n : Int) else none
    else if n ≤ 9223372036854775807 then return n else none

/-- Splits before the first character that does not satisfy `p`. -/
def spanOf (p : Char → Bool) (cs : List Char) : List Char × List Char :=
  (cs.takeWhile p, cs.dropWhile p)

def isGroupedDigit (c : Char) : Bool := c.isDigit || c == '_'

/-- The exponent after its mark. -/
def exponent? (cs : List Char) : Option Int := do
  let (negative, digits) := splitSign cs
  let n := decimalValue (← ungroup Char.isDigit digits)
  return if negative then -(n : Int) else n

def isExponentMark (c : Char) : Bool := c == 'e' || c == 'E'

/-- The double nearest to `± digits * 10^exponent`. One that would be infinite is
refused, but only if it is positive. -/
def realOf? (negative : Bool) (digits : Nat) (exponent : Int) : Option Float :=
  let x := Float.ofScientific digits (exponent < 0) exponent.natAbs
  if negative then some (-x) else if x.isInf then none else some x

/-- A number with a fraction, an exponent or both, or one of those that are no
numbers. -/
def real? (cs : List Char) : Option Float := do
  let (negative, body) := splitSign cs
  if body == ['i', 'n', 'f'] then return if negative then -1.0 / 0.0 else 1.0 / 0.0
  if body == ['n', 'a', 'n'] then return 0.0 / 0.0
  let (head, rest) := spanOf isGroupedDigit body
  let head ← wholeDigits? head
  match rest with
  | '.' :: r =>
    let (places, rest) := spanOf isGroupedDigit r
    let places ← ungroup Char.isDigit places
    let digits := decimalValue (head ++ places)
    match rest with
    | [] => realOf? negative digits (-(places.length : Int))
    | mark :: r =>
      if isExponentMark mark then realOf? negative digits ((← exponent? r) - places.length)
      else none
  | mark :: r =>
    if isExponentMark mark then realOf? negative (decimalValue head) (← exponent? r) else none
  | [] => none

/-! ## Dates and times -/

/-- The value of two digits, if it is not beyond the bounds. -/
def two? (low high : Nat) (a b : Char) : Option Nat :=
  if a.isDigit && b.isDigit then
    let n := decimalValue [a, b]
    if low ≤ n && n ≤ high then some n else none
  else none

def daysIn (year month : Nat) : Nat :=
  if month == 2 then
    if year % 4 == 0 && (year % 100 != 0 || year % 400 == 0) then 29 else 28
  else if month == 4 || month == 6 || month == 9 || month == 11 then 30
  else 31

/-- A date at the front, as it is written, and the rest. -/
def date? : List Char → Option (List Char × List Char)
  | a :: b :: c :: d :: '-' :: e :: f :: '-' :: g :: h :: r => do
    if !([a, b, c, d].all Char.isDigit) then none
    let month ← two? 1 12 e f
    let _ ← two? 1 (daysIn (decimalValue [a, b, c, d]) month) g h
    return ([a, b, c, d, '-', e, f, '-', g, h], r)
  | _ => none

/-- Fractions of a second count to the ninth place, without zeros at the end. -/
def fraction (digits : List Char) : List Char :=
  let kept := ((digits.take 9).reverse.dropWhile fun c => c == '0').reverse
  if kept.isEmpty then [] else '.' :: kept

/-- A time at the front in its plainest form, and the rest. -/
def time? : List Char → Option (List Char × List Char)
  | a :: b :: ':' :: c :: d :: ':' :: e :: f :: r => do
    let _ ← two? 0 23 a b
    let _ ← two? 0 59 c d
    let _ ← two? 0 60 e f
    let clock := [a, b, ':', c, d, ':', e, f]
    match r with
    | '.' :: r =>
      let (digits, rest) := spanOf Char.isDigit r
      if digits.isEmpty then none else return (clock ++ fraction digits, rest)
    | r => return (clock, r)
  | _ => none

/-- The offset from universal time, or nothing. No offset is a positive one. -/
def offset? : List Char → Option (List Char)
  | [] => some []
  | ['Z'] => some ['Z']
  | ['z'] => some ['Z']
  | [sign, a, b, ':', c, d] => do
    if sign != '+' && sign != '-' then none
    let hours ← two? 0 23 a b
    let minutes ← two? 0 59 c d
    return (if hours + minutes == 0 then '+' else sign) :: [a, b, ':', c, d]
  | _ => none

def isTimeMark (c : Char) : Bool := c == 'T' || c == 't' || c == ' '

/-- A date, a time, or both with or without an offset, in its plainest form. -/
def moment? (cs : List Char) : Option String :=
  match date? cs with
  | some (date, []) => some (String.ofList date)
  | some (date, mark :: r) => do
    if !isTimeMark mark then none
    let (time, rest) ← time? r
    return String.ofList (date ++ 'T' :: time ++ (← offset? rest))
  | none =>
    match time? cs with
    | some (time, []) => some (String.ofList time)
    | _ => none

/-- The field of the object that a date or a time travels as. -/
def momentKey : String := "$__toml_private_datetime"

/-! ## Tokens -/

/-- What ends a token. -/
def isTokenEnd (c : Char) : Bool :=
  isBlank c || c == '\n' || c == '\r' || c == ',' || c == ']' || c == '\x7d' || c == '#'

/-- The value of a token. -/
def token? (cs : List Char) : Option Document :=
  if cs == "true".toList then some (.flag true)
  else if cs == "false".toList then some (.flag false)
  else
    match moment? cs with
    | some moment => some (.object [(momentKey, .text moment)])
    | none =>
      match integer? cs with
      | some n => some (.number (.whole n))
      | none => (real? cs).map fun x => .number (.real x)

/-- A value without quotes or brackets. A date and a time may have a blank between
them, so after a date the next token is tried too. -/
def readToken (cs : List Char) : Option (Document × List Char) :=
  let (token, rest) := spanOf (fun c => !isTokenEnd c) cs
  let both := match rest with
    | ' ' :: r =>
      let (next, rest) := spanOf (fun c => !isTokenEnd c) r
      if next.isEmpty || (date? token).isNone then none
      else (token? (token ++ ' ' :: next)).map fun value => (value, rest)
    | _ => none
  both.or ((token? token).map fun value => (value, rest))

end GridPolicy.Toml
