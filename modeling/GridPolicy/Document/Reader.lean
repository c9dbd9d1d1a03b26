import GridPolicy.Document
import GridPolicy.Decimal.Double

/-!
# Reading documents

The strict form of JSON: one value, blanks of four kinds around it, no trailing
commas, no comments, no byte order mark, and no more than 127 arrays and objects
inside one another. A text that holds half of a surrogate pair, or a number too
large for a double, is refused.

An object is read with its fields in the order written, repeated keys included,
because some readers of typed data refuse a repeated key. `parse` gives the
canonical tree, in which the last of them stands.
-/
namespace GridPolicy.Document.Reader

def isSpace (c : Char) : Bool := c == ' ' || c == '\n' || c == '\t' || c == '\r'

def skipSpaces (cs : List Char) : List Char := cs.dropWhile isSpace

def digit? (c : Char) : Option Nat := if c.isDigit then some (c.toNat - 48) else none

/-- The digits a text begins with, and what follows them. -/
def takeDigits : List Char → List Nat × List Char
  | [] => ([], [])
  | c :: r =>
    match digit? c with
    | some d => let (ds, rest) := takeDigits r; (d :: ds, rest)
    | none => ([], c :: r)

def hexValue? (c : Char) : Option Nat :=
  let n := c.toNat
  if 48 ≤ n && n ≤ 57 then some (n - 48)
  else if 97 ≤ n && n ≤ 102 then some (n - 87)
  else if 65 ≤ n && n ≤ 70 then some (n - 55)
  else none

def hexFour? (a b c d : Char) : Option Nat := do
  let a ← hexValue? a
  let b ← hexValue? b
  let c ← hexValue? c
  let d ← hexValue? d
  return ((a * 16 + b) * 16 + c) * 16 + d

def isHigh (n : Nat) : Bool := 0xD800 ≤ n && n ≤ 0xDBFF

def isLow (n : Nat) : Bool := 0xDC00 ≤ n && n ≤ 0xDFFF

/-- The character after a backslash that stands for one character. -/
def shortEscape? : Char → Option Char
  | '\"' => some '\"'
  | '\\' => some '\\'
  | '/' => some '/'
  | 'b' => some (Char.ofNat 8)
  | 'f' => some (Char.ofNat 12)
  | 'n' => some '\n'
  | 'r' => some '\r'
  | 't' => some '\t'
  | _ => none

/-- The rest of a text in quotes, after the opening one; `acc` holds what was
read, last character first. -/
def readText (acc : List Char) : List Char → Option (String × List Char)
  | [] => none
  | '\"' :: r => some (String.ofList acc.reverse, r)
  | '\\' :: 'u' :: a :: b :: c :: d :: '\\' :: 'u' :: e :: f :: g :: h :: r =>
    match hexFour? a b c d with
    | none => none
    | some n =>
      if isHigh n then
        match hexFour? e f g h with
        | none => none
        | some m =>
          if isLow m then
            readText (Char.ofNat (0x10000 + (n - 0xD800) * 0x400 + (m - 0xDC00)) :: acc) r
          else none
      else if isLow n then none
      else readText (Char.ofNat n :: acc) ('\\' :: 'u' :: e :: f :: g :: h :: r)
  | '\\' :: 'u' :: a :: b :: c :: d :: r =>
    match hexFour? a b c d with
    | none => none
    | some n => if isHigh n || isLow n then none else readText (Char.ofNat n :: acc) r
  | '\\' :: c :: r =>
    match shortEscape? c with
    | none => none
    | some e => readText (e :: acc) r
  | c :: r => if c.toNat < 32 || c == '\\' then none else readText (c :: acc) r

/-- The integer that a run of digits stands for, if 64 bits hold it. Zero with a
minus sign is a double, since no integer keeps that sign. -/
def wholeOf? (negative : Bool) (value : Nat) : Option Number :=
  if !negative then some (.whole value)
  else if value == 0 || 9223372036854775808 < value then
    (Decimal.doubleOf? true value 0).map .real
  else some (.whole (-(value : Int)))

def clampInt32 (n : Int) : Int :=
  if n < -2147483648 then -2147483648 else if 2147483647 < n then 2147483647 else n

/-- The end of a number from its exponent mark on. An exponent that does not fit
32 bits leaves zero, or no number at all if the significand is not zero. -/
def readExponent (negative : Bool) (significand : Nat) (start : Int) (cs : List Char) :
    Option (Number × List Char) :=
  let (down, cs) := match cs with
    | '+' :: r => (false, r)
    | '-' :: r => (true, r)
    | r => (false, r)
  let (digits, rest) := takeDigits cs
  if digits.isEmpty then none
  else
    let size : Nat := digits.foldl (fun n d => n * 10 + d) 0
    if 2147483647 < size then
      if significand != 0 && !down then none
      else some (.real (if negative then -0.0 else 0.0), rest)
    else
      let exponent := clampInt32 (if down then start - size else start + size)
      (Decimal.doubleOf? negative significand exponent).map fun x => (.real x, rest)

def isExponentMark (c : Char) : Bool := c == 'e' || c == 'E'

/-- A number, from its first digit on. -/
def readNumber (negative : Bool) (cs : List Char) : Option (Number × List Char) :=
  let (digits, rest) := takeDigits cs
  match digits with
  | [] => none
  | 0 :: _ :: _ => none
  | _ =>
    let head := Decimal.absorb 0 0 digits
    let exponent : Int := head.left.length
    match rest with
    | '.' :: r =>
      let (places, rest) := takeDigits r
      if places.isEmpty then none
      else
        let both := Decimal.absorb head.significand 0 places
        let exponent := exponent - both.taken
        match rest with
        | c :: r =>
          if isExponentMark c then readExponent negative both.significand exponent r
          else (Decimal.doubleOf? negative both.significand exponent).map fun x =>
            (.real x, rest)
        | [] => (Decimal.doubleOf? negative both.significand exponent).map fun x => (.real x, [])
    | c :: r =>
      if isExponentMark c then readExponent negative head.significand exponent r
      else if head.left.isEmpty then
        (wholeOf? negative head.significand).map fun n => (n, rest)
      else (Decimal.doubleOf? negative head.significand exponent).map fun x => (.real x, rest)
    | [] =>
      if head.left.isEmpty then (wholeOf? negative head.significand).map fun n => (n, [])
      else (Decimal.doubleOf? negative head.significand exponent).map fun x => (.real x, [])

mutual

/-- A value at the front of the text. `depth` is how many more arrays or objects
may be entered, `steps` bounds the number of calls: each consumes a character. -/
def readValue (depth : Nat) : Nat → List Char → Option (Document × List Char)
  | 0, _ => none
  | steps + 1, cs =>
    match skipSpaces cs with
    | 'n' :: 'u' :: 'l' :: 'l' :: r => some (.null, r)
    | 't' :: 'r' :: 'u' :: 'e' :: r => some (.flag true, r)
    | 'f' :: 'a' :: 'l' :: 's' :: 'e' :: r => some (.flag false, r)
    | '\"' :: r => (readText [] r).map fun (s, rest) => (.text s, rest)
    | '-' :: r => (readNumber true r).map fun (n, rest) => (.number n, rest)
    | '[' :: r =>
      if depth ≤ 1 then none
      else
        match skipSpaces r with
        | ']' :: rest => some (.array [], rest)
        | _ => (readItems (depth - 1) steps r []).map fun (items, rest) => (.array items, rest)
    | '\x7b' :: r =>
      if depth ≤ 1 then none
      else
        match skipSpaces r with
        | '\x7d' :: rest => some (.object [], rest)
        | _ =>
          (readFields (depth - 1) steps r []).map fun (fields, rest) => (.object fields, rest)
    | c :: r =>
      if c.isDigit then (readNumber false (c :: r)).map fun (n, rest) => (.number n, rest)
      else none
    | [] => none

/-- The items of an array up to and with the closing bracket; `acc` holds those
read, last first. -/
def readItems (depth : Nat) : Nat → List Char → List Document →
    Option (List Document × List Char)
  | 0, _, _ => none
  | steps + 1, cs, acc =>
    match readValue depth steps cs with
    | none => none
    | some (item, rest) =>
      match skipSpaces rest with
      | ',' :: r => readItems depth steps r (item :: acc)
      | ']' :: r => some ((item :: acc).reverse, r)
      | _ => none

/-- The fields of an object up to and with the closing brace; `acc` holds those
read, last first. -/
def readFields (depth : Nat) : Nat → List Char → List (String × Document) →
    Option (List (String × Document) × List Char)
  | 0, _, _ => none
  | steps + 1, cs, acc =>
    match skipSpaces cs with
    | '\"' :: r =>
      match readText [] r with
      | none => none
      | some (key, rest) =>
        match skipSpaces rest with
        | ':' :: r =>
          match readValue depth steps r with
          | none => none
          | some (value, rest) =>
            match skipSpaces rest with
            | ',' :: r => readFields depth steps r ((key, value) :: acc)
            | '\x7d' :: r => some (((key, value) :: acc).reverse, r)
            | _ => none
        | _ => none
    | _ => none

end

/-- The whole text as one value, with fields in the order written. -/
def parseWritten (text : String) : Option Document :=
  let cs := text.toList
  match readValue 128 (2 * cs.length + 2) cs with
  | some (d, rest) => if (skipSpaces rest).isEmpty then some d else none
  | none => none

/-- The whole text as one value in canonical form. -/
def parse (text : String) : Option Document := (parseWritten text).map Document.canonical

end GridPolicy.Document.Reader
