import GridPolicy.Document
import GridPolicy.Decimal.Shortest

/-!
# Written documents

The compact written form: no blanks, fields in the order the object holds them,
and characters outside ASCII as they are. A double has the fewest digits that
read back as the same double and always shows a point or an exponent, so it is
never taken for a whole number.
-/
namespace GridPolicy

/-- The lower-case hexadecimal digit of a number below sixteen. -/
def hexDigit (n : Nat) : Char := Char.ofNat (if n < 10 then 48 + n else 87 + n)

/-- The form of a character inside quotes. -/
def quotedChar (c : Char) : List Char :=
  if c == '\"' then ['\\', '\"']
  else if c == '\\' then ['\\', '\\']
  else if c == '\n' then ['\\', 'n']
  else if c == '\r' then ['\\', 'r']
  else if c == '\t' then ['\\', 't']
  else if c.toNat == 8 then ['\\', 'b']
  else if c.toNat == 12 then ['\\', 'f']
  else if c.toNat < 32 then
    ['\\', 'u', '0', '0', hexDigit (c.toNat / 16), hexDigit (c.toNat % 16)]
  else [c]

/-- A text in quotes. -/
def quoted (s : String) : String :=
  String.ofList ('\"' :: (s.toList.flatMap quotedChar ++ ['\"']))

/-- A positive decimal. The point stands inside or beside the digits while the
number is at least `10^-5` and below `10^16`; beyond that there is one digit
before the point and an exponent with its sign. -/
def Decimal.Digits.written (d : Decimal.Digits) : String :=
  let digits := (toString d.digits).toList
  let count : Int := digits.length
  let point := count + d.exponent
  if 0 ≤ d.exponent && point ≤ 16 then
    String.ofList (digits ++ List.replicate d.exponent.toNat '0' ++ ['.', '0'])
  else if 0 < point && point ≤ 16 then
    String.ofList (digits.take point.toNat ++ '.' :: digits.drop point.toNat)
  else if -5 < point && point ≤ 0 then
    String.ofList ('0' :: '.' :: List.replicate (-point).toNat '0' ++ digits)
  else
    let power := (if 0 < point then "+" else "") ++ toString (point - 1)
    match digits with
    | [] => ""
    | [d] => String.ofList [d, 'e'] ++ power
    | d :: r => String.ofList (d :: '.' :: r ++ ['e']) ++ power

/-- A double; one that is not finite has no written form and stands as `null`. -/
def writtenReal (x : Float) : String :=
  let bits := x.toBits
  let sign := if bits.toNat / Nat.pow 2 63 == 1 then "-" else ""
  match Decimal.Dyadic.ofBits? bits with
  | none => "null"
  | some d => if d.significand == 0 then sign ++ "0.0" else sign ++ d.shortest.written

def Number.written : Number → String
  | .whole n => toString n
  | .real x => writtenReal x

mutual

/-- The compact written form. -/
def Document.written : Document → String
  | .null => "null"
  | .flag true => "true"
  | .flag false => "false"
  | .number n => n.written
  | .text s => quoted s
  | .array items => "[" ++ writtenItems items ++ "]"
  | .object fields => "\x7b" ++ writtenFields fields ++ "\x7d"

def writtenItems : List Document → String
  | [] => ""
  | [d] => d.written
  | d :: r => d.written ++ "," ++ writtenItems r

def writtenFields : List (String × Document) → String
  | [] => ""
  | [(k, d)] => quoted k ++ ":" ++ d.written
  | (k, d) :: r => quoted k ++ ":" ++ d.written ++ "," ++ writtenFields r

end

/-- The form of a value inside a query: a text stands as it is, anything else
in its written form. -/
def Document.plain : Document → String
  | .text s => s
  | d => d.written

end GridPolicy
