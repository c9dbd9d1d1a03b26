import GridPolicy.Text

/-!
# Integers in text

A written integer is an optional sign and at least one ASCII digit. A text with
anything else in it is no integer, and neither is one outside the range that
the reader asks for.
-/
namespace GridPolicy.Text

/-- The value of an ASCII digit. -/
def digit? (c : Char) : Option Nat :=
  if c.isDigit then some (c.toNat - 48) else none

/-- The digits read onto `acc`, which holds what stands to their left. -/
def digitsFrom (acc : Nat) : List Char → Option Nat
  | [] => some acc
  | c :: r =>
    match digit? c with
    | some d => digitsFrom (acc * 10 + d) r
    | none => none

/-- A non-empty run of ASCII digits. -/
def natural? : List Char → Option Nat
  | [] => none
  | c :: r => digitsFrom 0 (c :: r)

/-- A signed integer: `+` and `-` may stand before the digits. -/
def signed? : List Char → Option Int
  | '-' :: r => (natural? r).map fun n => -(n : Int)
  | '+' :: r => (natural? r).map Int.ofNat
  | cs => (natural? cs).map Int.ofNat

/-- The integers of 64 bits with a sign. -/
def fitsInt64 (n : Int) : Bool := -9223372036854775808 ≤ n && n ≤ 9223372036854775807

/-- Reads a signed integer of 64 bits. -/
def int64? (s : String) : Option Int := (signed? s.toList).filter fitsInt64

/-- Reads a signed integer of 32 bits. -/
def int32? (s : String) : Option Int :=
  (signed? s.toList).filter fun n => -2147483648 ≤ n && n ≤ 2147483647

/-- Reads an unsigned integer of 64 bits: only `+` may stand before the digits. -/
def nat64? (s : String) : Option Nat :=
  let cs := match s.toList with
    | '+' :: r => r
    | cs => cs
  (natural? cs).filter fun n => n ≤ 18446744073709551615

/-- The difference of two integers, if it is one of 64 bits. -/
def subInt64? (a b : Int) : Option Int := if fitsInt64 (a - b) then some (a - b) else none

/-- The nearest integer of 64 bits. -/
def clampInt64 (n : Int) : Int :=
  if n < -9223372036854775808 then -9223372036854775808
  else if 9223372036854775807 < n then 9223372036854775807
  else n

end GridPolicy.Text
