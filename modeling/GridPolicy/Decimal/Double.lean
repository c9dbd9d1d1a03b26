/-!
# Doubles from decimal parts

A written number is read into a 64-bit significand and a power of ten, and the
double is one multiplication or division away. Digits that no longer fit the
significand are counted, not kept. This is exact for the numbers people write
and within a few units in the last place for very long ones; the outcome for the
long ones is part of what a reader promises, so the steps are fixed here.
-/
namespace GridPolicy.Decimal

/-- A significand with how many digits went into it and the digits left over. -/
structure Absorbed where
  significand : Nat
  taken : Nat
  left : List Nat

/-- Takes digits while the significand fits 64 bits without a sign. -/
def absorb (significand taken : Nat) : List Nat → Absorbed
  | [] => ⟨significand, taken, []⟩
  | d :: r =>
    if significand * 10 + d ≤ 18446744073709551615 then
      absorb (significand * 10 + d) (taken + 1) r
    else ⟨significand, taken, d :: r⟩

def powerOfTen (n : Nat) : Float := Float.ofScientific 1 false n

/-- `value * 10^exponent`, infinite or nothing if it is too large. A power below
`10^-308` is reached in steps; two of them take any 64-bit significand to zero,
so three rounds decide every exponent. -/
def scale (value : Float) (exponent : Int) : Nat → Option Float
  | 0 => some value
  | rounds + 1 =>
    if exponent.natAbs ≤ 308 then
      if 0 ≤ exponent then some (value * powerOfTen exponent.natAbs)
      else some (value / powerOfTen exponent.natAbs)
    else if value == 0.0 then some value
    else if 0 ≤ exponent then none
    else scale (value / powerOfTen 308) (exponent + 308) rounds

/-- The double `± significand * 10^exponent`, or nothing if it is too large. -/
def doubleOf? (negative : Bool) (significand : Nat) (exponent : Int) : Option Float :=
  ((scale significand.toUInt64.toFloat exponent 3).map fun x => if negative then -x else x).filter
    Float.isFinite

/-- No double that a number is read as stands outside the range of doubles. -/
theorem isFinite_of_doubleOf? {negative : Bool} {significand : Nat} {exponent : Int} {x : Float}
    (h : doubleOf? negative significand exponent = some x) : x.isFinite = true :=
  (Option.filter_eq_some_iff.mp h).2

end GridPolicy.Decimal
