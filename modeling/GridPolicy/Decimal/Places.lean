import GridPolicy.Decimal.Shortest

/-!
# Decimals with fixed places

A finite double is rounded to a given number of decimal places from its exact
value. Of two decimals equally near the one with the even last digit is taken.
-/
namespace GridPolicy.Decimal

/-- The natural number nearest to a fraction; halves go to the even neighbour. -/
def Ratio.nearest (r : Ratio) : Nat :=
  let floor := r.num / r.den
  let twice := 2 * (r.num % r.den)
  if twice < r.den then floor
  else if r.den < twice then floor + 1
  else if floor % 2 == 0 then floor
  else floor + 1

/-- Digits with a point before the last `places` of them. -/
def pointed (places scaled : Nat) : String :=
  let digits := (toString scaled).toList
  let padded := List.replicate (places + 1 - digits.length) '0' ++ digits
  let whole := padded.length - places
  String.ofList (padded.take whole) ++ "." ++ String.ofList (padded.drop whole)

/-- A double with this many decimal places; one that is not finite has no such form. -/
def withPlaces? (places : Nat) (x : Float) : Option String :=
  let bits := x.toBits
  let sign := if bits.toNat / Nat.pow 2 63 == 1 then "-" else ""
  (Dyadic.ofBits? bits).map fun d =>
    let value := (Ratio.power 2 d.exponent).mul (Ratio.ofNat (d.significand * Nat.pow 10 places))
    sign ++ pointed places value.nearest

end GridPolicy.Decimal
