/-!
# Shortest decimals of binary floating point

A finite double is a numeral `m * 2^q`. The reals that round to it form an
interval around it, ends included exactly when `m` is even. Among the decimals
in that interval those with the fewest digits are wanted, and of these the one
nearest to the number. For each digit count only the two neighbours of the
number on the grid of that many digits need a test: if any point of the grid
lies in the interval, one of the two does. All comparisons are between natural
numbers, so nothing is lost to rounding.
-/
namespace GridPolicy.Decimal

/-- A finite double without its sign: `significand * 2^exponent`. -/
structure Dyadic where
  significand : Nat
  exponent : Int
  deriving DecidableEq, Repr

/-- A decimal without its sign: `digits * 10^exponent`. -/
structure Digits where
  digits : Nat
  exponent : Int
  deriving DecidableEq, Repr

/-- Takes the fields of a double apart; infinities and NaN have no value. -/
def Dyadic.ofBits? (bits : UInt64) : Option Dyadic :=
  let fraction : Nat := bits.toNat % Nat.pow 2 52
  let field : Nat := bits.toNat / Nat.pow 2 52 % 2048
  if field == 2047 then none
  else if field == 0 then some ⟨fraction, -1074⟩
  else some ⟨fraction + Nat.pow 2 52, (field : Int) - 1075⟩

/-- The fraction `num / den`. -/
structure Ratio where
  num : Nat
  den : Nat

/-- `base^exponent` as a fraction, for an exponent of either sign. -/
def Ratio.power (base : Nat) (exponent : Int) : Ratio :=
  if exponent < 0 then ⟨1, base.pow exponent.natAbs⟩ else ⟨base.pow exponent.natAbs, 1⟩

/-- `a < b` for fractions with positive denominators. -/
def Ratio.less (a b : Ratio) : Bool := a.num * b.den < b.num * a.den

def Ratio.mul (a b : Ratio) : Ratio := ⟨a.num * b.num, a.den * b.den⟩

/-- The distance of two fractions. -/
def Ratio.distance (a b : Ratio) : Ratio :=
  ⟨max (a.num * b.den) (b.num * a.den) - min (a.num * b.den) (b.num * a.den), a.den * b.den⟩

def Ratio.ofNat (n : Nat) : Ratio := ⟨n, 1⟩

/-- The lower and the upper end of the reals that round to the number. The
number below a power of two lies closer than the one above it. -/
def Dyadic.interval (d : Dyadic) : Ratio × Ratio :=
  let quarter := Ratio.power 2 (d.exponent - 2)
  let below := if d.significand == Nat.pow 2 52 && d.exponent != -1074 then 1 else 2
  (quarter.mul ⟨4 * d.significand - below, 1⟩, quarter.mul ⟨4 * d.significand + 2, 1⟩)

/-- Whether a fraction rounds to the number. -/
def Dyadic.admits (d : Dyadic) (r : Ratio) : Bool :=
  let (low, high) := d.interval
  if d.significand % 2 == 0 then !r.less low && !high.less r
  else low.less r && r.less high

/-- The count of decimal digits before the point of `num / den`, which may be
zero or negative: the number is at least `10^(k-1)` and below `10^k`. -/
def magnitude (value : Ratio) (start : Int) : Nat → Int
  | 0 => start
  | steps + 1 =>
    if !value.less (Ratio.power 10 start) then magnitude value (start + 1) steps
    else if value.less (Ratio.power 10 (start - 1)) then magnitude value (start - 1) steps
    else start

/-- The best decimal with `count` digits, if one of them rounds to the number. -/
def Dyadic.withDigits? (d : Dyadic) (value : Ratio) (leading : Int) (count : Nat) :
    Option Digits :=
  let exponent := leading - count
  let unit := Ratio.power 10 exponent
  let low := value.num * unit.den / (value.den * unit.num)
  let at_ (n : Nat) : Ratio := unit.mul (Ratio.ofNat n)
  match d.admits (at_ low), d.admits (at_ (low + 1)) with
  | false, false => none
  | true, false => some ⟨low, exponent⟩
  | false, true => some ⟨low + 1, exponent⟩
  | true, true =>
    let below := value.distance (at_ low)
    let above := value.distance (at_ (low + 1))
    if below.less above then some ⟨low, exponent⟩
    else if above.less below then some ⟨low + 1, exponent⟩
    else some ⟨if low % 2 == 0 then low else low + 1, exponent⟩

/-- Trailing zeros of the digits go into the exponent. -/
def Digits.strip (d : Digits) : Nat → Digits
  | 0 => d
  | steps + 1 =>
    if d.digits != 0 && d.digits % 10 == 0 then
      Digits.strip ⟨d.digits / 10, d.exponent + 1⟩ steps
    else d

/-- The shortest decimal that rounds to the number. Seventeen digits always
suffice, so the last entry of the list of counts is never passed. -/
def Dyadic.shortest (d : Dyadic) : Digits :=
  if d.significand == 0 then ⟨0, 0⟩
  else
    let value := (Ratio.power 2 d.exponent).mul (Ratio.ofNat d.significand)
    let guess := (d.exponent + 53) * 30103 / 100000
    let leading := magnitude value guess 400
    match (List.range 17).findSome? fun n => d.withDigits? value leading (n + 1) with
    | some best => best.strip 20
    | none => ⟨0, 0⟩

end GridPolicy.Decimal
