import Courier.Decimal.Binary64

/-!
The shortest decimal form of a 64-bit floating-point number: the fewest digits that are read back as the
same number, and of those the nearest to it.
-/
namespace Courier.Decimal

structure Numeral where
  digits : Nat
  exponent : Int
  deriving DecidableEq, Repr

/-- The numbers that are read back as one floating-point number, all over one denominator: the number
itself, and the ends of the interval, which belong to it if the mantissa is even. -/
structure Interval where
  value : Nat
  low : Nat
  high : Nat
  den : Nat
  closed : Bool

/-- The interval of a number other than zero. Below a power of two the numbers lie twice as close. -/
def Interval.of (x : Binary64) : Interval :=
  let up := Nat.pow 2 x.exponent.toNat
  let below := if x.mantissa = Binary64.leadingBit ∧ Binary64.minExponent < x.exponent then 1 else 2
  { value := 4 * x.mantissa * up
    low := (4 * x.mantissa - below) * up
    high := (4 * x.mantissa + 2) * up
    den := 4 * Nat.pow 2 (-x.exponent).toNat
    closed := x.mantissa % 2 == 0 }

def Interval.contains (i : Interval) (num den : Nat) : Bool :=
  let a := num * i.den
  let low := i.low * den
  let high := i.high * den
  if i.closed then low ≤ a && a ≤ high else low < a && a < high

/-- The exponent of the first digit of `num / den`; `fuel` bounds the steps from the guess. -/
def firstExponent (num den : Nat) : Int :=
  let guess : Int := ((num.log2 : Int) - den.log2) * 30103 / 100000
  go 4 (guess + 2)
where
  go : Nat → Int → Int
    | 0, e => e
    | fuel + 1, e =>
      if num * Nat.pow 10 (-e).toNat < den * Nat.pow 10 e.toNat then go fuel (e - 1) else e

/-- The two neighbours of the number on the grid of `count` digits, and the nearer of those that lie in
the interval. -/
def onGrid? (i : Interval) (first : Int) (count : Nat) : Option Numeral :=
  let unit := first + 1 - count
  let up := Nat.pow 10 unit.toNat
  let down := Nat.pow 10 (-unit).toNat
  let num := i.value * down
  let den := i.den * up
  let c := num / den
  let lower := i.contains (c * up) down
  let upper := i.contains ((c + 1) * up) down
  let twice := 2 * (num % den)
  if lower && (!upper || twice < den || (twice == den && c % 2 == 0)) then some ⟨c, unit⟩
  else if upper then some ⟨c + 1, unit⟩
  else none

/-- `d` without zeros at the end of its digits; `fuel` is at least their number. -/
def stripZeros : Nat → Numeral → Numeral
  | 0, d => d
  | fuel + 1, d =>
    if d.digits ≠ 0 ∧ d.digits % 10 = 0 then stripZeros fuel ⟨d.digits / 10, d.exponent + 1⟩ else d

/-- The shortest decimal form. Seventeen digits always suffice. -/
def shortest (x : Binary64) : Numeral :=
  if x.isZero then ⟨0, 0⟩
  else
    let i := Interval.of x
    let first := firstExponent i.value i.den
    match (List.range 17).findSome? fun n => onGrid? i first (n + 1) with
    | some d => stripZeros 18 d
    | none => ⟨0, 0⟩

/-- A decimal number as text: positional if its first digit has an exponent from -5 to 15, with at least
one digit on each side of the point, else with an exponent that always has a sign. -/
def Numeral.text (d : Numeral) : String :=
  let digits := toString d.digits
  let first : Int := digits.length - 1 + d.exponent
  if -5 ≤ first ∧ first ≤ 15 then
    if 0 ≤ d.exponent then
      digits ++ String.ofList (List.replicate d.exponent.toNat '0') ++ ".0"
    else if 0 ≤ first then
      let whole := (first + 1).toNat
      String.ofList (digits.toList.take whole) ++ "." ++ String.ofList (digits.toList.drop whole)
    else
      "0." ++ String.ofList (List.replicate (-first - 1).toNat '0') ++ digits
  else
    let head := String.ofList (digits.toList.take 1)
    let tail := String.ofList (digits.toList.drop 1)
    head ++ (if tail.isEmpty then "" else "." ++ tail)
      ++ (if first < 0 then "e-" else "e+") ++ toString first.natAbs

end Courier.Decimal
