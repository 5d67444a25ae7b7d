/-!
Floating-point numbers of 64 bits, without sign: `mantissa * 2 ^ exponent` with a mantissa of at most
fifty-three bits. A quotient of natural numbers is rounded to the nearest one, a tie to the even
mantissa; multiplication and division round their exact results the same way.
-/
namespace Courier

/-- A number `mantissa * 2 ^ exponent` in 64 bits: the mantissa is below `2 ^ 53`, and at least `2 ^ 52`
unless the exponent is the least one. -/
structure Binary64 where
  mantissa : Nat
  exponent : Int
  deriving DecidableEq, Repr

namespace Binary64

def minExponent : Int := -1074

def maxExponent : Int := 971

def zero : Binary64 := ⟨0, minExponent⟩

/-- The weight of the leading bit of a mantissa of fifty-three bits. -/
def leadingBit : Nat := 0x10000000000000

def isZero (x : Binary64) : Bool := x.mantissa == 0

/-- The number as a quotient. -/
def toQuotient (x : Binary64) : Nat × Nat :=
  (x.mantissa * Nat.pow 2 x.exponent.toNat, Nat.pow 2 (-x.exponent).toNat)

/-- `num / den` at the scale `2 ^ e`: the quotient rounded to the nearest natural number, a tie to the
even one. -/
def scaled (num den : Nat) (e : Int) : Nat :=
  let num := num * Nat.pow 2 (-e).toNat
  let den := den * Nat.pow 2 e.toNat
  let q := num / den
  let r := num % den
  if den < 2 * r || (2 * r == den && q % 2 == 1) then q + 1 else q

/-- The exponent at which `num / den` has fifty-three bits, or the least one. -/
def scale (num den : Nat) : Int :=
  let guess : Int := (num.log2 : Int) - den.log2 - 52
  let e :=
    if num * Nat.pow 2 (-guess).toNat < leadingBit * (den * Nat.pow 2 guess.toNat) then guess - 1
    else guess
  max e minExponent

/-- The number nearest to `num / den`; `none` if it is above all of them. -/
def ofQuotient? (num den : Nat) : Option Binary64 :=
  if num = 0 then some zero
  else
    let e := scale num den
    let m := scaled num den e
    let x : Binary64 := if m = 2 * leadingBit then ⟨leadingBit, e + 1⟩ else ⟨m, e⟩
    if maxExponent < x.exponent then none else some x

def mul? (x y : Binary64) : Option Binary64 :=
  let (a, b) := x.toQuotient
  let (c, d) := y.toQuotient
  ofQuotient? (a * c) (b * d)

/-- The quotient, rounded; `y` is not zero. -/
def div? (x y : Binary64) : Option Binary64 :=
  let (a, b) := x.toQuotient
  let (c, d) := y.toQuotient
  ofQuotient? (a * d) (b * c)

end Binary64

end Courier
