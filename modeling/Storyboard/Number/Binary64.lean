/-!
# Binary floating-point values

A 64-bit floating-point value is kept as its bits and computed with through exact
arithmetic on natural numbers: every operation forms the exact quotient of two
naturals and rounds it once, to the nearest value, a tie going to the even one.
Powers of naturals are written `Nat.pow`, whose meaning hangs on no instance.
-/

namespace Storyboard

/-- A 64-bit floating-point value. -/
structure Binary64 where
  bits : UInt64
deriving DecidableEq, Repr

namespace Binary64

/-- Zero, with the given sign. -/
def zero (negative : Bool) : Binary64 :=
  ⟨if negative then 0x8000000000000000 else 0⟩

/-- Positive infinity. -/
def infinity : Binary64 := ⟨0x7FF0000000000000⟩

/-- Whether the sign bit is set. -/
def isNegative (x : Binary64) : Bool :=
  x.bits >>> 63 == 1

/-- The value with its sign bit set as asked. -/
def withSign (x : Binary64) (negative : Bool) : Binary64 :=
  ⟨(x.bits &&& 0x7FFFFFFFFFFFFFFF) ||| (zero negative).bits⟩

/-- Whether the value is no infinity and no NaN. -/
def isFinite (x : Binary64) : Bool :=
  (x.bits >>> 52) &&& 0x7FF != 0x7FF

/-- The biased exponent field. -/
def exponentField (x : Binary64) : Nat :=
  ((x.bits >>> 52) &&& 0x7FF).toNat

/-- The fraction field. -/
def fractionField (x : Binary64) : Nat :=
  (x.bits &&& 0xFFFFFFFFFFFFF).toNat

/-- The integer `m` of the magnitude `m * 2 ^ q` of a finite value. -/
def significand (x : Binary64) : Nat :=
  if x.exponentField = 0 then x.fractionField else Nat.pow 2 52 + x.fractionField

/-- The exponent `q` of the magnitude `m * 2 ^ q` of a finite value. -/
def exponent (x : Binary64) : Int :=
  if x.exponentField = 0 then -1074 else x.exponentField - 1075

/-- Whether the magnitude is zero. -/
def isZero (x : Binary64) : Bool :=
  x.significand == 0

/-- Whether the gap to the next smaller magnitude is half the gap to the next larger. -/
def narrowBelow (x : Binary64) : Bool :=
  x.fractionField == 0 && x.exponentField > 1

/-- The magnitude's numerator over `den`. -/
def num (x : Binary64) : Nat :=
  x.significand * Nat.pow 2 x.exponent.toNat

/-- The magnitude's denominator, a power of two. -/
def den (x : Binary64) : Nat :=
  Nat.pow 2 (-x.exponent).toNat

/-- The quotient rounded to the nearest integer, a tie going to the even one. -/
def divideToEven (n d : Nat) : Nat :=
  let quotient := n / d
  match compare (2 * (n % d)) d with
  | .lt => quotient
  | .gt => quotient + 1
  | .eq => if quotient % 2 = 0 then quotient else quotient + 1

/-- The quotient of two naturals divided by `2 ^ q` and rounded to an integer. -/
def scaleToEven (n d : Nat) (q : Int) : Nat :=
  divideToEven (n * Nat.pow 2 (-q).toNat) (d * Nat.pow 2 q.toNat)

/-- The least exponent at which `n / d` has at most 53 bits before the point. -/
def unitExponent (n d : Nat) : Int :=
  let low : Int := max ((n.log2 : Int) - d.log2 - 53) (-1074)
  if n * Nat.pow 2 (-low).toNat / (d * Nat.pow 2 low.toNat) < Nat.pow 2 53 then low else low + 1

/-- The nearest value to the quotient of two naturals; infinity beyond the largest. -/
def ofRatio (n d : Nat) : Binary64 :=
  if n = 0 then zero false
  else
    let q := unitExponent n d
    let bits := (q + 1074).toNat * Nat.pow 2 52 + scaleToEven n d q
    if bits < infinity.bits.toNat then ⟨UInt64.ofNat bits⟩ else infinity

/-- The nearest value to a natural number. -/
def ofNat (n : Nat) : Binary64 := ofRatio n 1

/-- The product of the magnitudes. -/
def mul (x y : Binary64) : Binary64 :=
  ofRatio (x.num * y.num) (x.den * y.den)

/-- The quotient of the magnitudes. -/
def div (x y : Binary64) : Binary64 :=
  ofRatio (x.num * y.den) (x.den * y.num)

end Binary64

end Storyboard
