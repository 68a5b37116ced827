import Storyboard.Number.Binary64
/-!
# Shortest decimal text

A floating-point value is written with the fewest digits that read back to it. The
reals that round to a value form an interval, whose ends belong to it exactly when
the significand is even. For one digit, two digits and so on, the two neighbours of
the value on that decimal grid are tested against the interval; the first grid with
a hit wins, and of two hits the nearer one, a tie going to the even digit.
-/

namespace Storyboard

/-- The decimal `digits * 10 ^ exponent`. -/
structure Decimal where
  digits : Nat
  exponent : Int
deriving DecidableEq, Repr

namespace Decimal

/-- The least `k` with `n < 10 ^ k`. -/
def length (n : Nat) : Nat :=
  if n = 0 then 0 else length (n / 10) + 1

/-- Compares `a * 10 ^ e` with `n / d`. -/
def compareRatio (a : Nat) (e : Int) (n d : Nat) : Ordering :=
  compare (a * Nat.pow 10 e.toNat * d) (n * Nat.pow 10 (-e).toNat)

/-- Whether a decimal lies among the reals that round to the magnitude of `x`. -/
def readsBack (x : Binary64) (decimal : Decimal) : Bool :=
  let unit := Nat.pow 2 x.exponent.toNat
  let low := 4 * x.num - (if x.narrowBelow then unit else 2 * unit)
  let high := 4 * x.num + 2 * unit
  let belongs := x.significand % 2 == 0
  let atLow := compareRatio decimal.digits decimal.exponent low (4 * x.den)
  let atHigh := compareRatio decimal.digits decimal.exponent high (4 * x.den)
  (atLow == .gt || (belongs && atLow == .eq)) && (atHigh == .lt || (belongs && atHigh == .eq))

/-- The least `k` with the magnitude of `x` below `10 ^ k`, for `x` not zero. -/
def scale (x : Binary64) : Int :=
  if x.den ≤ x.num then length (x.num / x.den)
  else 1 - length ((x.den - 1) / x.num)

/-- The magnitude of `x` divided by `10 ^ e`, without the fraction. -/
def quotient (x : Binary64) (e : Int) : Nat :=
  x.num * Nat.pow 10 (-e).toNat / (x.den * Nat.pow 10 e.toNat)

/-- The nearer of two neighbours `c` and `c + 1` on the grid `10 ^ e`. -/
def nearer (x : Binary64) (c : Nat) (e : Int) : Nat :=
  match compareRatio (2 * c + 1) e (2 * x.num) x.den with
  | .gt => c
  | .lt => c + 1
  | .eq => if c % 2 = 0 then c else c + 1

/-- The point of the grid `10 ^ e` that stands for `x`, if one reads back. -/
def onGrid? (x : Binary64) (e : Int) : Option Decimal :=
  let c := quotient x e
  match readsBack x ⟨c, e⟩, readsBack x ⟨c + 1, e⟩ with
  | true, true => some ⟨nearer x c e, e⟩
  | true, false => some ⟨c, e⟩
  | false, true => some ⟨c + 1, e⟩
  | false, false => none

/-- Moves trailing zeros of the digits into the exponent, `fuel` of them at most. -/
def strip (fuel : Nat) (decimal : Decimal) : Decimal :=
  match fuel with
  | 0 => decimal
  | fuel + 1 =>
    if decimal.digits % 10 = 0 then strip fuel ⟨decimal.digits / 10, decimal.exponent + 1⟩
    else decimal

/-- The shortest decimal for the magnitude of `x`, for `x` finite and not zero. -/
def shortest (x : Binary64) : Decimal :=
  let k := scale x
  let found := (List.range 17).findSome? fun (n : Nat) => onGrid? x (k - (n + 1 : Nat))
  strip 18 (found.getD ⟨quotient x (k - 17), k - 17⟩)

/-- Least and greatest exponent of the leading digit that is written positionally. -/
def positionalFrom : Int := -5

@[inherit_doc positionalFrom]
def positionalTo : Int := 15

/-- A decimal with a point or, far from one, with an exponent. -/
def layout (decimal : Decimal) : String :=
  let text := toString decimal.digits
  let leading := decimal.exponent + text.length - 1
  if positionalFrom ≤ leading ∧ leading ≤ positionalTo then
    if 0 ≤ decimal.exponent then
      text ++ String.ofList (List.replicate decimal.exponent.toNat '0') ++ ".0"
    else if 0 ≤ leading then
      let whole := (leading + 1).toNat
      String.ofList (text.toList.take whole) ++ "." ++ String.ofList (text.toList.drop whole)
    else
      "0." ++ String.ofList (List.replicate (-leading - 1).toNat '0') ++ text
  else
    let first := String.ofList (text.toList.take 1)
    let rest := String.ofList (text.toList.drop 1)
    let mantissa := if rest.isEmpty then first else first ++ "." ++ rest
    mantissa ++ (if leading < 0 then "e-" else "e+") ++ toString leading.natAbs

end Decimal

/-- A finite value in shortest form, always with a point or an exponent. -/
def Binary64.text (x : Binary64) : String :=
  (if x.isNegative then "-" else "") ++
    if x.isZero then "0.0" else (Decimal.shortest x).layout

end Storyboard
