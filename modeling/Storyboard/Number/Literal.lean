import Storyboard.Number.Binary64
/-!
# Values of decimal literals

A number literal is an integer when it has no fraction and no exponent and lies
between -2^63 and 2^64 - 1. Anything else, and `-0`, is a floating-point value: its
digits are collected while they fit into 64 bits, the collected integer is rounded
to a floating-point value, and that is scaled by a power of ten in one further
rounding. A literal too large for any finite value has no value.
-/

namespace Storyboard

/-- The parts of a number literal, digits as numbers from 0 to 9. -/
structure NumberLiteral where
  negative : Bool
  whole : List Nat
  /-- Digits after the point, if there is one. -/
  fraction : Option (List Nat) := none
  /-- Sign and digits of the exponent, if there is one. -/
  exponent : Option (Bool × List Nat) := none
deriving DecidableEq, Repr

/-- The value of a number literal. -/
inductive Number where
  | int (value : Int)
  | float (value : Binary64)
deriving DecidableEq, Repr

namespace NumberLiteral

/-- Appends digits to a number while it stays below 2^64; also gives the digits left over. -/
def collect (n : Nat) : List Nat → Nat × List Nat
  | [] => (n, [])
  | d :: rest => if n * 10 + d < Nat.pow 2 64 then collect (n * 10 + d) rest else (n, d :: rest)

/-- The number that digits denote. -/
def natOfDigits (digits : List Nat) : Nat :=
  digits.foldl (fun n d => n * 10 + d) 0

/-- The greatest exponent of a power of ten that is a finite value. -/
def greatestPower : Nat := 308

/-- Divides by a power of ten, in steps that are finite values. -/
def scaleDown (x : Binary64) (n : Nat) : Binary64 :=
  if n ≤ greatestPower ∨ x.isZero then x.div (.ofNat (Nat.pow 10 (min n greatestPower)))
  else scaleDown (x.div (.ofNat (Nat.pow 10 greatestPower))) (n - greatestPower)
termination_by n
decreasing_by simp only [greatestPower] at *; omega

/-- The value times a power of ten, unless that is too large. -/
def scale? (x : Binary64) (e : Int) : Option Binary64 :=
  if e < 0 then some (scaleDown x (-e).toNat)
  else if x.isZero then some x
  else if e ≤ greatestPower then
    let scaled := x.mul (.ofNat (Nat.pow 10 e.toNat))
    if scaled.isFinite then some scaled else none
  else none

/-- The written exponent. -/
def writtenExponent (literal : NumberLiteral) : Int :=
  match literal.exponent with
  | none => 0
  | some (negative, digits) => if negative then -(natOfDigits digits : Int) else natOfDigits digits

/-- The floating-point value of a literal, unless it is too large. -/
def float? (literal : NumberLiteral) : Option Binary64 :=
  let (n, dropped) := collect 0 literal.whole
  let fraction := literal.fraction.getD []
  let (m, unread) := collect n fraction
  let shift : Int := dropped.length - (fraction.length - unread.length : Nat)
  (scale? (.ofNat m) (shift + literal.writtenExponent)).map (·.withSign literal.negative)

/-- The integer that a literal denotes, if it denotes one. -/
def int? (literal : NumberLiteral) : Option Int :=
  match literal.fraction, literal.exponent with
  | none, none =>
    let n := natOfDigits literal.whole
    if literal.negative then
      if 0 < n ∧ n ≤ Nat.pow 2 63 then some (-n) else none
    else if n < Nat.pow 2 64 then some n else none
  | _, _ => none

/-- The value of a literal, unless it is too large. -/
def value? (literal : NumberLiteral) : Option Number :=
  match literal.int? with
  | some n => some (.int n)
  | none => literal.float?.map .float

end NumberLiteral

end Storyboard
