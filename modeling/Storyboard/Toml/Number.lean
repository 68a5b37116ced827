import Storyboard.Number.Literal
import Storyboard.Text.Digit
import Storyboard.Toml.Value
/-!
# Numbers of TOML

An integer is written in base ten with a sign or without, or in base sixteen, eight or two
behind `0x`, `0o` or `0b`; it lies between -2^63 and 2^63 - 1. A single underscore may
stand between two digits. Leading zeros are not allowed in base ten. A number with a
fraction or an exponent, and the words `inf` and `nan`, are floating-point values; one
that is not negative must not be too large for a finite value.

Main definition: `number?`.
-/

namespace Storyboard

namespace Toml

/-- More digits of a base; those already read stand latest first in `done`. -/
def moreDigits? (base : Nat) (done : List Nat) : List Char → Option (List Nat × List Char)
  | [] => some (done.reverse, [])
  | ['_'] => none
  | '_' :: c :: rest =>
    match Text.digit? base c with
    | some d => moreDigits? base (d :: done) rest
    | none => none
  | c :: rest =>
    match Text.digit? base c with
    | some d => moreDigits? base (d :: done) rest
    | none => some (done.reverse, c :: rest)

/-- Digits of a base, at least one. -/
def digits? (base : Nat) : List Char → Option (List Nat × List Char)
  | c :: rest => (Text.digit? base c).bind fun d => moreDigits? base [d] rest
  | [] => none

/-- The fraction at the start of a text, if a point announces one. -/
def fraction? : List Char → Option (Option (List Nat) × List Char)
  | '.' :: rest => (digits? 10 rest).map fun (ds, rest) => (some ds, rest)
  | text => some (none, text)

/-- Digits with a sign or without. -/
def signedDigits? : List Char → Option ((Bool × List Nat) × List Char)
  | '-' :: rest => (digits? 10 rest).map fun (ds, rest) => ((true, ds), rest)
  | '+' :: rest => (digits? 10 rest).map fun (ds, rest) => ((false, ds), rest)
  | rest => (digits? 10 rest).map fun (ds, rest) => ((false, ds), rest)

/-- The exponent at the start of a text, if a letter announces one. -/
def exponent? : List Char → Option (Option (Bool × List Nat) × List Char)
  | 'e' :: rest => (signedDigits? rest).map fun (exponent, rest) => (some exponent, rest)
  | 'E' :: rest => (signedDigits? rest).map fun (exponent, rest) => (some exponent, rest)
  | text => some (none, text)

/-- Half a unit above the greatest finite value; from here on numbers are infinite. -/
def infinityBound : Nat := Nat.pow 2 1024 - Nat.pow 2 970

/-- Whether the number that a literal denotes, its sign aside, is near a finite value. -/
def isFinite (literal : NumberLiteral) : Bool :=
  let fraction := literal.fraction.getD []
  let digits := literal.whole ++ fraction
  let significand := NumberLiteral.natOfDigits digits
  let exponent : Int := literal.writtenExponent - fraction.length
  let magnitude : Int := (digits.dropWhile (· == 0)).length + exponent
  if significand = 0 ∨ magnitude < 309 then true
  else if 309 < magnitude then false
  else if exponent < 0 then significand < infinityBound * Nat.pow 10 (-exponent).toNat
  else significand * Nat.pow 10 exponent.toNat < infinityBound

/-- An integer, if 64 bits with a sign hold it. -/
def integer? (negative : Bool) (n : Nat) : Option Value :=
  if negative then if n ≤ Nat.pow 2 63 then some (.integer (-n)) else none
  else if n < Nat.pow 2 63 then some (.integer n) else none

/-- The value of a literal in base ten. -/
def literalValue? (literal : NumberLiteral) : Option Value :=
  match literal.fraction, literal.exponent with
  | none, none => integer? literal.negative (NumberLiteral.natOfDigits literal.whole)
  | _, _ => if literal.negative || isFinite literal then some .float else none

/-- A number in base ten behind its sign, or one of the words for floating-point values. -/
def unsigned? (negative : Bool) (text : List Char) : Option (Value × List Char) :=
  match text with
  | 'i' :: 'n' :: 'f' :: rest => some (.float, rest)
  | 'n' :: 'a' :: 'n' :: rest => some (.float, rest)
  | _ => do
    let (whole, rest) ← digits? 10 text
    if whole.length ≠ 1 ∧ whole.head? = some 0 then none
    else
      let (fraction, rest) ← fraction? rest
      let (exponent, rest) ← exponent? rest
      let value ← literalValue? ⟨negative, whole, fraction, exponent⟩
      return (value, rest)

/-- An integer of another base. -/
def inBase? (base : Nat) (text : List Char) : Option (Value × List Char) := do
  let (digits, rest) ← digits? base text
  return (← integer? false (Text.ofDigits base digits), rest)

/-- The number at the start of a text. -/
def number? : List Char → Option (Value × List Char)
  | '0' :: 'x' :: rest => inBase? 16 rest
  | '0' :: 'o' :: rest => inBase? 8 rest
  | '0' :: 'b' :: rest => inBase? 2 rest
  | '+' :: rest => unsigned? false rest
  | '-' :: rest => unsigned? true rest
  | text => unsigned? false text

end Toml

end Storyboard
