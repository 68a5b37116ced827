/-!
# Digits

Digits of a base up to sixteen, letters of either case counting from ten, and the numbers
that they denote.
-/

namespace Storyboard

namespace Text

/-- The value of a digit of base sixteen. -/
def hexDigit? (c : Char) : Option Nat :=
  if '0' ≤ c ∧ c ≤ '9' then some (c.toNat - '0'.toNat)
  else if 'a' ≤ c ∧ c ≤ 'f' then some (c.toNat - 'a'.toNat + 10)
  else if 'A' ≤ c ∧ c ≤ 'F' then some (c.toNat - 'A'.toNat + 10)
  else none

/-- The value of a digit of a base. -/
def digit? (base : Nat) (c : Char) : Option Nat :=
  (hexDigit? c).filter (· < base)

/-- The number that digits of a base denote, the first counting most. -/
def ofDigits (base : Nat) (digits : List Nat) : Nat :=
  digits.foldl (fun n d => n * base + d) 0

/-- The number that characters denote, if all of them are digits of a base. -/
def number? (base : Nat) (text : List Char) : Option Nat :=
  (text.mapM (digit? base)).map (ofDigits base)

/-- The number that a text of decimal digits denotes, a plus sign before them or not, if
it is below 2^64. -/
def natural? (text : String) : Option Nat :=
  let digits :=
    match text.toList with
    | '+' :: rest => rest
    | chars => chars
  if digits.isEmpty then none else (number? 10 digits).filter (· < Nat.pow 2 64)

end Text

end Storyboard
