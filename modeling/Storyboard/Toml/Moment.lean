import Storyboard.Text.Digit
/-!
# Dates and times

A date, a time of day, or both, the latter with an offset from universal time or without.
Fractions of a second count nine digits; further digits are dropped.

Main definitions: `Moment.read?` and `Moment.text`.
-/

namespace Storyboard

namespace Toml

/-- A day of the calendar. -/
structure Date where
  year : Nat
  month : Nat
  day : Nat
deriving DecidableEq, Repr

/-- A time of day. -/
structure Time where
  hour : Nat
  minute : Nat
  second : Nat
  /-- Digits of the fraction of a second, at most nine. -/
  fraction : List Nat := []
deriving DecidableEq, Repr

/-- The distance from universal time. -/
inductive Offset where
  | universal
  | shifted (back : Bool) (hours minutes : Nat)
deriving DecidableEq, Repr

/-- A date, a time, or both. -/
inductive Moment where
  | day (date : Date)
  | clock (time : Time)
  | both (date : Date) (time : Time) (offset : Option Offset)
deriving DecidableEq, Repr

namespace Date

/-- The number of days of a month. -/
def days (year month : Nat) : Nat :=
  if month = 2 then
    if year % 4 = 0 ∧ (year % 100 ≠ 0 ∨ year % 400 = 0) then 29 else 28
  else if month = 4 ∨ month = 6 ∨ month = 9 ∨ month = 11 then 30
  else 31

/-- Whether there is such a day. -/
def isValid (date : Date) : Bool :=
  1 ≤ date.month && date.month ≤ 12 && 1 ≤ date.day && date.day ≤ days date.year date.month

/-- The date at the start of a text. -/
def read? : List Char → Option (Date × List Char)
  | a :: b :: c :: d :: '-' :: e :: f :: '-' :: g :: h :: rest => do
    let date : Date :=
      ⟨← Text.number? 10 [a, b, c, d], ← Text.number? 10 [e, f], ← Text.number? 10 [g, h]⟩
    if date.isValid then return (date, rest) else none
  | _ => none

end Date

namespace Time

/-- Whether there is such a time. The second 60 is one. -/
def isValid (time : Time) : Bool :=
  time.hour ≤ 23 && time.minute ≤ 59 && time.second ≤ 60

/-- The fraction of a second at the start of a text; without digits there is none. -/
def readFraction (text : List Char) : List Nat × List Char :=
  match text with
  | '.' :: rest =>
    match rest.takeWhile Char.isDigit with
    | [] => ([], text)
    | digits => ((digits.filterMap (Text.digit? 10)).take 9, rest.dropWhile Char.isDigit)
  | _ => ([], text)

/-- The time at the start of a text. -/
def read? : List Char → Option (Time × List Char)
  | a :: b :: ':' :: c :: d :: ':' :: e :: f :: rest => do
    let (fraction, rest) := readFraction rest
    let time : Time :=
      ⟨← Text.number? 10 [a, b], ← Text.number? 10 [c, d], ← Text.number? 10 [e, f], fraction⟩
    if time.isValid then return (time, rest) else none
  | _ => none

end Time

namespace Offset

/-- Hours and minutes of an offset. -/
def readShift? (back : Bool) : List Char → Option (Offset × List Char)
  | a :: b :: ':' :: c :: d :: rest => do
    let hours ← Text.number? 10 [a, b]
    let minutes ← Text.number? 10 [c, d]
    if hours ≤ 23 ∧ minutes ≤ 59 then return (shifted back hours minutes, rest) else none
  | _ => none

/-- The offset at the start of a text. -/
def read? : List Char → Option (Offset × List Char)
  | 'Z' :: rest => some (universal, rest)
  | 'z' :: rest => some (universal, rest)
  | '+' :: rest => readShift? false rest
  | '-' :: rest => readShift? true rest
  | _ => none

end Offset

namespace Moment

/-- Whether a character may stand between a date and a time. -/
def isJoint (c : Char) : Bool := c == 'T' || c == 't' || c == ' '

/-- The time behind a date, if a joint and a time follow. -/
def timeAfterDate? : List Char → Option (Time × List Char)
  | joint :: rest => if isJoint joint then Time.read? rest else none
  | [] => none

/-- The moment at the start of a text. -/
def read? (text : List Char) : Option (Moment × List Char) :=
  match Date.read? text with
  | some (date, rest) =>
    match timeAfterDate? rest with
    | some (time, rest) =>
      match Offset.read? rest with
      | some (offset, rest) => some (.both date time (some offset), rest)
      | none => some (.both date time none, rest)
    | none => some (.day date, rest)
  | none => (Time.read? text).map fun (time, rest) => (.clock time, rest)

/-- A number with zeros before it up to a width. -/
def padded (width n : Nat) : String :=
  let digits := Nat.toDigits 10 n
  String.ofList (List.replicate (width - digits.length) '0' ++ digits)

/-- The fraction of a second without zeros at its end. -/
def fractionText (fraction : List Nat) : String :=
  match (fraction.reverse.dropWhile (· == 0)).reverse with
  | [] => ""
  | digits => "." ++ String.join (digits.map (padded 1))

/-- A date in its standard form. -/
def dateText (date : Date) : String :=
  padded 4 date.year ++ "-" ++ padded 2 date.month ++ "-" ++ padded 2 date.day

/-- A time in its standard form. -/
def timeText (time : Time) : String :=
  padded 2 time.hour ++ ":" ++ padded 2 time.minute ++ ":" ++ padded 2 time.second ++
    fractionText time.fraction

/-- An offset in its standard form. No distance at all is not a distance back. -/
def offsetText : Offset → String
  | .universal => "Z"
  | .shifted back hours minutes =>
    (if back && hours + minutes != 0 then "-" else "+") ++ padded 2 hours ++ ":" ++
      padded 2 minutes

/-- A moment in its standard form. -/
def text : Moment → String
  | day date => dateText date
  | clock time => timeText time
  | both date time offset =>
    dateText date ++ "T" ++ timeText time ++ (offset.map offsetText).getD ""

end Moment

end Toml

end Storyboard
