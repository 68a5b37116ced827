import Storyboard.Json.Written
import Storyboard.Text.Digit
/-!
# Reading JSON text

Strict JSON: no byte order mark, no comments, no trailing commas, no leading zeros,
no raw control characters in strings, nothing after the value. Blanks are space, tab,
line feed and carriage return.

The reader works on the list of characters. Its recursion is bounded by a number of
steps that the length of the text always covers.
-/

namespace Storyboard

namespace Written

/-- Whether a character may stand between the parts of a value. -/
def isBlank (c : Char) : Bool :=
  c == ' ' || c == '\t' || c == '\n' || c == '\r'

/-- The text from its first character that is no blank. -/
def skipBlanks (text : List Char) : List Char :=
  text.dropWhile isBlank

/-- The code unit that four hexadecimal digits denote. -/
def codeUnit? (a b c d : Char) : Option Nat := Text.number? 16 [a, b, c, d]

/-- The code that a one-letter escape stands for. -/
def shortEscape? : Char → Option Nat
  | '"' => some 0x22
  | '\\' => some 0x5C
  | '/' => some 0x2F
  | 'b' => some 0x08
  | 'f' => some 0x0C
  | 'n' => some 0x0A
  | 'r' => some 0x0D
  | 't' => some 0x09
  | _ => none

/-- The codes of a string literal up to its closing quote, latest first in `codes`, and
what follows the quote. -/
def stringCodes? (codes : List Nat) : List Char → Option (List Nat × List Char)
  | [] => none
  | '"' :: rest => some (codes.reverse, rest)
  | '\\' :: 'u' :: a :: b :: c :: d :: rest =>
    match codeUnit? a b c d with
    | some unit => stringCodes? (unit :: codes) rest
    | none => none
  | '\\' :: c :: rest =>
    match shortEscape? c with
    | some code => stringCodes? (code :: codes) rest
    | none => none
  | c :: rest => if c.toNat < 0x20 then none else stringCodes? (c.toNat :: codes) rest

/-- Whether a code is the first half of a surrogate pair. -/
def isHighSurrogate (code : Nat) : Bool := 0xD800 ≤ code && code ≤ 0xDBFF

/-- Whether a code is the second half of a surrogate pair. -/
def isLowSurrogate (code : Nat) : Bool := 0xDC00 ≤ code && code ≤ 0xDFFF

/-- The characters that codes stand for; none if a surrogate is unpaired. -/
def charsOfCodes? : List Nat → Option (List Char)
  | [] => some []
  | [code] =>
    if isHighSurrogate code || isLowSurrogate code then none else some [Char.ofNat code]
  | high :: low :: rest =>
    if isHighSurrogate high then
      if isLowSurrogate low then
        (charsOfCodes? rest).map
          (Char.ofNat (0x10000 + (high - 0xD800) * 0x400 + (low - 0xDC00)) :: ·)
      else none
    else if isLowSurrogate high then none
    else (charsOfCodes? (low :: rest)).map (Char.ofNat high :: ·)

/-- The digits at the start of a text, as numbers, and the rest. -/
def digits (text : List Char) : List Nat × List Char :=
  ((text.takeWhile Char.isDigit).map fun c => c.toNat - '0'.toNat, text.dropWhile Char.isDigit)

/-- The fraction at the start of a text, if a point announces one. -/
def fraction? : List Char → Option (Option (List Nat) × List Char)
  | '.' :: rest =>
    match digits rest with
    | ([], _) => none
    | (ds, rest) => some (some ds, rest)
  | text => some (none, text)

/-- The exponent at the start of a text, if a letter announces one. -/
def exponent? (text : List Char) : Option (Option (Bool × List Nat) × List Char) :=
  match text with
  | c :: rest =>
    if c = 'e' ∨ c = 'E' then
      let (negative, rest) :=
        match rest with
        | '-' :: rest => (true, rest)
        | '+' :: rest => (false, rest)
        | rest => (false, rest)
      match digits rest with
      | ([], _) => none
      | (ds, rest) => some (some (negative, ds), rest)
    else some (none, text)
  | [] => some (none, text)

/-- The number literal at the start of a text. A leading zero stands alone. -/
def number? (text : List Char) : Option (NumberLiteral × List Char) := do
  let (negative, text) :=
    match text with
    | '-' :: rest => (true, rest)
    | _ => (false, text)
  let (whole, text) ←
    match digits text with
    | ([], _) => none
    | (0 :: _ :: _, _) => none
    | (ds, rest) => some (ds, rest)
  let (fraction, text) ← fraction? text
  let (exponent, text) ← exponent? text
  return (⟨negative, whole, fraction, exponent⟩, text)

/-- The text after a fixed word. -/
def afterWord? (word text : List Char) : Option (List Char) :=
  match word, text with
  | [], text => some text
  | c :: word, d :: text => if c = d then afterWord? word text else none
  | _ :: _, [] => none

/-- The string literal whose opening quote was read. -/
def string? (text : List Char) : Option (Option String × List Char) :=
  (stringCodes? [] text).map fun (codes, rest) => ((charsOfCodes? codes).map String.ofList, rest)

mutual

/-- The value at the start of a text, blanks before it skipped. -/
def read? (steps : Nat) (text : List Char) : Option (Written × List Char) :=
  match steps with
  | 0 => none
  | steps + 1 =>
    match skipBlanks text with
    | '\x7b' :: rest =>
      match skipBlanks rest with
      | '\x7d' :: rest => some (.obj [], rest)
      | rest => (readMembers? steps [] rest).map fun (members, rest) => (.obj members, rest)
    | '[' :: rest =>
      match skipBlanks rest with
      | ']' :: rest => some (.arr [], rest)
      | rest => (readItems? steps [] rest).map fun (items, rest) => (.arr items, rest)
    | '"' :: rest => (string? rest).map fun (text, rest) => (.str text, rest)
    | 'n' :: rest => (afterWord? ['u', 'l', 'l'] rest).map (.null, ·)
    | 't' :: rest => (afterWord? ['r', 'u', 'e'] rest).map (.bool true, ·)
    | 'f' :: rest => (afterWord? ['a', 'l', 's', 'e'] rest).map (.bool false, ·)
    | rest => (number? rest).map fun (literal, rest) => (.number literal.value?, rest)

/-- The items of an array up to its bracket; those already read stand latest first. -/
def readItems? (steps : Nat) (items : List Written) (text : List Char) :
    Option (List Written × List Char) :=
  match steps with
  | 0 => none
  | steps + 1 =>
    match read? steps text with
    | none => none
    | some (item, rest) =>
      match skipBlanks rest with
      | ',' :: rest => readItems? steps (item :: items) rest
      | ']' :: rest => some ((item :: items).reverse, rest)
      | _ => none

/-- The members of an object up to its brace; those already read stand latest first. -/
def readMembers? (steps : Nat) (members : List (Option String × Written)) (text : List Char) :
    Option (List (Option String × Written) × List Char) :=
  match steps with
  | 0 => none
  | steps + 1 =>
    match skipBlanks text with
    | '"' :: rest =>
      match string? rest with
      | none => none
      | some (key, rest) =>
        match skipBlanks rest with
        | ':' :: rest =>
          match read? steps rest with
          | none => none
          | some (item, rest) =>
            match skipBlanks rest with
            | ',' :: rest => readMembers? steps ((key, item) :: members) rest
            | '\x7d' :: rest => some (((key, item) :: members).reverse, rest)
            | _ => none
        | _ => none
    | _ => none

end

/-- The one value that a text consists of. -/
def parse? (text : String) : Option Written :=
  let chars := text.toList
  match read? (2 * chars.length + 1) chars with
  | some (written, rest) => if (skipBlanks rest).isEmpty then some written else none
  | none => none

end Written

/-- The value of a JSON text. -/
def Json.parse? (text : String) : Option Json :=
  (Written.parse? text).bind (·.value? Written.greatestDepth)

end Storyboard
