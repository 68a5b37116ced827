import Storyboard.Toml.Assembly
import Storyboard.Toml.Number
import Storyboard.Toml.Text
/-!
# Reading TOML

A document is read into statements, line by line, and these are assembled. A byte order
mark before the first character is skipped. A line ends at a line feed, a carriage return
before it included.

The reader's recursion is bounded by a number of steps that the length of the text always
covers; apart from that, arrays and tables in braces nest less deep than a fixed limit.

Main definition: `parse?` gives the root table of a document.
-/

namespace Storyboard

namespace Toml

/-- A text from its first character that is neither blank nor line end nor in a comment. -/
def skipLines (inComment : Bool) : List Char → List Char
  | [] => []
  | '\r' :: '\n' :: rest => skipLines false rest
  | c :: rest =>
    if c = '\n' then skipLines false rest
    else if inComment then if isPlain c then skipLines true rest else c :: rest
    else if c = '#' then skipLines true rest
    else if isSpace c then skipLines false rest
    else c :: rest

/-- The text after a fixed word. -/
def afterWord? (word text : List Char) : Option (List Char) :=
  if word.isPrefixOf text then some (text.drop word.length) else none

/-- A truth value, a date or time, or a number. -/
def scalarValue? (text : List Char) : Option (Value × List Char) :=
  match text with
  | 't' :: rest => (afterWord? ['r', 'u', 'e'] rest).map (.boolean true, ·)
  | 'f' :: rest => (afterWord? ['a', 'l', 's', 'e'] rest).map (.boolean false, ·)
  | _ =>
    match Moment.read? text with
    | some (moment, rest) => some (.moment moment, rest)
    | none => number? text

mutual

/-- The value at the start of a text; arrays and tables nest at most `room` deep. -/
def value? (steps room : Nat) (text : List Char) : Option (Value × List Char) :=
  match steps with
  | 0 => none
  | steps + 1 =>
    match text, room with
    | '[' :: rest, room + 1 =>
      (items? steps room [] rest).map fun (items, rest) => (.array items, rest)
    | '\x7b' :: rest, room + 1 =>
      match skipSpaces rest with
      | '\x7d' :: rest => some (.table .braces [], rest)
      | rest => do
        let (entries, rest) ← entries? steps room [] rest
        return (.table .braces (← assignAll? [] entries), rest)
    | '[' :: _, 0 => none
    | '\x7b' :: _, 0 => none
    | '"' :: _, _ => (text? text).map fun (content, rest) => (.text content, rest)
    | '\x27' :: _, _ => (text? text).map fun (content, rest) => (.text content, rest)
    | _, _ => scalarValue? text

/-- The items of an array up to its bracket, those already read latest first. -/
def items? (steps room : Nat) (done : List Value) (text : List Char) :
    Option (List Value × List Char) :=
  match steps with
  | 0 => none
  | steps + 1 =>
    match skipLines false text with
    | ']' :: rest => some (done.reverse, rest)
    | text =>
      match value? steps room text with
      | none => none
      | some (item, rest) =>
        match skipLines false rest with
        | ',' :: rest => items? steps room (item :: done) rest
        | ']' :: rest => some ((item :: done).reverse, rest)
        | _ => none

/-- The entries of a table in braces up to the closing one, those already read latest
first. -/
def entries? (steps room : Nat) (done : List (Path × Value)) (text : List Char) :
    Option (List (Path × Value) × List Char) :=
  match steps with
  | 0 => none
  | steps + 1 =>
    match keys? text with
    | some (path, '=' :: rest) =>
      match value? steps room (skipSpaces rest) with
      | none => none
      | some (item, rest) =>
        match skipSpaces rest with
        | ',' :: rest => entries? steps room ((path, item) :: done) rest
        | '\x7d' :: rest => some (((path, item) :: done).reverse, rest)
        | _ => none
    | _ => none

end

/-- The text after the end of a line, where nothing but blanks and a comment may stand
before it. -/
def endLine? (text : List Char) : Option (List Char) :=
  let text :=
    match skipSpaces text with
    | '#' :: rest => rest.dropWhile isPlain
    | rest => rest
  if text.isEmpty then some [] else afterLineEnd? text

/-- The statement at the start of a line, and the next line. -/
def statement? (steps : Nat) (text : List Char) : Option (Statement × List Char) :=
  match text with
  | '[' :: '[' :: rest =>
    match keys? rest with
    | some (path, ']' :: ']' :: rest) => (endLine? rest).map (.element path, ·)
    | _ => none
  | '[' :: rest =>
    match keys? rest with
    | some (path, ']' :: rest) => (endLine? rest).map (.table path, ·)
    | _ => none
  | _ => do
    match ← keys? text with
    | (path, '=' :: rest) =>
      let (value, rest) ← value? steps (depthLimit - 1) (skipSpaces rest)
      let rest ← endLine? rest
      return (.assign path value, rest)
    | _ => none

/-- The statements of a text, those already read latest first. -/
def statements? (steps : Nat) (done : List Statement) (text : List Char) :
    Option (List Statement) :=
  match steps with
  | 0 => none
  | steps + 1 =>
    match skipLines false text with
    | [] => some done.reverse
    | text =>
      match statement? steps text with
      | some (statement, rest) => statements? steps (statement :: done) rest
      | none => none

/-- The root table of a document. -/
def parse? (text : String) : Option Members := do
  let chars :=
    match text.toList with
    | '\ufeff' :: rest => rest
    | chars => chars
  document? (← statements? (2 * chars.length + 2) [] chars)

end Toml

end Storyboard
