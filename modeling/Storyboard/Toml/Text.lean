import Storyboard.Text.Digit
/-!
# Texts and keys of TOML

A text stands in double quotes, where a backslash starts an escape, or in single quotes,
where every character stands for itself. Behind three quotes it may go over several
lines: a line end right at the start is dropped, every other one is a line feed, and up to
two quotes may touch the three that end the text. In double quotes a backslash at the end
of a line drops the blanks and line ends up to the next character.

Main definitions: `text?` reads a text, `keys?` a path of keys with dots between them.
-/

namespace Storyboard

namespace Toml

/-- Whether a character is a blank within a line. -/
def isSpace (c : Char) : Bool := c == ' ' || c == '\t'

/-- A text from its first character that is no blank. -/
def skipSpaces (text : List Char) : List Char := text.dropWhile isSpace

/-- Whether a character may stand in a text or a comment. -/
def isPlain (c : Char) : Bool := c == '\t' || (0x20 ≤ c.toNat && c.toNat != 0x7F)

/-- What follows a line end at the start of a text. -/
def afterLineEnd? : List Char → Option (List Char)
  | '\n' :: rest => some rest
  | '\r' :: '\n' :: rest => some rest
  | _ => none

/-- The character that a one-letter escape stands for. -/
def escape? : Char → Option Char
  | 'b' => some '\x08'
  | 't' => some '\t'
  | 'n' => some '\n'
  | 'f' => some '\x0c'
  | 'r' => some '\r'
  | '"' => some '"'
  | '\\' => some '\\'
  | _ => none

/-- The character that hexadecimal digits denote. -/
def scalar? (digits : List Char) : Option Char :=
  match Text.number? 16 digits with
  | some code => if code.isValidChar then some (Char.ofNat code) else none
  | none => none

/-- A text that three quotes end, of which the last characters stand latest first in
`done`: up to two more quotes belong to it. -/
def close (quote : Char) (done rest : List Char) : List Char × List Char :=
  let extra := (rest.take 2).takeWhile (· == quote)
  ((extra ++ done).reverse, rest.drop extra.length)

/-- The characters of a text up to its closing double quotes, and what follows these.
`done` holds those read, the latest first; `skipping` tells that blanks and line ends are
dropped. -/
def escaped? (lines skipping : Bool) (done : List Char) :
    List Char → Option (List Char × List Char)
  | [] => none
  | '"' :: rest =>
    if lines then
      match rest with
      | '"' :: '"' :: after => some (close '"' done after)
      | _ => escaped? lines false ('"' :: done) rest
    else some (done.reverse, rest)
  | '\\' :: 'u' :: a :: b :: c :: d :: rest =>
    match scalar? [a, b, c, d] with
    | some char => escaped? lines false (char :: done) rest
    | none => none
  | '\\' :: 'U' :: a :: b :: c :: d :: e :: f :: g :: h :: rest =>
    match scalar? [a, b, c, d, e, f, g, h] with
    | some char => escaped? lines false (char :: done) rest
    | none => none
  | '\\' :: c :: rest =>
    match escape? c with
    | some char => escaped? lines false (char :: done) rest
    | none =>
      if lines && (afterLineEnd? (skipSpaces (c :: rest))).isSome then
        escaped? lines true done (c :: rest)
      else none
  | '\r' :: '\n' :: rest =>
    if lines then escaped? lines skipping (if skipping then done else '\n' :: done) rest
    else none
  | c :: rest =>
    if c = '\n' then
      if lines then escaped? lines skipping (if skipping then done else '\n' :: done) rest
      else none
    else if skipping && isSpace c then escaped? lines true done rest
    else if isPlain c then escaped? lines false (c :: done) rest
    else none

/-- The characters of a text up to its closing single quotes, and what follows these. -/
def literal? (lines : Bool) (done : List Char) : List Char → Option (List Char × List Char)
  | [] => none
  | '\x27' :: rest =>
    if lines then
      match rest with
      | '\x27' :: '\x27' :: after => some (close '\x27' done after)
      | _ => literal? lines ('\x27' :: done) rest
    else some (done.reverse, rest)
  | '\r' :: '\n' :: rest => if lines then literal? lines ('\n' :: done) rest else none
  | c :: rest =>
    if c = '\n' then if lines then literal? lines ('\n' :: done) rest else none
    else if isPlain c then literal? lines (c :: done) rest
    else none

/-- A text on several lines, without a line end at its start. -/
def dropLineEnd (text : List Char) : List Char := (afterLineEnd? text).getD text

/-- A key or a text on one line, in either kind of quotes. -/
def quoted? : List Char → Option (String × List Char)
  | '"' :: rest => (escaped? false false [] rest).map fun (text, rest) => (String.ofList text, rest)
  | '\x27' :: rest => (literal? false [] rest).map fun (text, rest) => (String.ofList text, rest)
  | _ => none

/-- The text at the start of characters. -/
def text? : List Char → Option (String × List Char)
  | '"' :: '"' :: '"' :: rest =>
    (escaped? true false [] (dropLineEnd rest)).map fun (text, rest) => (String.ofList text, rest)
  | '\x27' :: '\x27' :: '\x27' :: rest =>
    (literal? true [] (dropLineEnd rest)).map fun (text, rest) => (String.ofList text, rest)
  | text => quoted? text

/-- Whether a character may stand in a key without quotes. -/
def isBare (c : Char) : Bool :=
  ('a' ≤ c && c ≤ 'z') || ('A' ≤ c && c ≤ 'Z') || ('0' ≤ c && c ≤ '9') || c == '-' || c == '_'

/-- One key. -/
def key? (text : List Char) : Option (String × List Char) :=
  match text.takeWhile isBare with
  | [] => quoted? text
  | key => some (String.ofList key, text.dropWhile isBare)

/-- Keys with dots between them, blanks around each; those already read stand latest first
in `done`. -/
def moreKeys? (steps : Nat) (done : List String) (text : List Char) :
    Option (List String × List Char) :=
  match steps with
  | 0 => none
  | steps + 1 =>
    match key? (skipSpaces text) with
    | none => none
    | some (key, rest) =>
      match skipSpaces rest with
      | '.' :: rest => moreKeys? steps (key :: done) rest
      | rest => some ((key :: done).reverse, rest)

/-- Values lie less deep than this. -/
def depthLimit : Nat := 80

/-- A path of fewer keys than values may lie deep. -/
def keys? (text : List Char) : Option (List String × List Char) :=
  moreKeys? (depthLimit - 1) [] text

end Toml

end Storyboard
