import Storyboard.Text.Digit
import Storyboard.Text.Lines
/-!
# URLs

The parts of an `http` or `https` URL that a request needs: where to connect and what to
ask for. Blanks around a URL and tabs and line ends in it do not count, a backslash is as
good as a slash, and any number of slashes may follow the scheme. A path is sent with its
dot segments resolved and with every character that has no place in it percent-encoded; a
fragment is not sent.

Main definition: `Url.parse?`.
-/

namespace Storyboard

namespace Http

/-- A URL as far as a request needs it. -/
structure Url where
  isSecure : Bool
  /-- Name or address of the host, in lower case. -/
  host : String
  port : Nat
  /-- Path and query, in the form in which they are sent. -/
  target : String
deriving DecidableEq, Repr

namespace Url

/-- Whether a character around a URL does not count. -/
def isMargin (c : Char) : Bool := c.toNat ≤ 0x20

/-- Whether a character within a URL does not count. -/
def isIgnored (c : Char) : Bool := c == '\t' || c == '\n' || c == '\r'

/-- The characters of a URL that count. -/
def significant (text : String) : List Char :=
  let chars := (text.toList.dropWhile isMargin).reverse.dropWhile isMargin
  chars.reverse.filter fun c => !isIgnored c

/-- Whether a character separates the parts of a path. -/
def isSlash (c : Char) : Bool := c == '/' || c == '\\'

/-- The scheme of a URL, and what follows its colon. -/
def scheme? (chars : List Char) : Option (Bool × List Char) :=
  match chars.span (· != ':') with
  | (scheme, ':' :: rest) =>
    match (String.ofList scheme).toLower with
    | "http" => some (false, rest)
    | "https" => some (true, rest)
    | _ => none
  | _ => none

/-- Whether the host and port end before a character. -/
def endsAuthority (c : Char) : Bool := isSlash c || c == '?' || c == '#'

/-- What stands behind the last `@`: the host and port without a user. -/
def dropUser (chars : List Char) : List Char :=
  ((Text.pieces '@' chars).getLast?).getD []

/-- Whether a character may not stand in the name of a host. -/
def isForbiddenInHost (c : Char) : Bool :=
  c.toNat ≤ 0x20 || c.toNat == 0x7F || "#%/:<>?@[\\]^|".toList.contains c

/-- The port that a scheme means when none is written. -/
def standardPort (isSecure : Bool) : Nat := if isSecure then 443 else 80

/-- Host and port. -/
def hostAndPort? (isSecure : Bool) (chars : List Char) : Option (String × Nat) :=
  let (host, rest) := chars.span (· != ':')
  if host.isEmpty || host.any isForbiddenInHost then none
  else
    let name := (String.ofList host).toLower
    match rest.drop 1 with
    | [] => some (name, standardPort isSecure)
    | digits =>
      match Text.number? 10 digits with
      | some port => if port < Nat.pow 2 16 then some (name, port) else none
      | none => none

/-- An upper-case hexadecimal digit. -/
def upperDigit (n : Nat) : Char :=
  if n < 10 then Char.ofNat ('0'.toNat + n) else Char.ofNat ('A'.toNat + (n - 10))

/-- A character as the percent-encoded bytes of its UTF-8 form. -/
def percentEncoded (c : Char) : List Char :=
  (String.singleton c).toUTF8.toList.flatMap fun byte =>
    ['%', upperDigit (byte.toNat / 16), upperDigit (byte.toNat % 16)]

/-- Characters, some of them percent-encoded, and all beyond printable ASCII. -/
def encode (reserved : String) (chars : List Char) : List Char :=
  chars.flatMap fun c =>
    if c.toNat ≤ 0x1F || 0x7F ≤ c.toNat || reserved.toList.contains c then percentEncoded c
    else [c]

/-- The characters that are percent-encoded in a path. -/
def reservedInPath : String := " \"#<>?`\x7b\x7d"

/-- The characters that are percent-encoded in a query. -/
def reservedInQuery : String := " \"#<>'"

/-- The part of a path between slashes with its encoded points written plainly, if it has
no other characters. -/
def plainDots? : List Char → Option (List Char)
  | [] => some []
  | '.' :: rest => (plainDots? rest).map ('.' :: ·)
  | '%' :: '2' :: 'e' :: rest => (plainDots? rest).map ('.' :: ·)
  | '%' :: '2' :: 'E' :: rest => (plainDots? rest).map ('.' :: ·)
  | _ => none

/-- The segments of a path without dot segments, those before it latest first. -/
def resolveDots (done : List (List Char)) : List (List Char) → List (List Char)
  | [] => done.reverse
  | segment :: rest =>
    match plainDots? segment, rest with
    | some ['.'], [] => resolveDots ([] :: done) []
    | some ['.'], rest => resolveDots done rest
    | some ['.', '.'], [] => resolveDots ([] :: done.drop 1) []
    | some ['.', '.'], rest => resolveDots (done.drop 1) rest
    | _, rest => resolveDots (segment :: done) rest

/-- A path in the form in which it is sent. -/
def pathText (chars : List Char) : String :=
  let plain := chars.map fun c => if isSlash c then '/' else c
  let segments :=
    match Text.pieces '/' plain with
    | [] :: rest => rest
    | segments => segments
  let resolved := resolveDots [] segments
  "/" ++ String.intercalate "/" (resolved.map fun segment =>
    String.ofList (encode reservedInPath segment))

/-- Path and query in the form in which they are sent. -/
def targetText (chars : List Char) : String :=
  let (path, rest) := (chars.takeWhile (· != '#')).span (· != '?')
  match rest with
  | _ :: query => pathText path ++ "?" ++ String.ofList (encode reservedInQuery query)
  | [] => pathText path

/-- The parts of a URL that has a host. -/
def parse? (text : String) : Option Url := do
  let (isSecure, rest) ← scheme? (significant text)
  let (authority, rest) := (rest.dropWhile isSlash).span fun c => !endsAuthority c
  let (host, port) ← hostAndPort? isSecure (dropUser authority)
  return { isSecure, host, port, target := targetText rest }

end Url

end Http

end Storyboard
