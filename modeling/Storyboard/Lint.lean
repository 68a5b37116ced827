import Storyboard.Text.Blank
import Storyboard.Text.Lines
import Storyboard.Text.Search
/-!
# Checks of source text

What the checks of a Rust source tree need to know of a file: the part of a line that is
no comment, the kind of function that a line stands in, and where the tests start. The
text is looked at line by line and not parsed; unusual formatting can mislead it.

Main definitions: `codePart`, `enclosing` and `testsStart?`.
-/

namespace Storyboard

namespace Lint

/-- Characters before the first two slashes. -/
def codeChars : List Char → List Char
  | [] => []
  | '/' :: '/' :: _ => []
  | c :: rest => c :: codeChars rest

/-- The part of a line before a comment. -/
def codePart (line : String) : String := String.ofList (codeChars line.toList)

/-- The kind of function that a line stands in. -/
inductive Enclosing where
  | async
  | sync
  /-- No function was found. -/
  | unknown
deriving DecidableEq, Repr

namespace Enclosing

/-- The name of a kind. -/
def name : Enclosing → String
  | async => "async"
  | sync => "sync"
  | unknown => "unknown"

end Enclosing

/-- The visibilities that a declaration may start with. -/
def visibilities : List String := ["pub(crate) ", "pub(super) ", "pub "]

/-- A declaration without its visibility. -/
def dropVisibility (line : List Char) : List Char :=
  (visibilities.findSome? (Text.after? · line)).getD line

/-- Whether a trimmed line declares a function. -/
def declaresFunction (line : List Char) : Bool :=
  let declaration := dropVisibility line
  Text.startsWith "fn " declaration || Text.startsWith "async fn " declaration ||
    Text.startsWith "const fn " declaration

/-- Whether a module or an implementation starts on a trimmed line. -/
def isBoundary (line : List Char) : Bool :=
  Text.startsWith "mod " line || (Text.startsWith "impl" line && line.contains '\x7b')

/-- What a line tells about those after it, if anything. A function counts as
asynchronous when the words for that stand anywhere in its line. -/
def verdict? (line : String) : Option Enclosing :=
  let line := Text.trimChars line.toList
  if declaresFunction line then
    some (if Text.holds "async fn " line then .async else .sync)
  else if isBoundary line then some .unknown
  else none

/-- The kind of function that the line of an index stands in: what the nearest line
before it tells that tells anything. -/
def enclosing (lines : List String) (index : Nat) : Enclosing :=
  ((lines.take index).reverse.findSome? verdict?).getD .unknown

/-- Whether the tests of a file start on a line. -/
def startsTests (line : String) : Bool :=
  Text.startsWith "#[cfg(test)]" (Text.trimChars line.toList)

/-- The index of the line where the tests start. -/
def testsStart? (lines : List String) : Option Nat := lines.findIdx? startsTests

end Lint

end Storyboard
