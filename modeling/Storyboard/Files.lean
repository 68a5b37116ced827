import Storyboard.Flow.Library
import Storyboard.Text.Lines
/-!
# Files

A tree of files below a working directory. Paths are relative to it; `.` and nothing
stand for the directory reached so far, `..` for the one above it. What lies outside the
working directory is not there.

Main definitions: `Files.read` gives the text of a file, `Files.sources` the source files
below a directory.
-/

namespace Storyboard

/-- Files by the names that lead to them. -/
structure Files where
  entries : List (List String × ByteArray) := []

namespace Files

/-- Why a file has no text. -/
inductive Obstacle where
  | missing
  /-- The path leads through a file. -/
  | throughFile
  | directory
  /-- The bytes are no text. -/
  | undecodable
  /-- No file can have this name. -/
  | unnameable
deriving DecidableEq, Repr

namespace Obstacle

/-- The description of an obstacle. -/
def message : Obstacle → String
  | missing => "No such file or directory (os error 2)"
  | throughFile => "Not a directory (os error 20)"
  | directory => "Is a directory (os error 21)"
  | undecodable => "stream did not contain valid UTF-8"
  | unnameable => "file name contained an unexpected NUL byte"

end Obstacle

/-- The names that a path lists. -/
def names (path : String) : List String := Text.splitAt '/' path

/-- Files by path. -/
def ofList (files : List (String × ByteArray)) : Files :=
  ⟨files.map fun file => (names file.1, file.2)⟩

/-- The bytes of the file at a place. -/
def bytes? (files : Files) (place : List String) : Option ByteArray :=
  files.entries.lookup place

/-- Whether a place is a directory: the working directory, or one with files below. -/
def isDirectory (files : Files) (place : List String) : Bool :=
  place.isEmpty ||
    files.entries.any fun entry => place.isPrefixOf entry.1 && entry.1.length != place.length

/-- The place that names lead to from another place. -/
def walk (files : Files) (place : List String) : List String → Except Obstacle (List String)
  | [] => .ok place
  | name :: rest =>
    if files.isDirectory place then
      if name = "" ∨ name = "." then files.walk place rest
      else if name = ".." then
        if place.isEmpty then .error .missing else files.walk place.dropLast rest
      else files.walk (place ++ [name]) rest
    else if (files.bytes? place).isSome then .error .throughFile
    else .error .missing

/-- The place of a path. -/
def place (files : Files) (path : String) : Except Obstacle (List String) :=
  if path.toList.contains '\x00' then .error .unnameable
  else if path.startsWith "/" then .error .missing
  else files.walk [] (names path)

/-- The text of the file at a path. -/
def read (files : Files) (path : String) : Except Obstacle String :=
  match files.place path with
  | .error obstacle => .error obstacle
  | .ok place =>
    match files.bytes? place with
    | some bytes =>
      match String.fromUTF8? bytes with
      | some text => .ok text
      | none => .error .undecodable
    | none => .error (if files.isDirectory place then .directory else .missing)

/-- Reads the texts of flows from the files. -/
def loader (files : Files) : Loader := fun path =>
  match files.read path with
  | .ok text => .ok text
  | .error obstacle => .error obstacle.message

/-- What follows the last point of a file's name, if something stands before it. -/
def extension? (name : String) : Option String :=
  match (Text.splitAt '.' name).reverse with
  | last :: before :: rest => if before = "" ∧ rest = [] then none else some last
  | _ => none

/-- The extension of source files. -/
def sourceExtension : String := "rs"

/-- The source file at a place, if it is one that can be read. -/
def source? (entry : List String × ByteArray) : Option (String × String) :=
  if entry.1.getLast?.bind extension? = some sourceExtension then
    (String.fromUTF8? entry.2).map fun text => ("/".intercalate entry.1, text)
  else none

/-- Path and text of every source file at or below a path, in the order of their paths;
none if there is nothing at that path. -/
def sources (files : Files) (path : String) : List (String × String) :=
  match files.place path with
  | .error _ => []
  | .ok place =>
    (files.entries.filter fun entry => place.isPrefixOf entry.1).filterMap source?
      |>.mergeSort fun a b => decide (a.1 ≤ b.1)

end Files

end Storyboard
