import Storyboard.Table
/-!
# Where flows are stored

The text of a flow is found by its identifier in a directory, unless a path of its own
is set for it.
-/

namespace Storyboard

/-- Where to look for flows. -/
structure Sources where
  directory : String := ""
  /-- Paths by flow identifier. -/
  explicit : Table String := []
deriving DecidableEq, Repr

namespace Sources

/-- A file below a directory. An absolute file stays as it is. -/
def join (directory file : String) : String :=
  if file.startsWith "/" then file
  else if directory.isEmpty ∨ directory.endsWith "/" then directory ++ file
  else directory ++ "/" ++ file

/-- The path of a flow's text. -/
def pathFor (sources : Sources) (id : String) : String :=
  match sources.explicit.get? id with
  | some path => path
  | none => join sources.directory (id ++ ".json")

end Sources

end Storyboard
