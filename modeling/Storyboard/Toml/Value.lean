import Storyboard.Table
import Storyboard.Toml.Moment
/-!
# TOML values

The values of a TOML document. A table is written under a header of its own, in braces,
or by keys with dots; it also comes to be when a header names it only on the way to
another table. Which of these it was decides what may be added to it later, so the table
keeps it.
-/

namespace Storyboard

namespace Toml

/-- How a table came to be. -/
inductive Origin where
  /-- A header names it. -/
  | header
  /-- A header names it on the way to another table. -/
  | passing
  /-- A key with dots names it. -/
  | dotted
  /-- It is written in braces. -/
  | braces
deriving DecidableEq, Repr

/-- A value of a document. A floating-point number is known to be one and not kept. -/
inductive Value where
  | text (text : String)
  | integer (value : Int)
  | float
  | boolean (value : Bool)
  | moment (moment : Moment)
  | array (items : List Value)
  | table (origin : Origin) (members : List (String × Value))
  /-- Tables under repeated headers in double brackets, the latest first. -/
  | tables (elements : List (List (String × Value)))

/-- The members of a table. -/
abbrev Members := Table Value

/-- The way from a table to a value: keys, at least one. -/
abbrev Path := List String

end Toml

end Storyboard
