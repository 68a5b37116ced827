import Storyboard.Table
/-!
# Headers

The headers of a request in the order in which they are sent. Names do not tell upper and
lower case apart and are sent in lower case; one name may be sent several times.

Main definition: `Headers.extend?` adds headers, if all of them are legal.
-/

namespace Storyboard

namespace Http

/-- Headers in the order of sending, by name in lower case. -/
abbrev Headers := List (String × String)

namespace Headers

/-- Whether a character may stand in a name. -/
def isNameChar (c : Char) : Bool := c.isAlphanum || "!#$%&'*+-.^_`|~".toList.contains c

/-- Whether a name is legal. -/
def isName (name : String) : Bool := !name.isEmpty && name.toList.all isNameChar

/-- Whether a character may stand in a value. -/
def isValueChar (c : Char) : Bool := c == '\t' || (0x20 ≤ c.toNat && c.toNat != 0x7F)

/-- Whether a value is legal. -/
def isValue (value : String) : Bool := value.toList.all isValueChar

/-- Whether a header is legal. -/
def isLegal (header : String × String) : Bool := isName header.1 && isValue header.2

/-- Adds headers behind others, if all of them are legal. -/
def extend? (headers : Headers) (added : List (String × String)) : Option Headers :=
  if added.all isLegal then
    some (headers ++ added.map fun header => (header.1.toLower, header.2))
  else none

/-- The values of a name, in the order of sending. -/
def values (headers : Headers) (name : String) : List String :=
  (headers.filter fun header => header.1 == name.toLower).map (·.2)

/-- The name of the header on the form of a body. -/
def contentType : String := "content-type"

/-- The headers of a request with a JSON body: they say so, unless they speak of the form of
the body already. -/
def withJsonBody (headers : Headers) : Headers :=
  if (headers.values contentType).isEmpty then headers ++ [(contentType, "application/json")]
  else headers

end Headers

end Http

end Storyboard
