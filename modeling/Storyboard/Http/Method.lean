/-!
# HTTP methods

The methods that an action may use. A method is written in any case and named in
upper case.
-/

namespace Storyboard

namespace Http

/-- A method of an HTTP request. -/
inductive Method where
  | get
  | post
  | put
  | patch
  | delete
deriving DecidableEq, Repr

namespace Method

/-- The name of a method. -/
def name : Method → String
  | get => "GET"
  | post => "POST"
  | put => "PUT"
  | patch => "PATCH"
  | delete => "DELETE"

/-- The method of a name in any case. Only ASCII letters have another case here. -/
def ofName? (text : String) : Option Method :=
  let upper := text.toUpper
  if upper = "GET" then some get
  else if upper = "POST" then some post
  else if upper = "PUT" then some put
  else if upper = "PATCH" then some patch
  else if upper = "DELETE" then some delete
  else none

/-- The complaint about a name that is no method's. -/
def unsupported (text : String) : String :=
  "unsupported HTTP method `" ++ text.toUpper ++ "`"

theorem ofName?_name (method : Method) : ofName? method.name = some method := by
  cases method <;> decide +kernel

end Method

end Http

end Storyboard
