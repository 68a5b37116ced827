import Storyboard.Json.Basic
import Storyboard.Template.Token
/-!
# Scopes

The data that references are looked up in. Session data and field values are tables;
the response and the error of an action are any values: a table's members are reached
by their keys, anything else by the key `value`.
-/

namespace Storyboard

/-- The data that a template is resolved against; a scope may be absent. -/
structure Scopes where
  session : Option Fields := none
  fields : Option Fields := none
  response : Option Json := none
  error : Option Json := none
deriving DecidableEq

namespace Scopes

/-- The part of a response or an error that a key names. -/
def part? (value : Json) (key : String) : Option Json :=
  match value with
  | .obj fields => Table.get? fields key
  | value => if key = "value" then some value else none

/-- What a scope holds under a key, `null` included. -/
def entry? (scopes : Scopes) (scope key : String) : Option Json :=
  if scope = "navigationData" then scopes.session.bind (·.get? key)
  else if scope = "fields" then scopes.fields.bind (·.get? key)
  else if scope = "response" then scopes.response.bind (part? · key)
  else if scope = "error" then scopes.error.bind (part? · key)
  else none

/-- The value of a reference. A `null` counts as missing. -/
def lookup (scopes : Scopes) (reference : Reference) : Option Json :=
  (scopes.entry? reference.scope reference.key).filter fun value => !value.isNull

end Scopes

end Storyboard
