import Storyboard.Fault
import Storyboard.Http.Method
/-!
# Requests and responses

What an action sends and what a server answers. A server's answer is a success when its
status is between 200 and 299; any other answer is a fault, but an answer all the same.
-/

namespace Storyboard

namespace Http

/-- A request, ready to be sent. -/
structure Request where
  method : Method
  /-- An absolute address, or a path below the base address of the client. -/
  endpoint : String
  headers : Table String := []
  body : Option Json := none
deriving DecidableEq

/-- The answer of a server. -/
structure Response where
  status : Nat
  body : Json
deriving DecidableEq

namespace Response

/-- Whether the status reports a success. -/
def isSuccess (response : Response) : Bool :=
  200 ≤ response.status && response.status < 300

/-- The body of a success, a fault otherwise. -/
def outcome (response : Response) : Except Fault Json :=
  if response.isSuccess then .ok response.body
  else .error (.refused response.status response.body)

end Response

end Http

end Storyboard
