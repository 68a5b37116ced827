import Storyboard.Http.Address
import Storyboard.Http.Header
import Storyboard.Http.Message
import Storyboard.Http.Url
import Storyboard.Json.Printer
import Storyboard.Json.Reader
import Storyboard.Settings.Basic
import Storyboard.Text.Blank
/-!
# The network client

The client turns the request of an action into one that a server can take: with an
absolute address, its own headers before those of the action, and the body as JSON text.
It reads the text of a response as JSON if it is some, and as a text otherwise.

Main definitions: `Client.prepare?` is the request as it is sent, `Client.exchange` what
comes of it with a server that behaves in a given way.
-/

namespace Storyboard

namespace Http

/-- A client. -/
structure Client where
  /-- The address that endpoints are put behind. -/
  base : Option String := none
  /-- Headers of every request. -/
  headers : Table String := []
  /-- The longest wait for a response, in milliseconds. -/
  timeout : Nat
deriving DecidableEq, Repr

/-- A request as it is sent. -/
structure Sent where
  method : Method
  url : Url
  headers : Headers
  body : Option String
deriving DecidableEq, Repr

/-- How a server behaves to a request. -/
inductive Server where
  | answers (status : Nat) (text : String)
  /-- It lets the client wait. -/
  | hangs
  /-- It closes the connection without reading the request. -/
  | closes
  /-- Nobody listens. -/
  | refuses
deriving DecidableEq, Repr

namespace Response

/-- Whether a response of a status comes without a body. -/
def isBodiless (status : Nat) : Bool := status == 204 || status == 304

/-- What the text of a body means. A byte order mark before it does not count. -/
def readBody (text : String) : Json :=
  let text :=
    match text.toList with
    | '\ufeff' :: rest => String.ofList rest
    | _ => text
  if Text.isBlankText text then .null else (Json.parse? text).getD (.str text)

/-- The response of a status and a text. -/
def ofText (status : Nat) (text : String) : Response :=
  { status, body := if isBodiless status then .null else readBody text }

end Response

namespace Client

/-- The client of the settings. -/
def ofSettings (settings : NetworkSettings) : Client :=
  { base := settings.base, headers := settings.headers, timeout := settings.timeout }

/-- The address of a request. -/
def addressOf (client : Client) (request : Request) : String :=
  address client.base request.endpoint

/-- The headers of a request as they are sent: those of the client, then its own. -/
def headersOf? (client : Client) (request : Request) : Option Headers := do
  let headers ← (← Headers.extend? [] client.headers).extend? request.headers
  return if request.body.isSome then headers.withJsonBody else headers

/-- A request as it is sent, if its address has a host and its headers are legal. -/
def prepare? (client : Client) (request : Request) : Option Sent := do
  let url ← Url.parse? (client.addressOf request)
  let headers ← client.headersOf? request
  return { method := request.method, url, headers, body := request.body.map (·.compact) }

/-- What the server took in, and the response that the client got. The client waits for
its timeout and no longer. -/
def exchange (client : Client) (request : Request) (server : Url → Server) :
    Option Sent × Option Response :=
  match client.prepare? request with
  | none => (none, none)
  | some sent =>
    match server sent.url with
    | .answers status text =>
      if client.timeout = 0 then (none, none) else (some sent, some (.ofText status text))
    | .hangs | .closes | .refuses => (none, none)

end Client

end Http

end Storyboard
