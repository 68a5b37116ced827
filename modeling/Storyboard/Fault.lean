import Storyboard.Json.Basic
/-!
# Faults

Everything that can go wrong while a flow runs. Some faults are expected in use: the
network is down, a server refuses, a host handler rejects its input or fails. The
others are mistakes in a flow or in the host's set-up, and a developer hears of them
even if an action handles them.
-/

namespace Storyboard

/-- A reason why an action, a load or a start failed. -/
inductive Fault where
  /-- A flow or an action lacks the required shape. -/
  | malformed (subject field reason : String)
  /-- No handler has this name. -/
  | unknownCallback (name : String)
  /-- A handler failed. -/
  | callbackFailed (name message : String)
  /-- A request got no answer. -/
  | network (message : String)
  /-- A server answered with a status that is no success. -/
  | refused (status : Nat) (body : Json)
  /-- A handler rejected its input. -/
  | invalid (message : String)
  /-- The text of a flow could not be read. -/
  | unreadable (path message : String)
  /-- A flow has no such screen. -/
  | unknownScreen (flow screen : String)
deriving DecidableEq

namespace Fault

/-- The word by which continuations tell faults apart. -/
def kind : Fault → String
  | malformed .. => "structure"
  | unknownCallback .. => "callbackNotFound"
  | callbackFailed .. => "callbackFailed"
  | network .. => "network"
  | refused .. => "api"
  | invalid .. => "validation"
  | unreadable .. => "load"
  | unknownScreen .. => "unknownScreen"

/-- The description of a fault. -/
def message : Fault → String
  | malformed subject field reason =>
    "malformed " ++ subject ++ ": field `" ++ field ++ "` " ++ reason
  | unknownCallback name => "callback `" ++ name ++ "` is not registered"
  | callbackFailed name message => "callback `" ++ name ++ "` failed: " ++ message
  | network message => "network error: " ++ message
  | refused status _ => "api error: status " ++ toString status
  | invalid message => "validation failed: " ++ message
  | unreadable path message => "failed to load flow source " ++ path ++ ": " ++ message
  | unknownScreen flow screen =>
    "screen `" ++ screen ++ "` does not exist in flow `" ++ flow ++ "`"

/-- Whether a fault is a mistake in a flow or in the host's set-up. -/
def isMistake : Fault → Bool
  | malformed .. | unknownCallback .. | unknownScreen .. | unreadable .. => true
  | callbackFailed .. | network .. | refused .. | invalid .. => false

/-- What a continuation sees of a fault. -/
def scopeValue (fault : Fault) : Json :=
  match fault with
  | refused status body =>
    .obj [("body", body), ("kind", .str fault.kind), ("message", .str fault.message),
      ("status", .int status)]
  | _ => .obj [("kind", .str fault.kind), ("message", .str fault.message)]

end Fault

end Storyboard
