import Storyboard.Action.Basic
import Storyboard.Callback.Registry
import Storyboard.Engine.Context
import Storyboard.Flow.Library
import Storyboard.Http.Message
import Storyboard.Message
/-!
# The engine

The state of a running engine, the steps that drive it, and what is observed of it.

The collaborators of an engine are its library of flows, the handlers of the host and the
network. Handlers, and replies of the network, may take steps on the very engine that
waits for them. The network answers each endpoint with a list of replies, one after
another, the last of which stays.
-/

namespace Storyboard

/-- Where the execution of actions stands. -/
inductive Phase where
  | idle
  /-- An action runs; `depth` counts the continuations that led to it. -/
  | executing (action : String) (depth : Nat)
  | succeeded (action : String)
  | failed (action : String) (error : String)
deriving DecidableEq, Repr

/-- The result of an action: what it put out, if anything, or a fault. -/
abbrev Outcome := Except Fault (Option Json)

/-- A reply of the network: a response, or the reason why there is none. -/
structure Reply (S : Type) where
  outcome : Except String Http.Response
  /-- The steps taken while the request is pending, if there are any. -/
  during : Option (List S) := none

namespace Engine

/-- A step on an engine. -/
inductive Step where
  /-- An event of the renderer arrives, in its JSON form. -/
  | event (event : Json)
  /-- A control's action is triggered. -/
  | dispatch (action : Json) (fields : Fields)
  /-- The current screen is asked for. -/
  | screen (fields : Fields)
  /-- A session value is written. -/
  | set (key : String) (value : Json)
  /-- A session value is dropped. -/
  | drop (key : String)
  /-- A session value is asked for. -/
  | value (key : String)
  /-- A flow's own state is asked for. -/
  | flowState (flow : String)
  /-- The user logs out. -/
  | logout
  /-- The context is saved under a name. -/
  | backup (name : String)
  /-- The context saved under a name is restored. -/
  | restore (name : String)
  /-- A template is resolved. -/
  | resolve (template : String) (fields : Fields)
  /-- A tree is resolved. -/
  | resolveValue (value : Json) (fields : Fields) (response error : Option Json)
  /-- The network gets other replies for an endpoint. -/
  | setReplies (endpoint : String) (replies : List (Reply Step))
  /-- The renderer stops listening. -/
  | close
  /-- The library is asked. -/
  | library (request : Library.Step)
  /-- The registry of handlers is asked. -/
  | registry (request : Registry.Request Step)
  /-- A step of an unknown kind. -/
  | unknown

/-- A screen ready to be drawn. -/
structure Screen where
  flow : String
  screen : String
  descriptor : Json
deriving DecidableEq

/-- A screen as an object. -/
def Screen.toJson (screen : Screen) : Json :=
  .obj [("descriptor", screen.descriptor), ("flowId", .str screen.flow),
    ("screenId", .str screen.screen)]

/-- The answer to a step. -/
inductive Answer where
  | done
  | flag (value : Bool)
  | text (text : String)
  | value (value : Json)
  | found (value : Option Json)
  | outcome (outcome : Outcome)
  | handled (result : Except Fault Unit)
  /-- What arrived is no event. -/
  | noEvent
  | screen (result : Except Fault Screen)
  | saved (current : Frame) (session : Fields)
  | noBackup
  | library (answer : Library.Answer)
  | registry (answer : Registry.Answer)
  | unknown

/-- What can be seen of an engine at a moment. -/
structure Snapshot where
  context : Context
  /-- The flows that the library keeps. -/
  kept : List String
  phase : Phase
  /-- Every message sent so far, the latest first. -/
  sent : List Message
  /-- Saved contexts by name. -/
  backups : Table Context
deriving DecidableEq

/-- What happens at a moment of an engine's history. A collaborator is called at the moment
that announces it, before anything changes; the library reads texts when a flow is loaded
or when a step asks it. -/
inductive Happening where
  /-- The engine was started. -/
  | started
  /-- A step is about to be taken. -/
  | asked (step : Step)
  /-- A step was taken. -/
  | answered (step : Step) (answer : Answer)
  /-- An action, its payload resolved, is about to be executed. -/
  | executing (action : Action)
  /-- An action was executed, its messages are sent. -/
  | executed (action : Action) (outcome : Outcome)
  /-- A flow is about to be loaded. -/
  | loading (flow : String)
  /-- A handler is about to be called. -/
  | calling (name : String) (params : Option Fields)
  /-- A request is about to be sent. -/
  | requesting (request : Http.Request)

/-- A moment of a history: what happens, and what can be seen of the engine then. -/
structure Moment where
  happening : Happening
  seen : Snapshot

/-- A call of a collaborator as it was observed: the call, the moment it was made, and the
observations of the steps taken before it was answered. -/
inductive Call (E : Type) where
  | handler (name : String) (params : Option Fields) (moment : Snapshot)
      (during : Option (List E))
  | request (request : Http.Request) (moment : Snapshot) (during : Option (List E))

/-- What was observed of a step: its answer (the start of an engine has none), the
messages that arrived since the last observation unless nobody listens, the paths read
since then, the calls made in the step, and the engine after it. -/
inductive Entry where
  | mk (answer : Option Answer) (messages : Option (List Message)) (reads : List String)
      (calls : List (Call Entry)) (after : Snapshot)

end Engine

/-- A running engine. -/
structure Engine where
  /-- Where the user starts and returns to on logging out. -/
  root : Frame
  context : Context
  library : Library
  registry : Registry Engine.Step := []
  replies : Table (List (Reply Engine.Step)) := []
  /-- Every message sent, the latest first. -/
  sent : List Message := []
  /-- How many of the messages were observed. -/
  observed : Nat := 0
  /-- Whether somebody listens to the messages. -/
  listening : Bool := true
  /-- The phases passed through, the latest first. -/
  phases : List Phase := []
  /-- The calls made in the current step. -/
  calls : List (Engine.Call Engine.Entry) := []
  /-- Saved contexts by name. -/
  backups : Table Context := []
  /-- The moments so far, the latest first. -/
  history : List Engine.Moment := []

namespace Engine

/-- The current phase. -/
def phase (engine : Engine) : Phase := engine.phases.headD .idle

/-- Passes to another phase. -/
def enter (engine : Engine) (phase : Phase) : Engine :=
  { engine with phases := phase :: engine.phases }

/-- Sends a message. -/
def send (engine : Engine) (message : Message) : Engine :=
  { engine with sent := message :: engine.sent }

/-- Sends messages in order. -/
def sendAll (engine : Engine) (messages : List Message) : Engine :=
  messages.foldl send engine

/-- The message that tells where the user is. -/
def location (engine : Engine) : Message :=
  .screenChanged engine.context.current.flow engine.context.current.screen

/-- What can be seen now. -/
def snapshot (engine : Engine) : Snapshot :=
  { context := engine.context, kept := engine.library.kept.keys, phase := engine.phase,
    sent := engine.sent, backups := engine.backups }

/-- Adds a moment to the history. -/
def mark (engine : Engine) (happening : Happening) : Engine :=
  { engine with history := ⟨happening, engine.snapshot⟩ :: engine.history }

/-- Notes a call of a collaborator. -/
def note (engine : Engine) (call : Call Entry) : Engine :=
  { engine with calls := engine.calls ++ [call] }

/-- Loads a flow. -/
def load (engine : Engine) (flow : String) : Except Fault Flow × Engine :=
  let engine := engine.mark (.loading flow)
  let (result, library) := engine.library.load flow
  (result, { engine with library })

/-- The messages that were not yet observed, in the order of sending. -/
def unobserved (engine : Engine) : List Message :=
  (engine.sent.take (engine.sent.length - engine.observed)).reverse

/-- Observes the engine after a step. -/
def observe (engine : Engine) (answer : Option Answer) : Entry × Engine :=
  let messages := if engine.listening then some engine.unobserved else none
  (.mk answer messages engine.library.reads engine.calls engine.snapshot,
    { engine with
      observed := engine.sent.length
      library := { engine.library with reads := [] } })

end Engine

end Storyboard
