import Storyboard.Navigation.Record
import Storyboard.Session
import Storyboard.Template.Scopes
/-!
# Context

What a running engine knows of the user: the session data, where the user is, and what
flows keep for themselves. Backups are copies of the whole context.
-/

namespace Storyboard

/-- Session data, location and flow states. -/
structure Context where
  session : Session := {}
  navigation : BackStack
  flowStates : FlowStates := []
deriving DecidableEq

namespace Context

/-- The context at the start, at a root frame. -/
def ofRoot (root : Frame) : Context := { navigation := .ofRoot root }

/-- The current frame. -/
def current (context : Context) : Frame := context.navigation.current

/-- The scopes that a template sees, with field values and what an action left. -/
def scopes (context : Context) (fields : Fields) (response error : Option Json) : Scopes :=
  { session := some context.session.data, fields := some fields, response, error }

/-- Merges an update into the session; also gives its keys. -/
def merge (context : Context) (update : Fields) : List String × Context :=
  let (keys, session) := context.session.merge update
  (keys, { context with session })

/-- Merges data into the session, if there is any, and puts a frame on top; also gives the
keys of the data. -/
def push (context : Context) (frame : Frame) (data : Option Fields) :
    List String × Context :=
  let (keys, context) := context.merge (data.getD [])
  (keys, { context with navigation := context.navigation.push frame })

/-- Shows another screen of the current flow. -/
def replaceScreen (context : Context) (screen : String) : Context :=
  { context with navigation := context.navigation.replaceScreen screen }

/-- Goes back up to so many frames; also gives the frames removed. With `clearData` the
session is emptied, and flows that are on the stack no more lose their state. -/
def goBack (context : Context) (steps : Nat) (clearData : Bool) : List Frame × Context :=
  let (removed, navigation) := context.navigation.goBack steps
  if clearData then
    (removed,
      { session := context.session.clear, navigation,
        flowStates := context.flowStates.restrict navigation.holdsFlow })
  else (removed, { context with navigation })

/-- Sets what a flow keeps for itself. -/
def setFlowState (context : Context) (flow : String) (state : Json) : Context :=
  { context with flowStates := context.flowStates.put flow state }

/-- Empties everything and starts again at a root frame. -/
def reset (context : Context) (root : Frame) : Context :=
  { session := context.session.clear, navigation := .ofRoot root, flowStates := [] }

end Context

end Storyboard
