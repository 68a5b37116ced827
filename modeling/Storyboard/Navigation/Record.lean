import Storyboard.Json.Record
import Storyboard.Navigation
/-!
# Frames and flow states as records
-/

namespace Storyboard

/-- What flows keep for themselves, by flow. -/
abbrev FlowStates := Table Json

namespace Frame

/-- A frame as an object. -/
def toJson (frame : Frame) : Json :=
  .obj [("flowId", .str frame.flow), ("screenId", .str frame.screen)]

/-- A frame as written. -/
def ofWritten? (written : Written) : Option Frame := do
  match ← written.record? ["flowId", "screenId"] with
  | [some flow, some screen] => return ⟨← flow.text?, ← screen.text?⟩
  | _ => none

end Frame

/-- A back stack as an object, the root first. -/
def BackStack.toJson (stack : BackStack) : Json :=
  .obj [("frames", .arr (stack.frames.map Frame.toJson))]

namespace FlowStates

/-- Flow states as an object. -/
def toJson (states : FlowStates) : Json := .obj [("states", .obj states)]

/-- Flow states as written. -/
def ofWritten? (written : Written) : Option FlowStates := do
  match ← written.record? ["states"] with
  | [some states] => states.table?
  | _ => none

end FlowStates

end Storyboard
