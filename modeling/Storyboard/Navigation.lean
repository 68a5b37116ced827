/-!
# Back stack

Where the user is and how to get back. The current frame is kept apart from those below
it, so a stack is never empty: the root can be replaced but not removed.
-/

namespace Storyboard

/-- A place to be: a screen of a flow. -/
structure Frame where
  flow : String
  screen : String
deriving DecidableEq, Repr

/-- A frame in one line. -/
def Frame.text (frame : Frame) : String :=
  frame.flow ++ "/" ++ frame.screen

/-- The current frame and those below it, the nearest first and the root last. -/
structure BackStack where
  current : Frame
  below : List Frame := []
deriving DecidableEq, Repr

namespace BackStack

/-- The stack that has only a root. -/
def ofRoot (root : Frame) : BackStack := ⟨root, []⟩

/-- Every frame, the current one first. -/
def fromTop (stack : BackStack) : List Frame := stack.current :: stack.below

/-- Every frame, the root first. -/
def frames (stack : BackStack) : List Frame := stack.fromTop.reverse

/-- The number of frames. -/
def depth (stack : BackStack) : Nat := stack.below.length + 1

/-- Whether there is a frame to go back to. -/
def canGoBack (stack : BackStack) : Bool := !stack.below.isEmpty

/-- Puts a frame on top. -/
def push (stack : BackStack) (frame : Frame) : BackStack :=
  ⟨frame, stack.fromTop⟩

/-- Removes the current frame, unless it is the root. -/
def pop (stack : BackStack) : Option Frame × BackStack :=
  match stack.below with
  | [] => (none, stack)
  | next :: rest => (some stack.current, ⟨next, rest⟩)

/-- Removes up to so many frames, never the root; also gives them, the latest first. -/
def goBack (stack : BackStack) (steps : Nat) : List Frame × BackStack :=
  let removed := min steps stack.below.length
  match stack.fromTop.drop removed with
  | current :: below => (stack.fromTop.take removed, ⟨current, below⟩)
  | [] => ([], stack)

/-- Shows another screen of the current flow in place of the current one. -/
def replaceScreen (stack : BackStack) (screen : String) : BackStack :=
  { stack with current := { stack.current with screen } }

/-- Whether some frame belongs to a flow. -/
def holdsFlow (stack : BackStack) (flow : String) : Bool :=
  stack.fromTop.any fun frame => frame.flow == flow

end BackStack

end Storyboard
