import Storyboard.Engine.Step
import Storyboard.Settings.Load
/-!
# The headless runner

The runner drives an engine without a renderer. It shows the current screen of the entry
flow, then takes the lines of its input one after another: a line that describes an event
is handled, and the current screen is shown again, with the field values of the event.
Any other line changes nothing and shows nothing. Beside the screens stand the messages of
the engine. No network is at hand, so every request of an action is refused.

Main definitions: `Headless.takeLine` takes one line, `Headless.drive` a whole input, and
`Headless.run` is the runner from its arguments on.
-/

namespace Storyboard

namespace Headless

/-- Why the runner shows nothing. -/
inductive Failure where
  /-- No entry flow is named. -/
  | noEntry
  | settings (fault : Settings.Fault)
  /-- The entry flow cannot be loaded. -/
  | start (fault : Fault)
deriving DecidableEq

namespace Failure

/-- The description of a failure. -/
def message : Failure → String
  | noEntry => "usage: screenflow-headless <entry-flow>"
  | settings fault => fault.message
  | start fault => fault.message

/-- The first line of the description. -/
def headline (failure : Failure) : String := (Text.lines failure.message).headD ""

end Failure

/-- What the runner shows: screens and messages, each in their order. -/
structure Report where
  screens : List Engine.Screen := []
  messages : List Message := []
deriving DecidableEq

/-- The collaborators of the runner take no steps on the engine. -/
def alone : Engine.Runner := Engine.runToDepth 0

/-- The event that a line describes; none for a blank line. -/
def eventOf? (line : String) : Option Event :=
  if Text.isBlankText line then none else Event.parse? line

/-- Handles an event and shows the current screen, if it can be resolved. A failure of the
event does not matter. -/
def takeEvent (event : Event) (engine : Engine) : List Engine.Screen × Engine :=
  let (_, engine) := engine.handle alone event
  let (screen, engine) := engine.currentScreen event.fields
  (screen.toOption.toList, engine)

/-- Takes a line of input. -/
def takeLine (line : String) (engine : Engine) : List Engine.Screen × Engine :=
  match eventOf? line with
  | some event => takeEvent event engine
  | none => ([], engine)

/-- Takes lines in order. -/
def takeLines : List String → Engine → List Engine.Screen × Engine
  | [], engine => ([], engine)
  | line :: rest, engine =>
    let (shown, engine) := takeLine line engine
    let (following, engine) := takeLines rest engine
    (shown ++ following, engine)

/-- The first screen, before any input. -/
def opening (engine : Engine) : List Engine.Screen × Engine :=
  let (screen, engine) := engine.currentScreen []
  (screen.toOption.toList, engine)

/-- Drives an engine that was just started through an input. -/
def drive (input : String) (engine : Engine) : Report :=
  let (first, engine) := opening engine
  let (following, engine) := takeLines (Text.lines input) engine
  { screens := first ++ following, messages := engine.sent.reverse }

/-- The settings from the text of a file, if there is one, and the environment. -/
def settings (file : Option String) (environment : Environment) :
    Except Settings.Fault Settings := do
  Settings.load (← file.mapM Settings.readText) environment

/-- The library that the settings describe. -/
def libraryOf (settings : Settings) (loader : Loader) : Library :=
  { sources := settings.flows.sources, loader }

/-- Starts an engine with settings at an entry flow. -/
def startAt (settings : Settings) (loader : Loader) (entry : String) : Engine.Start :=
  Engine.startWith (·.preload settings.flows.preload) [] (libraryOf settings loader) entry

/-- Starts the engine that the arguments and the settings ask for. The first argument names
the entry flow. -/
def start (loader : Loader) (arguments : List String) (file : Option String)
    (environment : Environment) : Except Failure Engine :=
  match arguments with
  | [] => .error .noEntry
  | entry :: _ =>
    match settings file environment with
    | .error fault => .error (.settings fault)
    | .ok settings =>
      match (startAt settings loader entry).result with
      | .error fault => .error (.start fault)
      | .ok engine => .ok engine

/-- The runner: what it shows for an input. -/
def run (loader : Loader) (arguments : List String) (file : Option String)
    (environment : Environment) (input : String) : Except Failure Report :=
  (start loader arguments file environment).map (drive input)

end Headless

end Storyboard
