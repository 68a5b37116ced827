import Storyboard.Files
import Storyboard.Headless
/-!
# The command line

Runs the headless runner on the files of the working directory: events come in on standard
input, one per line, messages and screens go out on standard output, one per line each.
The settings file is `screenflow/engine.toml` in the user's directory of settings.

A step of the engine is taken with the texts at hand. If it read a path whose text was
not, that text is fetched, and the step is taken again from the start.
-/

namespace Storyboard

namespace Headless

/-- Texts by path, or why they cannot be read. -/
abbrev Texts := List (String × Except String String)

/-- Reads from the texts at hand. -/
def loaderOf (texts : Texts) : Loader := fun path =>
  (texts.lookup path).getD (.error Files.Obstacle.missing.message)

/-- The obstacle that an error in reading stands for. -/
def obstacleOf : IO.Error → Files.Obstacle
  | .noFileOrDirectory .. => .missing
  | .inappropriateType .. => .throughFile
  | _ => .directory

/-- Fetches a text. -/
def fetch (path : String) : IO (Except String String) := do
  try
    match String.fromUTF8? (← IO.FS.readBinFile path) with
    | some text => return .ok text
    | none => return .error Files.Obstacle.undecodable.message
  catch error => return .error (obstacleOf error).message

/-- Takes a step again and again, until all that it reads is at hand. -/
partial def settle (texts : Texts) (step : Loader → α × List String) : IO α := do
  let (result, reads) := step (loaderOf texts)
  match reads.filter fun path => (texts.lookup path).isNone with
  | [] => return result
  | missing =>
    let fetched ← missing.mapM fun path => return (path, ← fetch path)
    settle (fetched ++ texts) step

/-- Takes a step of a running engine with what is at hand. -/
def settleStep (engine : Engine) (step : Engine → α × Engine) : IO (α × Engine) :=
  settle [] fun loader =>
    let library := { engine.library with loader, reads := [] }
    let (result, engine) := step { engine with library }
    ((result, engine), engine.library.reads)

/-- Shows the messages not shown yet, and screens. -/
def display (screens : List Engine.Screen) (engine : Engine) : IO Engine := do
  let output ← IO.getStdout
  for message in engine.unobserved do
    output.putStrLn message.toJson.compact
  for screen in screens do
    output.putStrLn screen.toJson.compact
  output.flush
  return { engine with observed := engine.sent.length }

/-- Takes lines up to the end of the input. -/
partial def loop (engine : Engine) : IO Unit := do
  let line ← (← IO.getStdin).getLine
  if line.isEmpty then return
  let (screens, engine) ← settleStep engine (takeLines (Text.lines line))
  loop (← display screens engine)

/-- The environment as far as it has a meaning. -/
def environment : IO Environment := do
  let table ← Environment.names.filterMapM fun name => do
    return (← IO.getEnv name).map (name, ·)
  return .ofTable table

/-- The path of the settings file. -/
def settingsPath? : IO (Option String) := do
  let directory? :=
    match ← IO.getEnv "XDG_CONFIG_HOME" with
    | some directory => if directory.startsWith "/" then some directory else none
    | none => none
  let home? := (← IO.getEnv "HOME").map (· ++ "/.config")
  return (directory? <|> home?).map (· ++ "/screenflow/engine.toml")

/-- The settings in effect. -/
def readSettings : IO (Except Settings.Fault Settings) := do
  let environment ← environment
  match ← settingsPath? with
  | none => return Settings.load none environment
  | some path =>
    match ← fetch path with
    | .ok text => return settings (some text) environment
    | .error message =>
      if message = Files.Obstacle.missing.message then return Settings.load none environment
      else return .error .unreadable

/-- Reports a failure. -/
def fail (failure : Failure) : IO UInt32 := do
  (← IO.getStderr).putStrLn ("Error: " ++ failure.message)
  return 1

/-- Starts at an entry flow and takes the input. -/
def serve (settings : Settings) (entry : String) : IO UInt32 := do
  let started ← settle [] fun loader =>
    let start := startAt settings loader entry
    (start.result, start.library.reads)
  match started with
  | .error fault => fail (.start fault)
  | .ok engine =>
    let (screens, engine) ← settleStep engine opening
    loop (← display screens engine)
    return 0

end Headless

end Storyboard

/-- Runs the headless runner. -/
def main (arguments : List String) : IO UInt32 := do
  match arguments with
  | [] => Storyboard.Headless.fail .noEntry
  | entry :: _ =>
    match ← Storyboard.Headless.readSettings with
    | .error fault => Storyboard.Headless.fail (.settings fault)
    | .ok settings => Storyboard.Headless.serve settings entry
