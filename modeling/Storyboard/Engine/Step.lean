import Storyboard.Action.Reader
import Storyboard.Engine.Run
import Storyboard.Event
/-!
# Driving an engine

Starting an engine, and the steps that the renderer and the host take on it. A step may
be taken while another is under way, by a collaborator that the latter waits for; such
steps are nested down to a given depth, below which collaborators take none.

Main definitions: `Engine.start`, `Engine.take` and `Engine.runToDepth`.
-/

namespace Storyboard

namespace Engine

/-- The diagnostic on a flow that could not be loaded ahead. -/
def preloadDiagnostic (failure : String × Fault) : Message :=
  .diagnostic .warning ("preload of \"" ++ failure.1 ++ "\" failed: " ++ failure.2.message)

/-- What a start comes to, and what it leaves even if it fails. -/
structure Start where
  result : Except Fault Engine
  library : Library
  /-- The messages sent, the latest first. -/
  sent : List Message

/-- Starts an engine at the first screen of a flow, and loads other flows ahead. Fails if
that flow cannot be loaded. The messages of the start follow those that were sent before. -/
def startWith (loadAhead : Library → Library.Preload × Library) (sent : List Message)
    (library : Library) (entry : String) : Start :=
  match library.load entry with
  | (.error fault, library) => { result := .error fault, library, sent }
  | (.ok flow, library) =>
    match flow.initialScreen? with
    | none =>
      { result := .error (.malformed (Flow.subject entry) "screens" "is empty"), library, sent }
    | some screen =>
      let root : Frame := ⟨entry, screen⟩
      let (report, library) := loadAhead library
      let engine : Engine := { root, context := .ofRoot root, library, sent }
      let engine := engine.sendAll (report.failed.map preloadDiagnostic)
      let engine := (engine.send engine.location).mark .started
      { result := .ok engine, library, sent := engine.sent }

/-- Starts an engine, with no messages sent before; also gives the library as the start left
it. -/
def start (library : Library) (ahead : List String) (entry : String) :
    Except Fault Engine × Library :=
  let start := startWith (·.preload ahead) [] library entry
  (start.result, start.library)

/-- Reads a trigger and runs it. A malformed one is reported, and nothing of it runs. -/
def dispatch (runSteps : Runner) (action : Json) (fields : Fields) (engine : Engine) :
    Outcome × Engine :=
  match Trigger.ofJson action with
  | .error fault => (.error fault, engine.send (.diagnostic .error fault.message))
  | .ok trigger =>
    let (run, engine) := engine.run runSteps trigger fields
    (run.outcome, engine)

/-- The action of the back button. -/
def backAction : Trigger := .single (.mk (.goBack 1 false) none none)

/-- Logs the user out: the session and the flow states are emptied, and the user is back
at the root. The library and the handlers stay. -/
def logout (engine : Engine) : Engine :=
  let engine := { engine with context := engine.context.reset engine.root }
  (engine.send .sessionCleared).send engine.location

/-- Takes an event of the renderer. -/
def handle (runSteps : Runner) (event : Event) (engine : Engine) :
    Except Fault Unit × Engine :=
  match event with
  | .actionTriggered action fields =>
    let (outcome, engine) := engine.dispatch runSteps action fields
    (outcome.map fun _ => (), engine)
  | .backPressed =>
    let (run, engine) := engine.run runSteps backAction []
    (run.outcome.map fun _ => (), engine)
  | .flowStateChanged flow state =>
    (.ok (), { engine with context := engine.context.setFlowState flow state })
  | .logoutRequested => (.ok (), engine.logout)

/-- The current screen, resolved against the session and field values. Its actions stay
unresolved until they run. -/
def currentScreen (engine : Engine) (fields : Fields) : Except Fault Screen × Engine :=
  let frame := engine.context.current
  match engine.load frame.flow with
  | (.error fault, engine) => (.error fault, engine)
  | (.ok flow, engine) =>
    match flow.screen? frame.screen with
    | none => (.error (.unknownScreen frame.flow frame.screen), engine)
    | some screen =>
      (.ok ⟨frame.flow, frame.screen,
        screen.resolveScreen (engine.context.scopes fields none none)⟩, engine)

/-- Writes a session value. -/
def setValue (engine : Engine) (key : String) (value : Json) : Engine :=
  let session := engine.context.session.set key value
  { engine with context := { engine.context with session } }.send (.sessionUpdated [key])

/-- Drops a session value; also tells whether there was one. -/
def dropValue (engine : Engine) (key : String) : Bool × Engine :=
  match engine.context.session.remove key with
  | (some _, session) =>
    (true,
      { engine with context := { engine.context with session } }.send (.sessionUpdated [key]))
  | (none, _) => (false, engine)

/-- Puts a saved context in place of the current one. -/
def restore (engine : Engine) (backup : Context) : Engine :=
  let engine := { engine with context := backup }
  (engine.send (.sessionUpdated backup.session.data.keys)).send engine.location

/-- Answers a request to the registry of handlers. -/
def askRegistry (runSteps : Runner) (request : Registry.Request Step) (engine : Engine) :
    Registry.Answer × Engine :=
  match request with
  | .register name handler =>
    (.done, { engine with registry := engine.registry.put name handler })
  | .unregister name =>
    (.flag (engine.registry.contains name),
      { engine with registry := engine.registry.erase name })
  | .clear => (.done, { engine with registry := [] })
  | .isRegistered name => (.flag (engine.registry.contains name), engine)
  | .names => (.names engine.registry.keys, engine)
  | .execute name params =>
    let (outcome, engine) := engine.callHandler runSteps name params
    (.outcome outcome, engine)

/-- Takes a step. -/
def take (runSteps : Runner) (step : Step) (engine : Engine) : Answer × Engine :=
  match step with
  | .event value =>
    match Event.ofJson? value with
    | none => (.noEvent, engine)
    | some event =>
      let (result, engine) := engine.handle runSteps event
      (.handled result, engine)
  | .dispatch action fields =>
    let (outcome, engine) := engine.dispatch runSteps action fields
    (.outcome outcome, engine)
  | .screen fields =>
    let (result, engine) := engine.currentScreen fields
    (.screen result, engine)
  | .set key value => (.done, engine.setValue key value)
  | .drop key =>
    let (dropped, engine) := engine.dropValue key
    (.flag dropped, engine)
  | .value key => (.found (engine.context.session.get? key), engine)
  | .flowState flow => (.found (engine.context.flowStates.get? flow), engine)
  | .logout => (.done, engine.logout)
  | .backup name =>
    (.saved engine.context.current engine.context.session.data,
      { engine with backups := engine.backups.put name engine.context })
  | .restore name =>
    match engine.backups.get? name with
    | none => (.noBackup, engine)
    | some backup => (.done, engine.restore backup)
  | .resolve template fields =>
    (.text (Template.resolve template (engine.context.scopes fields none none)), engine)
  | .resolveValue value fields response error =>
    (.value (value.resolve (engine.context.scopes fields response error)), engine)
  | .setReplies endpoint replies =>
    (.done, { engine with replies := engine.replies.put endpoint replies })
  | .close => (.done, { engine with listening := false })
  | .library request =>
    let (answer, library) := request.run engine.library
    (.library answer, { engine with library })
  | .registry request =>
    let (answer, engine) := engine.askRegistry runSteps request
    (.registry answer, engine)
  | .unknown => (.unknown, engine)

/-- Takes a step and observes the engine after it. The calls made so far belong to the
step around it and are set aside. -/
def takeObserved (runSteps : Runner) (step : Step) (engine : Engine) : Entry × Engine :=
  let outer := engine.calls
  let (answer, engine) := take runSteps step { engine.mark (.asked step) with calls := [] }
  let (entry, engine) := engine.observe (some answer)
  (entry, { engine with calls := outer }.mark (.answered step answer))

/-- Takes steps in order. -/
def runAll (runSteps : Runner) : List Step → Engine → List Entry × Engine
  | [], engine => ([], engine)
  | step :: rest, engine =>
    let (entry, engine) := takeObserved runSteps step engine
    let (entries, engine) := runAll runSteps rest engine
    (entry :: entries, engine)

/-- Takes steps in order, collaborators taking theirs down to a depth. -/
def runToDepth : Nat → Runner
  | 0 => fun _ engine => ([], engine)
  | depth + 1 => runAll (runToDepth depth)

end Engine

end Storyboard
