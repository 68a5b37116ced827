import Storyboard.Flow.Document
import Storyboard.Flow.Sources
/-!
# The flow library

Flows are read when they are first needed and kept from then on. A flow that is kept is
not read again, whatever became of its text; a flow that could not be read or is
malformed is not kept.

Main definitions: `Library.loadFrom` loads a flow, `Library.preload` a list of flows, and
`Library.Step.run` is one request to the library.
-/

namespace Storyboard

/-- Reads the text at a path, or says why it cannot. -/
abbrev Loader := String → Except String String

namespace Loader

/-- The loader over a table of texts. -/
def ofTable (texts : Table String) : Loader := fun path =>
  match texts.get? path with
  | some text => .ok text
  | none => .error ("no such asset: " ++ path)

/-- The loader with another text at one path, or with none there. -/
def put (loader : Loader) (path : String) (text : Option String) : Loader := fun other =>
  if other = path then
    match text with
    | some text => .ok text
    | none => .error ("no such asset: " ++ path)
  else loader other

end Loader

/-- Flows that were read, and where to read others. -/
structure Library where
  sources : Sources
  loader : Loader
  /-- The flows that are kept, by identifier. -/
  kept : Table Flow := []
  /-- The paths read, in order. -/
  reads : List String := []

namespace Library

/-- The flow of an identifier as its text at a path describes it. -/
def readFlow (loader : Loader) (id path : String) : Except Fault Flow :=
  match loader path with
  | .error message => .error (.unreadable path message)
  | .ok text =>
    match Flow.parse id text with
    | .error fault => .error fault
    | .ok flow =>
      if flow.id = id then .ok flow
      else .error (.malformed (Flow.subject id) "flowId" ("declares \"" ++ flow.id ++ "\""))

/-- A flow, read from a path unless it is kept. -/
def loadFrom (library : Library) (id path : String) : Except Fault Flow × Library :=
  match library.kept.get? id with
  | some flow => (.ok flow, library)
  | none =>
    let library := { library with reads := library.reads ++ [path] }
    match readFlow library.loader id path with
    | .ok flow => (.ok flow, { library with kept := library.kept.put id flow })
    | .error fault => (.error fault, library)

/-- A flow, read from where it is stored unless it is kept. -/
def load (library : Library) (id : String) : Except Fault Flow × Library :=
  library.loadFrom id (library.sources.pathFor id)

/-- The outcome of loading a list of flows. -/
structure Preload where
  loaded : List String := []
  failed : List (String × Fault) := []
deriving DecidableEq

/-- Whether every flow was loaded. -/
def Preload.isComplete (report : Preload) : Bool := report.failed.isEmpty

/-- Loads flows one after another; a failure does not stop the rest. -/
def preload (library : Library) : List String → Preload × Library
  | [] => ({}, library)
  | id :: rest =>
    let (result, library) := library.load id
    let (report, library) := library.preload rest
    match result with
    | .ok _ => ({ report with loaded := id :: report.loaded }, library)
    | .error fault => ({ report with failed := (id, fault) :: report.failed }, library)

/-- Forgets one flow, or all of them. -/
def evict (library : Library) : Option String → Library
  | some id => { library with kept := library.kept.erase id }
  | none => { library with kept := [] }

/-- How many flows are kept, and which. -/
structure Stats where
  count : Nat
  /-- The identifiers of the flows, in order. -/
  keys : List String
deriving DecidableEq

/-- The flows that are kept. -/
def stats (library : Library) : Stats :=
  { count := library.kept.length, keys := library.kept.keys }

/-- A request to the library. -/
inductive Step where
  | load (id : String)
  | loadFrom (id path : String)
  | preload (ids : List String)
  | get (id : String)
  | isKept (id : String)
  | evict (id : Option String)
  | pathOf (id : String)
  /-- The text at a path changes, or goes away. -/
  | putText (path : String) (text : Option String)

/-- The answer to a request. -/
inductive Answer where
  | done
  | loaded (result : Except Fault Flow)
  | preloaded (report : Preload)
  | found (flow : Option Flow)
  | flag (value : Bool)
  | location (path : String)

/-- Answers one request. -/
def Step.run (step : Step) (library : Library) : Answer × Library :=
  match step with
  | .load id =>
    let (result, library) := library.load id
    (.loaded result, library)
  | .loadFrom id path =>
    let (result, library) := library.loadFrom id path
    (.loaded result, library)
  | .preload ids =>
    let (report, library) := library.preload ids
    (.preloaded report, library)
  | .get id => (.found (library.kept.get? id), library)
  | .isKept id => (.flag (library.kept.contains id), library)
  | .evict id => (.done, library.evict id)
  | .pathOf id => (.location (library.sources.pathFor id), library)
  | .putText path text => (.done, { library with loader := library.loader.put path text })

end Library

end Storyboard
