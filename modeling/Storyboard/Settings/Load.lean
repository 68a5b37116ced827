import Storyboard.Http.Address
import Storyboard.Settings.Basic
import Storyboard.Settings.File
import Storyboard.Text.Blank
import Storyboard.Text.Lines
/-!
# Settings in effect

Each setting is the environment's if its variable is set, else the file's if given, else
the default. Paths of flows and headers come from the file alone. A timeout in the
environment that is no number is as good as none. What results has to have a timeout
other than zero, and an absolute base address if any.

Main definition: `Settings.load`.
-/

namespace Storyboard

/-- The variables of the environment. -/
abbrev Environment := String → Option String

namespace Environment

/-- The names of the variables that have a meaning here. -/
def names : List String :=
  ["SCREENFLOW_FLOW_DIR", "SCREENFLOW_PRELOAD", "SCREENFLOW_BASE_URL", "SCREENFLOW_TIMEOUT_MS"]

/-- The environment of a table of variables. -/
def ofTable (table : Table String) : Environment := table.get?

/-- The directory of the flows. -/
def directory? (environment : Environment) : Option String := environment "SCREENFLOW_FLOW_DIR"

/-- The identifiers that a text lists with commas between them, blanks around them or
not. Nothing between two commas is no identifier. -/
def identifiers (text : String) : List String :=
  ((Text.splitAt ',' text).map Text.trim).filter (· != "")

/-- The flows to load ahead. -/
def preload? (environment : Environment) : Option (List String) :=
  (environment "SCREENFLOW_PRELOAD").map identifiers

/-- The address that endpoints are put behind. -/
def base? (environment : Environment) : Option String := environment "SCREENFLOW_BASE_URL"

/-- The timeout in milliseconds. -/
def timeout? (environment : Environment) : Option Nat :=
  (environment "SCREENFLOW_TIMEOUT_MS").bind Text.natural?

/-- Whether any variable takes effect. -/
def hasEffect (environment : Environment) : Bool :=
  environment.directory?.isSome || environment.preload?.isSome || environment.base?.isSome ||
    environment.timeout?.isSome

end Environment

namespace Settings

/-- The settings of a file over the defaults. -/
def ofFile (file : SettingsFile) : Settings :=
  { flows :=
      { directory := file.directory.getD ({} : FlowSettings).directory
        preload := file.preload.getD []
        paths := file.paths }
    network :=
      { base := file.base
        timeout := file.timeout.getD ({} : NetworkSettings).timeout
        headers := file.headers }
    hasFile := true
    origin := .file }

/-- The settings of the environment over others. -/
def withEnvironment (settings : Settings) (environment : Environment) : Settings :=
  { settings with
    flows := { settings.flows with
      directory := environment.directory?.getD settings.flows.directory
      preload := environment.preload?.getD settings.flows.preload }
    network := { settings.network with
      base := environment.base? <|> settings.network.base
      timeout := environment.timeout?.getD settings.network.timeout }
    origin := if environment.hasEffect then .environment else settings.origin }

/-- Why the settings cannot be used, if so. -/
def fault? (settings : Settings) : Option Fault :=
  if settings.network.timeout = 0 then some .noTimeout
  else
    match settings.network.base with
    | some base => if Http.isAbsolute base then none else some (.relativeBase base)
    | none => none

/-- The settings in effect, from a file if there is one, and the environment. -/
def load (file : Option SettingsFile) (environment : Environment) : Except Fault Settings :=
  let settings := ((file.map ofFile).getD {}).withEnvironment environment
  match settings.fault? with
  | some fault => .error fault
  | none => .ok settings

/-- The settings of a text, if it has the right form. -/
def readText (text : String) : Except Fault SettingsFile :=
  match SettingsFile.parse? text with
  | some file => .ok file
  | none => .error .malformed

/-- The settings of the bytes of a file. -/
def readBytes (bytes : ByteArray) : Except Fault SettingsFile :=
  match String.fromUTF8? bytes with
  | some text => readText text
  | none => .error .unreadable

end Settings

end Storyboard
