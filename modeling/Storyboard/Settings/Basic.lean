import Storyboard.Flow.Sources
/-!
# Settings

What an engine can be set up with: where flows are stored and which of them are loaded
ahead, and how the network client works. A setting comes from the environment, from a
file, or is the default.
-/

namespace Storyboard

/-- Where flows are stored. -/
structure FlowSettings where
  directory : String := "flows"
  /-- The flows to load ahead. -/
  preload : List String := []
  /-- Paths by flow identifier. -/
  paths : Table String := []
deriving DecidableEq, Repr

/-- How the network client works. -/
structure NetworkSettings where
  /-- The address that endpoints are put behind. -/
  base : Option String := none
  /-- The longest wait for a response, in milliseconds. -/
  timeout : Nat := 30000
  /-- Headers of every request. -/
  headers : Table String := []
deriving DecidableEq, Repr

/-- The sources of flows that the settings describe. -/
def FlowSettings.sources (settings : FlowSettings) : Sources :=
  { directory := settings.directory, explicit := settings.paths }

namespace Settings

/-- Where settings come from. -/
inductive Origin where
  /-- A variable of the environment took effect. -/
  | environment
  | file
  | default
deriving DecidableEq, Repr

namespace Origin

/-- The description of an origin. -/
def text : Origin → String
  | environment => "environment"
  | file => "config file"
  | default => "default"

/-- The name of an origin. -/
def name : Origin → String
  | environment => "Env"
  | file => "File"
  | default => "Default"

/-- The origin of a name. -/
def ofName? (name : String) : Option Origin :=
  if name = "Env" then some environment
  else if name = "File" then some file
  else if name = "Default" then some default
  else none

theorem ofName?_name (origin : Origin) : ofName? origin.name = some origin := by
  cases origin <;> decide +kernel

end Origin

/-- Why settings are refused. -/
inductive Fault where
  /-- The file cannot be read. -/
  | unreadable
  /-- The file is no TOML document or has a value of a wrong kind. -/
  | malformed
  /-- No response could arrive in time. -/
  | noTimeout
  /-- The base address is not absolute. -/
  | relativeBase (base : String)
deriving DecidableEq, Repr

namespace Fault

/-- The description of a fault. -/
def message : Fault → String
  | unreadable => "Failed to read config file"
  | malformed => "Failed to parse TOML config"
  | noTimeout => "Invalid configuration: network.timeout_ms must be greater than 0"
  | relativeBase base =>
    "Invalid configuration: network.base_url must start with http:// or https://, got " ++ base

end Fault

end Settings

/-- The settings in effect. -/
structure Settings where
  flows : FlowSettings := {}
  network : NetworkSettings := {}
  /-- Whether a file was read. -/
  hasFile : Bool := false
  origin : Settings.Origin := .default
deriving DecidableEq, Repr

end Storyboard
