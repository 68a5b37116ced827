import Storyboard.Toml.Reader
/-!
# Settings in a file

A file of settings is a TOML document with two sections, one on flows and one on the
network. Every setting is optional, and what the document holds beside them is ignored. A
section may also be an array of its settings in the order of their declaration.

Main definition: `SettingsFile.parse?`.
-/

namespace Storyboard

/-- The settings that a file gives. -/
structure SettingsFile where
  directory : Option String := none
  preload : Option (List String) := none
  /-- Paths by flow identifier. -/
  paths : Table String := []
  base : Option String := none
  timeout : Option Nat := none
  /-- Headers of every request. -/
  headers : Table String := []
deriving DecidableEq, Repr

namespace Toml.Value

/-- A text. -/
def text? : Value → Option String
  | text content => some content
  | _ => none

/-- An integer that is not negative. -/
def natural? : Value → Option Nat
  | integer value => if 0 ≤ value then some value.toNat else none
  | _ => none

/-- A list of texts. -/
def texts? : Value → Option (List String)
  | array items => items.mapM text?
  | _ => none

/-- The key under which a date or time passes for a table. -/
def momentKey : String := "$__toml_private_datetime"

/-- The members of a table; a date or time passes for a table with its text in it. -/
def members? : Value → Option Members
  | table _ members => some members
  | moment value => some [(momentKey, text value.text)]
  | _ => none

/-- A table of texts. -/
def textTable? (value : Value) : Option (Table String) := do
  (← value.members?).mapM fun member => (text? member.2).map (member.1, ·)

/-- What is written for each of the named settings of a section. -/
def section? (names : List String) : Value → Option (List (Option Value))
  | array items => some ((List.range names.length).map fun i => items[i]?)
  | tables elements =>
    let items := elements.reverse.map (table .header ·)
    some ((List.range names.length).map fun i => items[i]?)
  | value => value.members?.map fun members => names.map members.get?

/-- A setting that may be absent. -/
def optional? (read : Value → Option α) : Option Value → Option (Option α)
  | none => some none
  | some value => (read value).map some

end Toml.Value

namespace SettingsFile

open Toml

/-- Reads the section on flows. -/
def readFlows? (file : SettingsFile) (value : Value) : Option SettingsFile := do
  match ← value.section? ["directory", "preload", "paths"] with
  | [directory, preload, paths] =>
    return { file with
      directory := ← Value.optional? Value.text? directory
      preload := ← Value.optional? Value.texts? preload
      paths := (← Value.optional? Value.textTable? paths).getD [] }
  | _ => none

/-- Reads the section on the network. -/
def readNetwork? (file : SettingsFile) (value : Value) : Option SettingsFile := do
  match ← value.section? ["base_url", "timeout_ms", "default_headers"] with
  | [base, timeout, headers] =>
    return { file with
      base := ← Value.optional? Value.text? base
      timeout := ← Value.optional? Value.natural? timeout
      headers := (← Value.optional? Value.textTable? headers).getD [] }
  | _ => none

/-- Reads a section, if it is there. -/
def readSection? (members : Members) (name : String)
    (read? : SettingsFile → Value → Option SettingsFile) (file : SettingsFile) :
    Option SettingsFile :=
  match members.get? name with
  | some value => read? file value
  | none => some file

/-- The settings in a document. -/
def ofMembers? (members : Members) : Option SettingsFile := do
  readSection? members "network" readNetwork? (← readSection? members "flows" readFlows? {})

/-- The settings in a text. -/
def parse? (text : String) : Option SettingsFile := (Toml.parse? text).bind ofMembers?

end SettingsFile

end Storyboard
