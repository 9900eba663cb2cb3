/-
This file reads settings and rules from files.
-/

import ContactRules.Settings.Basic
import ContactRules.Settings.Definition
import ContactRules.Settings.Path
import ContactRules.Yaml.Document

namespace ContactRules

open ContactRules.Wire

/-- These are the contents of the files that can be read, by their paths. -/
abbrev Files := String → Option String

namespace Files

def read (files : Files) (path : String) : Except SettingsError String :=
  match files path with
  | some content => .ok content
  | none => .error (.unreadable path)

/-- These files are held in memory, each under its path from one directory. -/
def ofList (entries : List (String × String)) : Files := fun path =>
  let held := entries.filterMap fun entry => (Path.steps? entry.1).map fun steps => (steps, entry.2)
  let isDirectory (place : List (List Char)) : Bool :=
    held.any fun entry => place.isPrefixOf entry.1 && place.length < entry.1.length
  if Path.isAbsolute path then none
  else
    match (Path.steps? path).bind (Path.walk? isDirectory []) with
    | some place => (held.find? fun entry => entry.1 = place).map Prod.snd
    | none => none

end Files

namespace Settings

/-- A blank text stands for the default settings. -/
def ofYaml (content source : String) : Except SettingsError Settings := do
  let settings ←
    if Text.blank content then .ok Settings.default
    else
      match Yaml.Document.decode? decoder content with
      | some settings => .ok settings
      | none => .error (.malformed source)
  settings.validate
  return settings

/-- The rules file is named as seen from the directory of the settings. -/
def locate (settings : Settings) (path : String) : Settings :=
  { settings with rulesFile := settings.rulesFile.map (Path.join (Path.parent path)) }

def load (files : Files) (path : String) : Except SettingsError Settings := do
  let content ← files.read path
  let settings ← ofYaml content path
  return settings.locate path

end Settings

namespace RuleDefinition

/-- A blank file holds no rules. -/
def loadAll (files : Files) (path : String) : Except SettingsError (List RuleDefinition) := do
  let content ← files.read path
  if Text.blank content then return []
  else
    match Yaml.Document.decode? (Decoder.list decoder) content with
    | some definitions => .ok definitions
    | none => .error (.malformed path)

end RuleDefinition

end ContactRules
