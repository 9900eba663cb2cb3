/-
This file defines the settings of the service.
-/

import ContactRules.Json.Printer
import ContactRules.Text.Blank
import ContactRules.Wire.Record

namespace ContactRules

open ContactRules.Json
open ContactRules.Wire

/-- The rules of one trigger may be run at the same time, or one after the other. -/
structure EngineSettings where
  parallelRules : Bool
deriving DecidableEq

namespace EngineSettings

def default : EngineSettings := ⟨false⟩

def decoder : Decoder EngineSettings :=
  (EngineSettings.mk <$> Record.defaulted "parallel_rules" Decoder.bool default.parallelRules).decoder
    "EngineConfig"

def encode (settings : EngineSettings) : Value :=
  .object [("parallel_rules", .bool settings.parallelRules)]

end EngineSettings

/-- Scheduled rules are asked once in so many seconds. -/
structure TickSettings where
  tickSeconds : UInt64
deriving DecidableEq

namespace TickSettings

def default : TickSettings := ⟨30⟩

def decoder : Decoder TickSettings :=
  (TickSettings.mk <$>
      Record.defaulted "tick_interval_secs" Decoder.word64 default.tickSeconds).decoder
    "SchedulerConfig"

def encode (settings : TickSettings) : Value :=
  .object [("tick_interval_secs", Value.ofNat settings.tickSeconds.toNat)]

end TickSettings

/-- A filter says what is written to the log. -/
structure LogSettings where
  filter : String
deriving DecidableEq

namespace LogSettings

def default : LogSettings := ⟨"info"⟩

def decoder : Decoder LogSettings :=
  (LogSettings.mk <$> Record.defaulted "filter" Decoder.text default.filter).decoder
    "LoggingConfig"

def encode (settings : LogSettings) : Value :=
  .object [("filter", .text settings.filter)]

end LogSettings

/-- The settings may name a file of scheduled rules. -/
structure Settings where
  engine : EngineSettings
  scheduler : TickSettings
  logging : LogSettings
  rulesFile : Option String
deriving DecidableEq

/-- The reasons why there are no settings. -/
inductive SettingsError where
  | unreadable (path : String)
  | malformed (path : String)
  | tickOutOfRange (seconds : Nat)
  | blankFilter
deriving DecidableEq

namespace SettingsError

/-- This is the key of a value that is refused. -/
def key? : SettingsError → Option String
  | unreadable _ => none
  | malformed _ => none
  | tickOutOfRange _ => some "scheduler.tick_interval_secs"
  | blankFilter => some "logging.filter"

/-- This is the path of a file that is refused. -/
def path? : SettingsError → Option String
  | unreadable path => some path
  | malformed path => some path
  | tickOutOfRange _ => none
  | blankFilter => none

/-- This is the short name of an error, for programs. -/
def code : SettingsError → String
  | unreadable _ => "read_file"
  | malformed _ => "parse_yaml"
  | tickOutOfRange _ => "invalid_value"
  | blankFilter => "invalid_value"

def invalidValue (key reason : String) : String :=
  "invalid configuration value for '" ++ key ++ "': " ++ reason

def message : SettingsError → String
  | unreadable path => "failed to read file " ++ path
  | malformed path => "failed to parse YAML in " ++ path
  | tickOutOfRange seconds =>
      invalidValue "scheduler.tick_interval_secs"
        ("must be between 1 and 60 seconds, got " ++ toString seconds)
  | blankFilter => invalidValue "logging.filter" "must not be empty"

end SettingsError

namespace Settings

def default : Settings :=
  ⟨EngineSettings.default, TickSettings.default, LogSettings.default, none⟩

def record : Record Settings :=
  Settings.mk <$> Record.defaulted "engine" EngineSettings.decoder EngineSettings.default
    <*> Record.defaulted "scheduler" TickSettings.decoder TickSettings.default
    <*> Record.defaulted "logging" LogSettings.decoder LogSettings.default
    <*> Record.omissible "rules_file" (Decoder.textOf "path string")

def decoder : Decoder Settings := record.decoder "AppConfig"

def encode (settings : Settings) : Value :=
  .object ([("engine", settings.engine.encode), ("scheduler", settings.scheduler.encode),
      ("logging", settings.logging.encode)] ++
    optionalField "rules_file" Value.text settings.rulesFile)

/-- Between two ticks there may be a second at least and a minute at most, because a schedule fires for
a minute. -/
def validate (settings : Settings) : Except SettingsError Unit :=
  let seconds := settings.scheduler.tickSeconds.toNat
  if seconds < 1 ∨ 60 < seconds then .error (.tickOutOfRange seconds)
  else if Text.blank settings.logging.filter then .error .blankFilter
  else .ok ()

end Settings

end ContactRules
