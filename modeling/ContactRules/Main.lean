/-
This file is the command line of the service. It takes the path of the settings, and writes the
webhooks that are to be called to its output, one in a line.
-/

import ContactRules.Service
import Std.Time.DateTime.Timestamp

namespace ContactRules.Main

open ContactRules.Calendar
open ContactRules.Json

def defaultPath : String := "automation.yaml"

/-- This is the value of bytes, the most significant first. -/
def bits (bytes : ByteArray) : Nat :=
  bytes.toList.foldl (fun total byte => total * 256 + byte.toNat) 0

def now : IO Instant := do
  let elapsed := (← Std.Time.Timestamp.now).toNanosecondsSinceUnixEpoch.val
  match Instant.ofNanoseconds? elapsed with
  | some instant => return instant
  | none => throw (IO.userError "the clock is out of range")

/-- This is a random identifier of the fourth version. -/
def newId : IO Uuid := do
  let random := BitVec.ofNat 128 (bits (← IO.getRandomBytes 16))
  let fixed : BitVec 128 := 0x0000000000004000_8000000000000000
  let free : BitVec 128 := 0xffffffffffff0fff_3fffffffffffffff
  return ⟨random &&& free ||| fixed⟩

/-- A label starts with the milliseconds since 1970. The rest is random. -/
def newStamp : IO Stamp := do
  let instant ← now
  let milliseconds := Instant.nanosecondsUntil Instant.epoch instant / 1000000
  let random := bits (← IO.getRandomBytes 10)
  return ⟨⟨BitVec.ofNat 128 ((milliseconds.toNat <<< 80) + random)⟩, instant⟩

/-- This reads one file. A file that cannot be read is not there. -/
def readFiles (path : String) : IO Files := do
  let content ←
    try
      let content ← IO.FS.readFile path
      pure (some content)
    catch _ => pure none
  return fun wanted => if wanted = path then content else none

/-- This ends the program when there is an error. -/
def orStop {ε α : Type} (message : ε → String) : Except ε α → IO α
  | .ok value => return value
  | .error error => throw (IO.userError (message error))

/-- Settings that nobody has named may be missing. -/
def loadSettings (named : Option String) : IO Settings := do
  let path := named.getD defaultPath
  let files ← readFiles path
  if named.isNone && (files path).isNone then return Settings.default
  else orStop SettingsError.message (Settings.load files path)

def log (fields : List (String × Value)) : IO Unit := do
  (← IO.getStderr).putStrLn (Value.object fields).line

def loadRules (path : String) : IO Service := do
  let definitions ← orStop SettingsError.message (RuleDefinition.loadAll (← readFiles path) path)
  let start ← now
  let mut service := Service.empty
  for definition in definitions do
    let built := definition.build (← newId) (← newStamp) start
    let (events, next) ← orStop EngineError.message
      (service.add (← orStop DefinitionError.message built))
    for event in events do
      log event.encode.entries
    service := next
  return service

def send (service : Service) : IO Service := do
  let (requests, rest) := service.collect
  let output ← IO.getStdout
  for request in requests do
    output.putStrLn (Call.sendWebhook request).encode.line
  output.flush
  return rest

/-- Actions that wait are looked at every second, and rules once in an interval. -/
partial def run (interval : Nat) (elapsed : Nat) (service : Service) : IO Unit := do
  let instant ← now
  let mut current := service.wake instant
  if elapsed % interval = 0 then
    let (outcomes, next) := current.tick instant
    for outcome in outcomes do
      log outcome.encode
    current := next
  current ← send current
  IO.sleep 1000
  run interval (elapsed + 1) current

def start (arguments : List String) : IO Unit := do
  let settings ← loadSettings arguments.head?
  let service ←
    match settings.rulesFile with
    | some path => loadRules path
    | none => pure Service.empty
  run settings.scheduler.tickSeconds.toNat 0 service

end ContactRules.Main

/-- The program runs until it is stopped from outside. -/
def main (arguments : List String) : IO UInt32 := do
  try
    ContactRules.Main.start arguments
    return 0
  catch error =>
    (← IO.getStderr).putStrLn ("Error: " ++ toString error)
    return 1
