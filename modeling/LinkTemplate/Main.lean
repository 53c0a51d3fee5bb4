import LinkTemplate.CommandLine.Run
import Std.Time.DateTime.Timestamp

/-!
# The program

The program reads what a command finds, runs it, and carries out its report. The settings file
is `config.json` in the directory that a variable of the environment names, or else in the
program's directory among the configuration files of the user. Clipboard tools are not reached
from here, and nothing is logged.
-/

namespace LinkTemplate

open CommandLine (Report)

/-- The directory of the settings file, if the environment tells one. -/
def settingsDirectory? : IO (Option String) := do
  let program := String.ofList CommandLine.programName
  if let some dir ← IO.getEnv (program.toUpper ++ "_CONFIG_DIR") then return some dir
  if let some dir ← IO.getEnv "XDG_CONFIG_HOME" then
    if dir.startsWith "/" then return some (dir ++ "/" ++ program)
  return (← IO.getEnv "HOME").map (· ++ "/.config/" ++ program)

/-- Where the settings file stands in its directory. -/
def settingsPath (dir : String) : String :=
  dir ++ "/config.json"

/-- What stands where the settings file belongs, and what to say if it is at fault. -/
def readSettingsFile (path : String) : IO (SettingsFile × Text) := do
  try
    return (.text (← IO.FS.readFile path).toList, "the text stands for no settings".toList)
  catch e =>
    match e with
    -- 20 is ENOTDIR : a file stands where the directory belongs.
    | .noFileOrDirectory .. | .inappropriateType _ 20 _ => return (.absent, [])
    -- A command reads before it writes, so that what cannot be read is not written over either.
    | _ => return (.directory, e.toString.toList)

/-- Whether a variable is set to something else than zero. -/
def isSwitchedOn (name : String) : IO (Option Bool) := do
  return (← IO.getEnv name).map (· != "0")

/-- Whether messages are shown in colours. -/
def showsColors : IO Bool := do
  if (← isSwitchedOn "CLICOLOR_FORCE") == some true then return true
  if (← isSwitchedOn "NO_COLOR").isSome then return false
  return (← (← IO.getStdout).isTty) && (← isSwitchedOn "CLICOLOR").getD true

/-- The present time, in UTC. -/
def now : IO Instant := do
  let nanos := (← Std.Time.Timestamp.now).toNanosecondsSinceUnixEpoch.toInt
  let perSecond : Int := Instant.nanosPerSecond
  return (Instant.of? (nanos / perSecond) (nanos % perSecond).toNat 0).getD Instant.epoch

/-- Stores the settings file of a report in a directory, where it has changed. -/
def storeSettingsFile (dir : String) (old new : SettingsFile) : IO Unit := do
  match new with
  | .text t =>
    if new ≠ old then
      IO.FS.createDirAll dir
      IO.FS.writeFile (settingsPath dir) (String.ofList t)
  | _ => return

/-- Prints the outputs of a report and gives its exit code. -/
def answer (report : Report) : IO UInt32 := do
  (← IO.getStdout).putStr (String.ofList report.output)
  (← IO.getStderr).putStr (String.ofList report.errorOutput)
  return report.exitCode.toUInt32

end LinkTemplate

open LinkTemplate in
/-- Runs the command that the arguments name. -/
def main (arguments : List String) : IO UInt32 := do
  let dir? ← settingsDirectory?
  let (file, fileReason) ← match dir? with
    | some dir => readSettingsFile (settingsPath dir)
    | none => pure (.absent, [])
  let env : CommandLine.Environment := {
    settingsFile := file, located := dir?.isSome, fileReason, now := ← now,
    colors := ← showsColors }
  let words := arguments.map String.toList
  let report := CommandLine.runWords env words
  try
    if let some dir := dir? then storeSettingsFile dir file report.settingsFile
  catch e =>
    let unwritable := { env with writable := false, fileReason := e.toString.toList }
    return ← answer (CommandLine.runWords unwritable words)
  answer report
