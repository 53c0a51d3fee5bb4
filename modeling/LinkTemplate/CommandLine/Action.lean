import LinkTemplate.Calendar.Rfc3339
import LinkTemplate.Desktop
import LinkTemplate.Message
import LinkTemplate.Settings.File

/-!
# Actions of a command

A command prints, hands a text to a clipboard tool and stores settings, one after the other, and
may fail in between : what it has done by then stays done. An `Action` is such a piece of a
command; its state is the report of what has been done so far. The lines of the log and what a
clipboard tool prints of its own accord are no part of the report.
-/

namespace LinkTemplate.CommandLine

/-- What a command finds. -/
structure Environment where
  settingsFile : SettingsFile := .absent
  /-- Whether anything tells the directory of the settings file. -/
  located : Bool := true
  /-- Whether the settings file can be opened for writing. -/
  writable : Bool := true
  /-- What the reader of JSON or the system says where the settings file is at fault : a run finds
  at most one fault of it. -/
  fileReason : Text := []
  desktop : Desktop := {}
  /-- The time that dates are written from where no reference is given. -/
  now : Instant := Instant.epoch
  /-- Whether messages are shown in colours. -/
  colors : Bool := false
deriving DecidableEq, Repr

/-- What a command does. -/
structure Report where
  output : Text := []
  /-- What the command prints to the error output, without the lines of the log. -/
  errorOutput : Text := []
  exitCode : Nat := 0
  /-- The text that was handed to a clipboard tool, if any, whether or not the tool fails. -/
  copied : Option Text := none
  settingsFile : SettingsFile
deriving DecidableEq, Repr

/-- Why a command fails. -/
inductive CommandError where
  /-- `reason` is what the reader of JSON or the system says where the settings file is at fault. -/
  | settings (e : SettingsError) (reason : Text := [])
  /-- There is no place to store settings in. -/
  | noDirectory
  /-- The value of an argument is not written `NAME=VALUE`. -/
  | badBinding (text : Text)
  | badReference (text : Text) (reason : Rfc3339.ReadError)
deriving DecidableEq, Repr

/-- The words for an error. -/
def CommandError.message : CommandError → Text
  | .settings e reason => e.message reason
  | .noDirectory => "Invalid input: No config directory available".toList
  | .badBinding text => "Invalid input: Argument must be NAME=VALUE, got: ".toList ++ text
  | .badReference text reason =>
    "Invalid input: Invalid --at time ".toList ++ text ++ ": ".toList ++ reason.message

/-- A text as a line. -/
def line (t : Text) : Text :=
  t ++ ['\n']

/-- Messages as lines. -/
def lines (colors : Bool) (messages : List Message) : Text :=
  messages.flatMap fun m => line (m.line colors)

/-- A piece of a command. -/
abbrev Action := EStateM CommandError Report

namespace Action

/-- Prints a text. -/
def print (text : Text) : Action Unit :=
  modify fun report => { report with output := report.output ++ text }

/-- Prints a text to the error output. -/
def warn (text : Text) : Action Unit :=
  modify fun report => { report with errorOutput := report.errorOutput ++ text }

/-- Fails unless a condition holds. -/
def require (condition : Bool) (e : CommandError) : Action Unit :=
  if condition then return () else throw e

/-- The warning that a text is not copied, if it is not. -/
def copyWarning (desktop : Desktop) : Text :=
  match desktop.copyError? with
  | some error => line ("Warning: Failed to copy to clipboard: ".toList ++ error.message)
  | none => []

/-- Hands a text to the clipboard tools, and warns if none of them copies it. -/
def copy (desktop : Desktop) (text : Text) : Action Unit := do
  modify fun report =>
    { report with copied := if desktop.hasTool then some text else report.copied }
  warn (copyWarning desktop)

/-- The settings that are in force : the stored ones, or the default ones where nothing tells the
directory of the settings file. -/
def settings (env : Environment) : Action Settings :=
  if env.located then do ofExcept ((← get).settingsFile.load.mapError (.settings · env.fileReason))
  else return {}

/-- Stores settings. -/
def store (env : Environment) (settings : Settings) : Action Unit := do
  require env.writable (.settings .inaccessible env.fileReason)
  let file ← ofExcept (((← get).settingsFile.save settings).mapError (.settings · env.fileReason))
  modify fun report => { report with settingsFile := file }

end Action

end LinkTemplate.CommandLine
