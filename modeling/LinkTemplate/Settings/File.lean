import LinkTemplate.Json.Printer
import LinkTemplate.Json.Reader
import LinkTemplate.Settings.Basic

/-!
# The settings file

Settings are stored as a JSON object with one member for each. Reading also takes an array of
the values in the same order. What is left out has its default value, and members of other names
are ignored; a repeated member, a value of the wrong type and an array that is too long make the
file malformed.
-/

namespace LinkTemplate

namespace Settings

open Json (Value Content)

/-- The settings as a JSON object. -/
def toJson (s : Settings) : Value :=
  .ofMembers [
    ("date_format", .ofText s.patterns.date),
    ("time_format", .ofText s.patterns.time),
    ("datetime_format", .ofText s.patterns.datetime),
    ("read_clipboard", .bool s.readClipboard),
    ("copy_result", .bool s.copyResult)]

/-- A text, or the default where there is no value. -/
def textOr (default : Text) : Option Value → Option Text
  | none => some default
  | some (.string (some t)) => some t
  | some _ => none

/-- A switch, or the default where there is no value. -/
def switchOr (default : Bool) : Option Value → Option Bool
  | none => some default
  | some (.bool b) => some b
  | some _ => none

/-- The settings of the values that are given. -/
def ofValues? (date time datetime readClipboard copyResult : Option Value) : Option Settings := do
  let default : Settings := {}
  return {
    patterns := {
      date := ← textOr default.patterns.date date
      time := ← textOr default.patterns.time time
      datetime := ← textOr default.patterns.datetime datetime }
    readClipboard := ← switchOr default.readClipboard readClipboard
    copyResult := ← switchOr default.copyResult copyResult }

/-- The value of a member that may be absent, but not repeated. -/
def member? (name : String) (members : List (Content × Value)) : Option (Option Value) :=
  match members.filter fun m => m.1 = some name.toList with
  | [] => some none
  | [m] => some (some m.2)
  | _ => none

/-- The settings that a JSON value stands for. -/
def ofJson? : Value → Option Settings
  | .object members => do
    if members.any (·.1.isNone) then none
    ofValues? (← member? "date_format" members) (← member? "time_format" members)
      (← member? "datetime_format" members) (← member? "read_clipboard" members)
      (← member? "copy_result" members)
  | .array items =>
    if items.length ≤ 5 then
      ofValues? items[0]? items[1]? items[2]? items[3]? items[4]?
    else none
  | _ => none

/-- The text of a settings file. -/
def render (s : Settings) : Text :=
  s.toJson.render

/-- The settings that the text of a settings file stands for. -/
def parse? (t : Text) : Option Settings :=
  (Json.read? t).bind ofJson?

end Settings

/-- What stands where the settings file belongs. -/
inductive SettingsFile where
  | absent
  | text (t : Text)
  /-- A directory, which can be neither read nor written as a file. -/
  | directory
deriving DecidableEq, Repr

namespace SettingsFile

/-- The text of the file, if there is one. -/
def text? : SettingsFile → Option Text
  | .text t => some t
  | _ => none

/-- What stands there behind an attempt to write a text. A directory stays. -/
def write (t : Text) : SettingsFile → SettingsFile
  | .absent | .text _ => .text t
  | .directory => .directory

/-- What stands there behind an attempt to make a directory, which takes a free place. -/
def makeDirectory : SettingsFile → SettingsFile
  | .absent => .directory
  | file => file

/-- The stored settings, or the default ones where nothing is stored. -/
def load : SettingsFile → Except SettingsError Settings
  | .absent => .ok {}
  | .text t =>
    match Settings.parse? t with
    | some s => .ok s
    | none => .error .malformed
  | .directory => .error .inaccessible

/-- The file behind storing the settings. -/
def save (s : Settings) : SettingsFile → Except SettingsError SettingsFile
  | .absent | .text _ => .ok (.text s.render)
  | .directory => .error .inaccessible

end SettingsFile

end LinkTemplate
