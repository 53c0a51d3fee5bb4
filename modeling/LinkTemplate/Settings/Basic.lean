import LinkTemplate.Placeholder.Basic

/-!
# Settings

The settings that outlive a run: the patterns of the date styles, and two switches for the
clipboard. Each has a key by which it is read and changed as text (`Settings.get`,
`Settings.set`).
-/

namespace LinkTemplate

/-- The settings. -/
structure Settings where
  /-- The patterns for dates without a format of their own. -/
  patterns : DatePatterns := {}
  /-- Whether a template may read the clipboard and the selection. -/
  readClipboard : Bool := true
  /-- Whether every successful expansion is copied to the clipboard. -/
  copyResult : Bool := false
deriving DecidableEq, Repr

/-- One of the settings. -/
inductive SettingsKey where
  | pattern (style : DateStyle)
  | readClipboard
  | copyResult
deriving DecidableEq, Repr

namespace SettingsKey

/-- Every key, in the order in which they are shown. -/
def all : List SettingsKey :=
  [.pattern .date, .pattern .time, .pattern .datetime, .readClipboard, .copyResult]

/-- The name of a key. -/
def name : SettingsKey → Text
  | .pattern style => style.keyword ++ "-format".toList
  | .readClipboard => "read-clipboard".toList
  | .copyResult => "copy-result".toList

/-- The key of a name, which is case-sensitive. -/
def ofName? (name : Text) : Option SettingsKey :=
  all.find? fun k => k.name = name

theorem ofName?_name (k : SettingsKey) : ofName? k.name = some k := by
  rcases k with (_ | _ | _) | _ | _ <;> decide

end SettingsKey

/-- Why the settings could not be read, changed or stored. -/
inductive SettingsError where
  | unknownKey (name : Text)
  | badSwitch (key : SettingsKey) (value : Text)
  /-- The settings file holds something else than settings. -/
  | malformed
  /-- The settings file can be neither read nor written. -/
  | inaccessible
deriving DecidableEq, Repr

/-- The words for an error. `reason` is what the reader of JSON or the system says where the
settings file is at fault. -/
def SettingsError.message (e : SettingsError) (reason : Text := []) : Text :=
  match e with
  | .unknownKey name =>
    "Invalid input: Unknown config key: ".toList ++ name ++ " (expected one of ".toList ++
      Text.join ", ".toList (SettingsKey.all.map (·.name)) ++ [')']
  | .badSwitch key value =>
    "Invalid input: ".toList ++ key.name ++ " expects true or false, got ".toList ++ value
  | .malformed => "Serialization error: ".toList ++ reason
  | .inaccessible => "IO error: ".toList ++ reason

/-! ## Values as text -/

/-- The text of a switch. -/
def switchText (b : Bool) : Text :=
  if b then "true".toList else "false".toList

/-- Reads a switch, in any case of the letters. -/
def readSwitch? (value : Text) : Option Bool :=
  let word := Text.asciiLower value
  if ["true", "yes", "on", "1"].any (·.toList = word) then some true
  else if ["false", "no", "off", "0"].any (·.toList = word) then some false
  else none

/-- The patterns with one of them replaced. -/
def DatePatterns.set (patterns : DatePatterns) (value : Text) : DateStyle → DatePatterns
  | .date => { patterns with date := value }
  | .time => { patterns with time := value }
  | .datetime => { patterns with datetime := value }

namespace Settings

/-- The value of a key. -/
def get (s : Settings) : SettingsKey → Text
  | .pattern style => s.patterns.pattern style
  | .readClipboard => switchText s.readClipboard
  | .copyResult => switchText s.copyResult

/-- The settings with a new value for a key. -/
def set (s : Settings) (key : SettingsKey) (value : Text) : Except SettingsError Settings :=
  match key, readSwitch? value with
  | .pattern style, _ => .ok { s with patterns := s.patterns.set value style }
  | .readClipboard, some b => .ok { s with readClipboard := b }
  | .copyResult, some b => .ok { s with copyResult := b }
  | key, none => .error (.badSwitch key value)

/-- The key of a name, or the error that there is none. -/
def key (name : Text) : Except SettingsError SettingsKey :=
  match SettingsKey.ofName? name with
  | some k => .ok k
  | none => .error (.unknownKey name)

/-- The value of the key of a name. -/
def getByName (s : Settings) (name : Text) : Except SettingsError Text := do
  return s.get (← key name)

/-- The settings with a new value for the key of a name. -/
def setByName (s : Settings) (name value : Text) : Except SettingsError Settings := do
  s.set (← key name) value

end Settings

end LinkTemplate
