import LinkTemplate.CommandLine.Action
import LinkTemplate.CommandLine.Invocation
import LinkTemplate.Diagnosis
import LinkTemplate.Expansion
import LinkTemplate.Inventory

/-!
# Running a command

`run` answers an invocation in a given environment with a report: the two outputs, the exit
code, the text that was handed to a clipboard tool, and the settings file as the command leaves
it. `perform` carries the command out, action by action, and says whether it succeeds.
-/

namespace LinkTemplate.CommandLine

/-! ## Results as JSON -/

open Json (Value)

/-- An expansion as a JSON object. -/
def expansionJson (e : Expansion) : Value :=
  .ofMembers [
    ("url", .ofText e.url),
    ("missing_arguments", .ofTexts e.missing),
    ("errors", .ofTexts (e.defects.map (·.message))),
    ("success", .bool e.succeeded)]

/-- A choice as a JSON object. -/
def choiceJson (c : Choice) : Value :=
  .ofMembers [("label", .ofText c.label), ("value", .ofText c.value)]

/-- An argument as a JSON object. -/
def argumentJson (a : Argument) : Value :=
  .ofMembers [
    ("name", .ofText a.name),
    ("default", .ofText? a.default),
    ("options", (a.choices.map fun choices => .array (choices.map choiceJson)).getD .null),
    ("required", .bool a.isRequired)]

/-- An inventory as a JSON object. -/
def inventoryJson (i : Inventory) : Value :=
  .ofMembers [
    ("arguments", .array (i.arguments.map argumentJson)),
    ("uses_clipboard", .bool i.usesClipboard),
    ("uses_selection", .bool i.usesSelection),
    ("uses_date", .bool i.usesDate),
    ("date_formats", .ofTexts i.dateFormats)]

/-! ## Commands -/

/-- The name and the value of an argument, cut at the first equals sign. -/
def parseBinding (text : Text) : Except CommandError (Text × Text) :=
  match Text.cut? '=' text with
  | some binding => .ok binding
  | none => .error (.badBinding text)

/-- The values of arguments. A later one for the same name counts. -/
def parseBindings (texts : List Text) : Except CommandError Bindings := do
  return (← texts.mapM parseBinding).reverse

/-- The reference time. -/
def parseReference (now : Instant) : Option Text → Except CommandError Instant
  | none => .ok now
  | some text =>
    match Rfc3339.read text with
    | .ok x => .ok x
    | .error reason => .error (.badReference text reason)

/-- The text of a buffer: as it is given, or as the desktop has it if the template needs it and
the settings allow reading. -/
def bufferText (given : Option Text) (allowed needed : Bool) (desktop : Desktop)
    (buffer : Buffer) : Option Text :=
  given.or (if allowed && needed then desktop.read buffer else none)

/-- What the template is expanded with. -/
def expandInputs (env : Environment) (settings : Settings) (template : Text)
    (options : ExpandOptions) : Except CommandError Inputs := do
  let arguments ← parseBindings options.arguments
  let reference ← parseReference env.now options.reference
  let needs := Inventory.ofTemplate template
  return {
    arguments, reference
    clipboard := bufferText options.clipboard settings.readClipboard needs.usesClipboard
      env.desktop .clipboard
    selection := bufferText options.selection settings.readClipboard needs.usesSelection
      env.desktop .selection
    patterns := settings.patterns }

/-- Prints an expansion, and what kept it from succeeding. -/
def printExpansion (env : Environment) (json : Bool) (e : Expansion) : Action Unit :=
  if json then Action.print (line (expansionJson e).render)
  else do
    Action.print (line e.url)
    Action.warn (lines env.colors e.messages)

/-- Copies an expansion, if it is to be copied and succeeded. -/
def copyExpansion (env : Environment) (wanted : Bool) (e : Expansion) : Action Unit :=
  if e.succeeded && wanted then Action.copy env.desktop e.url else return ()

/-- Delivers an expansion and says whether it succeeded. -/
def deliverExpansion (env : Environment) (settings : Settings) (options : ExpandOptions)
    (e : Expansion) : Action Bool := do
  printExpansion env options.json e
  copyExpansion env (options.copy || settings.copyResult) e
  return e.succeeded

/-- Expands a template. -/
def performExpand (env : Environment) (settings : Settings) (template : Text)
    (options : ExpandOptions) : Action Bool := do
  let inputs ← ofExcept (expandInputs env settings template options)
  deliverExpansion env settings options (expand template inputs)

/-- What is shown for a template without placeholders. -/
def nothingToFill (colors : Bool) : Text :=
  let text := "Template has no placeholders to fill.".toList
  if colors then Style.dimmed.paint text else text

/-- What is shown of an inventory. -/
def inventoryOutput (env : Environment) (json : Bool) (i : Inventory) : Text :=
  if json then line (inventoryJson i).render
  else if i.messages.isEmpty then line (nothingToFill env.colors)
  else lines env.colors i.messages

/-- Prints the settings, a line for each. -/
def performShow (settings : Settings) : Action Unit :=
  SettingsKey.all.forM fun k => do
    let value ← ofExcept ((settings.getByName k.name).mapError (.settings ·))
    Action.print (line (k.name ++ " = ".toList ++ value))

/-- Changes a setting and stores the settings. -/
def performChange (env : Environment) (settings : Settings) (name value : Text) :
    Action Unit := do
  Action.require env.located .noDirectory
  let changed ← ofExcept ((settings.setByName name value).mapError (.settings ·))
  Action.store env changed
  Action.print (lines env.colors [⟨.success, name ++ " set to ".toList ++ value⟩])

/-- Carries a command out with the settings in force, and says whether it succeeds. -/
def performWith (env : Environment) (settings : Settings) : Command → Action Bool
  | .expand template options => performExpand env settings template options
  | .inventory template json => do
    Action.print (inventoryOutput env json (Inventory.ofTemplate template))
    return true
  | .diagnose template => do
    Action.print (lines env.colors (Template.diagnosisMessages (Template.problems template)))
    return (Template.problems template).isEmpty
  | .showSettings => do
    performShow settings
    return true
  | .showSetting name => do
    let value ← ofExcept ((settings.getByName name).mapError (.settings ·))
    Action.print (line value)
    return true
  | .changeSetting name value => do
    performChange env settings name value
    return true

/-- Carries a command out. -/
def perform (env : Environment) (command : Command) : Action Bool := do
  performWith env (← Action.settings env) command

/-! ## Invocations -/

/-- The names of the levels of events that can be logged. -/
def logLevels : List String :=
  ["off", "error", "warn", "info", "debug", "trace"]

/-- The warning about a log level that has no meaning. -/
def logLevelWarning (level : Text) : Text :=
  if logLevels.any (·.toList = Text.asciiLower level) then []
  else line ("Invalid log level: ".toList ++ level ++ ". Using 'warn' instead.".toList)

/-- The report in front of a command. What is logged is no part of it : the log level shows in the
warning only. -/
def Environment.start (env : Environment) (logLevel : Text) : Report :=
  { errorOutput := logLevelWarning logLevel, settingsFile := env.settingsFile }

/-- The report on an invocation. -/
def run (env : Environment) (invocation : Invocation) : Report :=
  match (perform env invocation.command).run (env.start invocation.logLevel) with
  | .ok true report => report
  | .ok false report => { report with exitCode := 1 }
  | .error e report =>
    { report with
      errorOutput := report.errorOutput ++ line ("Error: ".toList ++ e.message)
      exitCode := 1 }

/-- The name that the program gives itself. -/
def programName : Text :=
  "quicklink".toList

/-- What `--version` shows. -/
def versionText : Text :=
  programName ++ " 0.1.0".toList

/-- What `--help` shows. -/
def helpText : Text :=
  Text.join ['\n'] <| [
    "Expand URL templates with arguments, clipboard text and dates",
    "",
    s!"Usage: {String.ofList programName} [--log-level LEVEL] COMMAND",
    "",
    "Commands:",
    "  process TEMPLATE [-a NAME=VALUE]... [--clipboard TEXT] [--selection TEXT] [--at RFC3339]",
    "          [--copy] [--json]",
    "  analyze TEMPLATE [--json]",
    "  validate TEMPLATE",
    "  config [KEY] [VALUE]"].map String.toList

/-- The words for a line that is no use of the program. -/
def UsageError.message : UsageError → Text
  | .missingCommand => "a command is required".toList
  | .unknownCommand word => "unknown command ".toList ++ word
  | .unknownOption word => "unknown option ".toList ++ word
  | .missingValue option => s!"option --{option} needs a value".toList
  | .unneededValue option => s!"option --{option} takes no value".toList
  | .repeated option => s!"option --{option} is given twice".toList
  | .unexpectedWord word => "unexpected word ".toList ++ word
  | .missingTemplate => "a template is required".toList

/-- The report on the words of a command line. -/
def runWords (env : Environment) (words : List Text) : Report :=
  match Invocation.parse words with
  | .ok invocation => run env invocation
  | .error .version => { output := line versionText, settingsFile := env.settingsFile }
  | .error .help => { output := line helpText, settingsFile := env.settingsFile }
  | .error (.usage e) =>
    { errorOutput := line ("error: ".toList ++ e.message) ++ line helpText
      exitCode := 2
      settingsFile := env.settingsFile }

end LinkTemplate.CommandLine
