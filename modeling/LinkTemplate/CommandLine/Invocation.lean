import LinkTemplate.CommandLine.Words

/-!
# Invocations

A command line names one of four commands, which has options and positional words of its own.
The option `--log-level` may stand in front of the name of the command or behind it, and counts
as it stands behind. `--version`, `-V`, `--help` and `-h` end the reading where they stand. The
word `help` stands in place of a command, and behind it at most the name of what to explain.
-/

namespace LinkTemplate.CommandLine

/-- What the expansion of a template is told by options. -/
structure ExpandOptions where
  /-- The values of arguments, as `NAME=VALUE`. -/
  arguments : List Text := []
  clipboard : Option Text := none
  selection : Option Text := none
  /-- The reference time, in RFC 3339. -/
  reference : Option Text := none
  copy : Bool := false
  json : Bool := false
deriving DecidableEq, Repr

/-- A command with its options. -/
inductive Command where
  | expand (template : Text) (options : ExpandOptions)
  | inventory (template : Text) (json : Bool)
  | diagnose (template : Text)
  | showSettings
  | showSetting (key : Text)
  | changeSetting (key value : Text)
deriving DecidableEq, Repr

/-- A command line that names a command. -/
structure Invocation where
  command : Command
  /-- The name of the level from which on events are logged. -/
  logLevel : Text := "warn".toList
deriving DecidableEq, Repr

/-! ## Commands -/

/-- The name of a command. -/
inductive CommandName where
  | process
  | analyze
  | validate
  | config
deriving DecidableEq, Repr

namespace CommandName

/-- The command of a word, by its name or its abbreviation. -/
def ofWord? (word : Text) : Option CommandName :=
  if word = "process".toList ∨ word = "p".toList then some .process
  else if word = "analyze".toList ∨ word = "a".toList then some .analyze
  else if word = "validate".toList ∨ word = "v".toList then some .validate
  else if word = "config".toList then some .config
  else none

/-- The option that every command has. -/
def logLevel : OptionSpec := { name := "log-level", arity := .single }

/-- The options of a command. -/
def options : CommandName → List OptionSpec
  | .process => [
      { name := "arg", letter := some 'a', arity := .many },
      { name := "clipboard", arity := .single },
      { name := "selection", arity := .single },
      { name := "at", arity := .single },
      { name := "copy", arity := .flag },
      { name := "json", arity := .flag },
      logLevel]
  | .analyze => [{ name := "json", arity := .flag }, logLevel]
  | .validate => [logLevel]
  | .config => [logLevel]

/-- The largest number of positional words of a command. -/
def positionals : CommandName → Nat
  | .process | .analyze | .validate => 1
  | .config => 2

/-- The command that sorted words ask for. -/
def command (words : Words) : CommandName → Except Stop Command
  | .process => do
    return .expand (← template) {
      arguments := words.values "arg"
      clipboard := words.value? "clipboard"
      selection := words.value? "selection"
      reference := words.value? "at"
      copy := words.has "copy"
      json := words.has "json" }
  | .analyze => return .inventory (← template) (words.has "json")
  | .validate => return .diagnose (← template)
  | .config =>
    match words.positionals with
    | [] => .ok .showSettings
    | [key] => .ok (.showSetting key)
    | key :: value :: _ => .ok (.changeSetting key value)
where
  /-- The template, which three of the commands need. -/
  template : Except Stop Text :=
    match words.positionals with
    | [] => .error (.usage .missingTemplate)
    | t :: _ => .ok t

end CommandName

/-! ## The whole line -/

/-- Reads the words behind the name of a command; `level?` is the log level in front of the
name. -/
def readCommand (name : CommandName) (level? : Option Text) (words : List Text) :
    Except Stop Invocation := do
  let words ← readWords name.options name.positionals words
  let command ← name.command words
  return { command, logLevel := ((words.value? "log-level").or level?).getD "warn".toList }

/-- What the words behind `help` ask for: the explanation of the program, or of one command.
Every word counts as a name, one with a hyphen too, and no command has commands of its own. -/
def readHelp : List Text → Stop
  | [] => .help
  | word :: rest =>
    if (CommandName.ofWord? word).isSome ∨ word = "help".toList then
      match rest with
      | [] => .help
      | word :: _ => .usage (.unknownCommand word)
    else .usage (.unknownCommand word)

/-- Reads the words of a command line. In front of the name of the command stand options only;
`waiting` says that the word in front was an option whose value is still to come. -/
def readLine (level? : Option Text) (waiting : Bool) : List Text → Except Stop Invocation
  | [] => .error (.usage (if waiting then .missingValue "log-level" else .missingCommand))
  | word :: rest =>
    match WordShape.of word with
    | .plain =>
      if waiting then readLine (some word) false rest
      else match CommandName.ofWord? word with
        | some name => readCommand name level? rest
        | none =>
          .error (if word = "help".toList then readHelp rest else .usage (.unknownCommand word))
    | shape =>
      if waiting then .error (.usage (.missingValue "log-level"))
      else match shape with
        | .long name value? =>
          if name = "log-level".toList then
            if level?.isSome then .error (.usage (.repeated "log-level"))
            else match value? with
              | some value => readLine (some value) false rest
              | none => readLine level? true rest
          else if value?.isSome then .error (.usage (.unknownOption word))
          else if name = "version".toList then .error .version
          else if name = "help".toList then .error .help
          else .error (.usage (.unknownOption word))
        | .short ('V' :: _) => .error .version
        | .short ('h' :: _) => .error .help
        | .short _ => .error (.usage (.unknownOption word))
        | .terminator | .plain => .error (.usage .missingCommand)

/-- The invocation that the words of a command line ask for. -/
def Invocation.parse (words : List Text) : Except Stop Invocation :=
  readLine none false words

end LinkTemplate.CommandLine
