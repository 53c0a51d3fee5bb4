import LinkTemplate.Text.Basic

/-!
# Words of a command line

The words of a command are options and positional words in any order. A long option is written
`--name value` or `--name=value`, a short one `-x value`, `-xvalue` or `-x=value`, and options
without a value can share one hyphen. A value in a word of its own does not start with a hyphen
unless it is only a hyphen. The word `--` ends the options.
-/

namespace LinkTemplate.CommandLine

/-- How often an option occurs and whether it has a value. -/
inductive Arity where
  /-- No value, at most once. -/
  | flag
  /-- A value, at most once. -/
  | single
  /-- A value, any number of times. -/
  | many
deriving DecidableEq, Repr

/-- An option of a command. -/
structure OptionSpec where
  name : String
  /-- The letter of the short form, if there is one. -/
  letter : Option Char := none
  arity : Arity
deriving DecidableEq, Repr

/-- Why the words are no use of a command. -/
inductive UsageError where
  | missingCommand
  | unknownCommand (word : Text)
  | unknownOption (word : Text)
  | missingValue (option : String)
  | unneededValue (option : String)
  | repeated (option : String)
  | unexpectedWord (word : Text)
  | missingTemplate
deriving DecidableEq, Repr

/-- What ends the reading of a command line early. -/
inductive Stop where
  | help
  | version
  | usage (e : UsageError)
deriving DecidableEq, Repr

/-- The words of a command, sorted. -/
structure Words where
  /-- The options with their values, in order; a flag has the empty value. -/
  options : List (String × Text) := []
  /-- The positional words, in order. -/
  positionals : List Text := []
deriving DecidableEq, Repr

namespace Words

/-- Whether an option occurs. -/
def has (words : Words) (name : String) : Bool :=
  words.options.any (·.1 = name)

/-- The value of an option that occurs at most once. -/
def value? (words : Words) (name : String) : Option Text :=
  words.options.lookup name

/-- The values of an option, in order. -/
def values (words : Words) (name : String) : List Text :=
  (words.options.filter (·.1 = name)).map (·.2)

/-- The words with one more option. -/
def addOption (words : Words) (spec : OptionSpec) (value : Text) : Except Stop Words :=
  if spec.arity ≠ .many ∧ words.has spec.name then .error (.usage (.repeated spec.name))
  else .ok { words with options := words.options ++ [(spec.name, value)] }

/-- The words with one more positional word, of which there may be `limit`. -/
def addPositional (words : Words) (limit : Nat) (word : Text) : Except Stop Words :=
  if words.positionals.length < limit then
    .ok { words with positionals := words.positionals ++ [word] }
  else .error (.usage (.unexpectedWord word))

end Words

/-- The shape of a word. -/
inductive WordShape where
  /-- The word `--`. -/
  | terminator
  /-- A long option with the value behind the equals sign, if there is one. -/
  | long (name : Text) (value? : Option Text)
  /-- The letters behind one hyphen. -/
  | short (letters : Text)
  | plain
deriving DecidableEq, Repr

/-- The shape of a word. -/
def WordShape.of : Text → WordShape
  | ['-', '-'] => .terminator
  | '-' :: '-' :: rest =>
    match Text.cut? '=' rest with
    | some (name, value) => .long name (some value)
    | none => .long rest none
  | '-' :: c :: rest => .short (c :: rest)
  | _ => .plain

/-- The value that is attached to the letter of a short option. -/
def attachedValue? : Text → Option Text
  | [] => none
  | '=' :: value => some value
  | value => some value

/-- Where the reading of the words stands. -/
structure ReadState where
  words : Words := {}
  /-- The option that waits for its value. -/
  pending? : Option OptionSpec := none
  /-- Whether the options have ended. -/
  ended : Bool := false
deriving DecidableEq, Repr

namespace ReadState

/-- The state behind a long option. -/
def long (specs : List OptionSpec) (s : ReadState) (word name : Text) (value? : Option Text) :
    Except Stop ReadState :=
  if name = "help".toList ∧ value? = none then .error .help
  else match specs.find? (·.name.toList = name), value? with
    | none, _ => .error (.usage (.unknownOption word))
    | some spec, none =>
      if spec.arity = .flag then return { s with words := ← s.words.addOption spec [] }
      else .ok { s with pending? := some spec }
    | some spec, some value =>
      if spec.arity = .flag then .error (.usage (.unneededValue spec.name))
      else return { s with words := ← s.words.addOption spec value }

/-- The state behind the letters of a word with one hyphen. -/
def short (specs : List OptionSpec) (s : ReadState) (word : Text) :
    Text → Except Stop ReadState
  | [] => .ok s
  | c :: rest =>
    if c = 'h' then .error .help
    else match specs.find? (·.letter = some c) with
      | none => .error (.usage (.unknownOption word))
      | some spec =>
        if spec.arity = .flag then do
          short specs { s with words := ← s.words.addOption spec [] } word rest
        else match attachedValue? rest with
          | some value => return { s with words := ← s.words.addOption spec value }
          | none => .ok { s with pending? := some spec }

/-- The state behind one more word. -/
def next (specs : List OptionSpec) (limit : Nat) (s : ReadState) (word : Text) :
    Except Stop ReadState :=
  if s.ended then return { s with words := ← s.words.addPositional limit word }
  else match s.pending?, WordShape.of word with
    | some spec, .plain =>
      return { s with words := ← s.words.addOption spec word, pending? := none }
    | some spec, _ => .error (.usage (.missingValue spec.name))
    | none, .terminator => .ok { s with ended := true }
    | none, .long name value? => s.long specs word name value?
    | none, .short letters => s.short specs word letters
    | none, .plain => return { s with words := ← s.words.addPositional limit word }

/-- The words that were read, if no option waits for its value. -/
def finish (s : ReadState) : Except Stop Words :=
  match s.pending? with
  | some spec => .error (.usage (.missingValue spec.name))
  | none => .ok s.words

end ReadState

/-- Sorts the words of a command with the given options and at most `limit` positional words. -/
def readWords (specs : List OptionSpec) (limit : Nat) (words : List Text) :
    Except Stop Words := do
  (← words.foldlM (ReadState.next specs limit) {}).finish

end LinkTemplate.CommandLine
