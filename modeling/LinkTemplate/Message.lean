import LinkTemplate.Text.Basic

/-!
# Messages

A message is a line for the user with its level. On a terminal that shows colours, the level
decides the style of the line.
-/

namespace LinkTemplate

/-- How serious a message is. -/
inductive Level where
  | info
  | success
  | warning
  | error
deriving DecidableEq, Repr

/-- A line for the user. -/
structure Message where
  level : Level
  text : Text
deriving DecidableEq, Repr

/-- A way to show a line on a terminal. -/
inductive Style where
  | green
  | yellow
  | red
  | dimmed
deriving DecidableEq, Repr

namespace Style

/-- The escape sequence that turns a style on. -/
def code : Style → Text
  | .green => "\x1b[32m".toList
  | .yellow => "\x1b[33m".toList
  | .red => "\x1b[31m".toList
  | .dimmed => "\x1b[2m".toList

/-- The escape sequence that turns every style off. -/
def reset : Text :=
  "\x1b[0m".toList

/-- The text with the style turned on again behind every reset that it holds. -/
def reapply (style : Style) (t : Text) : Text :=
  go 0 t
where
  /-- The characters of a reset are kept, and the style follows the last of them; `pending`
  characters of the reset are still to come. -/
  go (pending : Nat) : Text → Text
    | [] => []
    | c :: rest =>
      if pending = 0 then
        if reset.isPrefixOf (c :: rest) then c :: go (reset.length - 1) rest else c :: go 0 rest
      else if pending = 1 then c :: (style.code ++ go 0 rest)
      else c :: go (pending - 1) rest

/-- The text shown in a style. -/
def paint (style : Style) (t : Text) : Text :=
  style.code ++ style.reapply t ++ reset

end Style

/-- The style of a level; lines that only inform have none. -/
def Level.style? : Level → Option Style
  | .info => none
  | .success => some .green
  | .warning => some .yellow
  | .error => some .red

/-- The line of a message, in the style of its level where colours are shown. -/
def Message.line (colors : Bool) (m : Message) : Text :=
  match if colors then m.level.style? else none with
  | some style => style.paint m.text
  | none => m.text

end LinkTemplate
