import LinkTemplate.Message
import LinkTemplate.Placeholder.Parser
import LinkTemplate.Template.Span
import LinkTemplate.Text.Quoted

/-!
# Inventory of a template

What a template needs to be expanded: its arguments, and whether it uses the clipboard, the
selection or the reference time. An argument is listed once, as its first placeholder declares
it; date formats are listed as they occur. Placeholders that cannot be parsed are left out.
-/

namespace LinkTemplate

/-- An argument of a template. -/
structure Argument where
  name : Text
  default : Option Text
  choices : Option (List Choice)
deriving DecidableEq, Repr

/-- Whether a value has to be supplied. -/
def Argument.isRequired (a : Argument) : Bool :=
  a.default.isNone

/-- What a template needs. -/
structure Inventory where
  arguments : List Argument := []
  usesClipboard : Bool := false
  usesSelection : Bool := false
  usesDate : Bool := false
  dateFormats : List Text := []
deriving DecidableEq, Repr

namespace Inventory

/-- The inventory with one more placeholder behind the others. -/
def add (inventory : Inventory) : Placeholder.Kind → Inventory
  | .argument name default choices =>
    if inventory.arguments.any (·.name = name) then inventory
    else { inventory with arguments := inventory.arguments ++ [⟨name, default, choices⟩] }
  | .clipboard => { inventory with usesClipboard := true }
  | .selection => { inventory with usesSelection := true }
  | .dated _ spec =>
    { inventory with
      usesDate := true
      dateFormats := inventory.dateFormats ++ spec.format.toList }
  | .unknown _ => inventory

/-- The inventory with the placeholder of the given content behind the others, if it can be
parsed. -/
def addContent (inventory : Inventory) (content : Text) : Inventory :=
  match Placeholder.parse content with
  | .ok p => inventory.add p.kind
  | .error _ => inventory

/-- What a template needs. -/
def ofTemplate (template : Text) : Inventory :=
  (Template.spans template).foldl (fun inventory s => inventory.addContent s.content) {}

/-- The arguments that have to be supplied. -/
def required (inventory : Inventory) : List Argument :=
  inventory.arguments.filter (·.isRequired)

end Inventory

/-- The line for an argument. -/
def Argument.line (a : Argument) : Text :=
  "argument ".toList ++ a.name ++
    (match a.default with
      | none => " (required)".toList
      | some default => " (default: ".toList ++ Text.quoted default ++ [')']) ++
    match a.choices with
      | none => []
      | some choices => " options: ".toList ++ Text.join ", ".toList (choices.map (·.value))

/-- One message for each thing that the template needs. -/
def Inventory.messages (inventory : Inventory) : List Message :=
  let lines := inventory.arguments.map (·.line) ++
    (if inventory.usesClipboard then ["uses clipboard".toList] else []) ++
    (if inventory.usesSelection then ["uses selection".toList] else []) ++
    (if inventory.usesDate then ["uses date".toList] else []) ++
    inventory.dateFormats.map ("date format: ".toList ++ ·)
  lines.map fun line => ⟨.info, line⟩

end LinkTemplate
