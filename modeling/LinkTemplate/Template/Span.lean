import LinkTemplate.Text.Basic

/-!
# Spans of a template

A template is a text with placeholders. A placeholder is an opening brace, one or more
characters other than a closing brace, and the closing brace; `{}` is none, and an opening brace
inside a placeholder is part of its content, so placeholders neither nest nor overlap. `spans`
lists them from left to right with the positions of their two ends. `fill` puts a text in the
place of each span and keeps the text between them.
-/

namespace LinkTemplate

/-- A placeholder where it stands in a template. -/
structure Span where
  /-- The position of the opening brace. -/
  start : Nat
  /-- The position behind the closing brace. -/
  stop : Nat
  /-- The text between the braces. -/
  content : Text
deriving DecidableEq, Repr

/-- The placeholder as it is written, braces included. -/
def Span.source (s : Span) : Text :=
  '{' :: s.content ++ ['}']

namespace Template

/-- The spans of a text that stands at position `position` of the template. While a brace is
open, `opened?` holds its position and the content read since. -/
def spansFrom (position : Nat) (opened? : Option (Nat × Text)) : Text → List Span
  | [] => []
  | c :: rest =>
    let next := position + c.utf8Size
    match opened? with
    | none => spansFrom next (if c = '{' then some (position, []) else none) rest
    | some (start, content) =>
      if c = '}' then
        if content = [] then spansFrom next none rest
        else ⟨start, next, content⟩ :: spansFrom next none rest
      else spansFrom next (some (start, content ++ [c])) rest

/-- The placeholders of a template, from left to right. -/
def spans (template : Text) : List Span :=
  spansFrom 0 none template

/-- The template from position `cursor` on, with the text given for each span in its place. -/
def fillFrom (template : Text) (cursor : Nat) : List (Span × Text) → Text
  | [] => Text.dropBytes cursor template
  | (s, text) :: rest =>
    Text.slice cursor s.start template ++ text ++ fillFrom template s.stop rest

/-- The template with the text given for each span in its place. -/
def fill (template : Text) (texts : List (Span × Text)) : Text :=
  fillFrom template 0 texts

end Template

end LinkTemplate
