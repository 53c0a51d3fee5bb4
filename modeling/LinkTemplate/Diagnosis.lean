import LinkTemplate.Message
import LinkTemplate.Placeholder.Parser
import LinkTemplate.Template.Span

/-!
# Diagnosis of a template

What is wrong with the syntax of a template: braces without a partner, quotes outside quoted
values, and placeholders that cannot be parsed. Places are given by the number of characters in
front of them. Braces nest here, other than in `Template.spans`, and of several braces left open
only the last is reported.
-/

namespace LinkTemplate

/-- A problem of a template. -/
inductive Problem where
  | unexpectedClosing (place : Nat)
  | unclosed (place : Nat)
  /-- A defect of the placeholder that starts at a place. -/
  | defect (place : Nat) (defect : Placeholder.Defect)
deriving DecidableEq, Repr

/-- The words for a problem. -/
def Problem.message : Problem → Text
  | .unexpectedClosing place =>
    "unexpected closing brace at position ".toList ++ Text.decimal place
  | .unclosed place => "unclosed placeholder starting at position ".toList ++ Text.decimal place
  | .defect place d => "position ".toList ++ Text.decimal place ++ ": ".toList ++ d.message

namespace Template

/-- The problems with the braces of a text at a place of the template. The places of the braces
that are still open are given innermost first. -/
def braceProblemsFrom (opened : List Nat) (place : Nat) : Text → List Problem
  | [] => (opened.head?.map Problem.unclosed).toList
  | c :: rest =>
    if c = '{' then braceProblemsFrom (place :: opened) (place + 1) rest
    else if c = '}' then
      match opened with
      | [] => .unexpectedClosing place :: braceProblemsFrom [] (place + 1) rest
      | _ :: outer => braceProblemsFrom outer (place + 1) rest
    else braceProblemsFrom opened (place + 1) rest

/-- The problems with the braces of a template. -/
def braceProblems (template : Text) : List Problem :=
  braceProblemsFrom [] 0 template

/-- The defects of the placeholder with the given content. -/
def defects (content : Text) : List Placeholder.Defect :=
  (if Attribute.hasStrayQuote content then [.unbalancedQuote content] else []) ++
    match Placeholder.parse content with
    | .ok _ => []
    | .error d => [d]

/-- The problems of the placeholder at a span. -/
def spanProblems (template : Text) (s : Span) : List Problem :=
  (defects s.content).map (.defect (Text.takeBytes s.start template).length)

/-- The problems of a template: those of its braces, then those of its placeholders in order. -/
def problems (template : Text) : List Problem :=
  braceProblems template ++ (spans template).flatMap (spanProblems template)

/-- Whether a template has no problem. -/
def isValid (template : Text) : Bool :=
  (problems template).isEmpty

/-- The messages for the problems of a template, or that it has none. -/
def diagnosisMessages (problems : List Problem) : List Message :=
  if problems.isEmpty then [⟨.success, "Template is valid".toList⟩]
  else problems.map fun p => ⟨.error, p.message⟩

end Template

end LinkTemplate
