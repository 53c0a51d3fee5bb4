import LinkTemplate.Text.Blank

/-!
# Segments

The content of a placeholder is cut into segments at each pipe outside double quotes. The first
segment is the base, the others name modifiers. Every double quote switches between inside and
outside, and outside quotes `\|` is a literal pipe. Blank characters at the ends of a segment do
not count.
-/

namespace LinkTemplate.Segment

/-- The segments of a text that continues the segment `current`, inside or outside double
quotes. -/
def splitFrom (quoted : Bool) (current : Text) : Text → List Text
  | [] => [Text.trim current]
  | '"' :: rest => splitFrom (!quoted) (current ++ ['"']) rest
  | '\\' :: '|' :: rest =>
    if quoted then splitFrom quoted (current ++ ['\\', '|']) rest
    else splitFrom quoted (current ++ ['|']) rest
  | '|' :: rest =>
    if quoted then splitFrom quoted (current ++ ['|']) rest
    else Text.trim current :: splitFrom quoted [] rest
  | c :: rest => splitFrom quoted (current ++ [c]) rest

/-- The segments of the content of a placeholder. There is at least one. -/
def split (content : Text) : List Text :=
  splitFrom false [] content

/-- A text with each pipe written `\|`, as it stands outside quotes. -/
def escapePipes (t : Text) : Text :=
  t.flatMap fun c => if c = '|' then ['\\', '|'] else [c]

end LinkTemplate.Segment
