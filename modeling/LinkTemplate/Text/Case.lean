import LinkTemplate.Text.Case.Table

/-!
# Upper and lower case

The full case mappings of Unicode: a character may become several (`ß` becomes `SS`), and a
capital sigma at the end of a word becomes the final small sigma. All other mappings look at one
character only, so `upper` distributes over `++` (`upper_append`).
-/

namespace LinkTemplate.Text

/-- The capital form of a character. -/
def upperChar (c : Char) : Text :=
  if c.toNat < 0x80 then [c.toUpper]
  else match upperExpansions.lookup c.toNat with
    | some codes => codes.map Char.ofNat
    | none => [((CaseRun.find? upperRuns c.toNat).map Char.ofNat).getD c]

/-- The small form of a character, wherever it stands. -/
def lowerChar (c : Char) : Text :=
  if c.toNat < 0x80 then [c.toLower]
  else match lowerExpansions.lookup c.toNat with
    | some codes => codes.map Char.ofNat
    | none => [((CaseRun.find? lowerRuns c.toNat).map Char.ofNat).getD c]

/-- The text in capitals. -/
def upper (t : Text) : Text :=
  t.flatMap upperChar

/-- Whether a character has the property `Cased`. -/
def isCased (c : Char) : Bool :=
  within casedRanges c

/-- Whether a character has the property `Case_Ignorable`. -/
def isCaseIgnorable (c : Char) : Bool :=
  within caseIgnorableRanges c

/-- Whether the first character that is not case-ignorable is cased. -/
def startsCased (t : Text) : Bool :=
  ((t.dropWhile isCaseIgnorable).head?.map isCased).getD false

/-- The small form of a capital sigma, given the characters in front of it, nearest first, and
those behind it: final when cased text goes before and none follows. -/
def lowerSigma (before after : Text) : Char :=
  if startsCased before && !startsCased after then 'ς' else 'σ'

/-- The small form of a text that stands behind the characters `before`, nearest first. -/
def lowerAfter (before : Text) : Text → Text
  | [] => []
  | c :: rest =>
    (if c = 'Σ' then [lowerSigma before rest] else lowerChar c) ++ lowerAfter (c :: before) rest

/-- The text in small letters. -/
def lower (t : Text) : Text :=
  lowerAfter [] t

theorem upper_append (s t : Text) : upper (s ++ t) = upper s ++ upper t := by
  simp [upper]

end LinkTemplate.Text
