import ReleaseVersion.Document.Yaml.Cursor

/-!
# Folding of lines

A text that goes over several lines is folded: blanks around a line end are dropped, a single line
end becomes a space, and of several in a row the first is dropped.  Blanks within a line are kept.
A gap is what lies between two words of such a text.
-/

namespace ReleaseVersion.Document.Yaml

/-- The gap after the last word so far; texts are kept with the last character in front. -/
structure Gap where
  /-- Blanks, as long as no line end has come. -/
  blanks : List Char
  /-- Whether a line end has come. -/
  isFolded : Bool
  /-- The first line end, unless it was escaped. -/
  first : List Char
  /-- The line ends after the first. -/
  more : List Char
deriving DecidableEq, Repr

namespace Gap

/-- No gap. -/
def none : Gap :=
  ⟨[], false, [], []⟩

/-- The gap after an escaped line end. -/
def escaped : Gap :=
  ⟨[], true, [], []⟩

/-- The gap with one more blank. -/
def addBlank (gap : Gap) (c : Char) : Gap :=
  if gap.isFolded then gap else { gap with blanks := c :: gap.blanks }

/-- The gap with one more line end. -/
def addBreak (gap : Gap) (c : Char) : Gap :=
  if gap.isFolded then { gap with more := c :: gap.more }
  else ⟨[], true, [c], []⟩

/-- What the gap contributes to the text, last character in front. -/
def folded (gap : Gap) : List Char :=
  if !gap.isFolded then gap.blanks
  else if gap.first = ['\n'] then if gap.more = [] then [' '] else gap.more
  else gap.more ++ gap.first

end Gap

end ReleaseVersion.Document.Yaml
