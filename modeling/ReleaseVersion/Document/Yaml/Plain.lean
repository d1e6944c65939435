import ReleaseVersion.Document.Yaml.Folding

/-!
# Plain scalars

A scalar without quotes ends before a comment, before a colon that is followed by a gap, before an
indicator of a collection in brackets, at the mark of a document, and at a line that is not
indented enough.
-/

namespace ReleaseVersion.Document.Yaml

/-- What has been read of a scalar: its words, last character in front, and the gap after them. -/
structure Words where
  text : List Char
  gap : Gap
deriving DecidableEq, Repr

namespace Words

/-- Nothing yet. -/
def none : Words :=
  ⟨[], Gap.none⟩

/-- The words with the gap put in and one more character. -/
def add (words : Words) (c : Char) : Words :=
  ⟨c :: (words.gap.folded ++ words.text), Gap.none⟩

/-- The words with the gap put in. -/
def close (words : Words) : Words :=
  ⟨words.gap.folded ++ words.text, Gap.none⟩

end Words

/-- Indicators of collections in brackets. -/
def isFlowIndicator (c : Char) : Bool :=
  c = ',' || c = '[' || c = ']' || c = '\x7b' || c = '\x7d'

/-- Whether a text starts with a character after which a colon in brackets is a mistake. -/
def atColonMistake : List Char → Bool
  | [] => false
  | c :: _ => isFlowIndicator c || c = '?'

/-- Whether a plain scalar ends before `c`, with `rest` after it. -/
def endsPlain (flow : Bool) (c : Char) (rest : List Char) : Bool :=
  (c = ':' && atGap rest) || (flow && isFlowIndicator c)

/-- Reads on in a plain scalar.  `flow` tells whether it stands in brackets, `indent` how far
further lines have to be indented, and `inWord` whether the last character belongs to a word. -/
def readPlain (flow : Bool) (indent : Nat) (words : Words) (inWord : Bool) (mark : Mark) :
    List Char → Option (Words × Cursor)
  | [] => some (words, ⟨mark, []⟩)
  | '\r' :: '\n' :: rest =>
    readPlain flow indent { words with gap := words.gap.addBreak '\n' } false (mark.newLine 2) rest
  | c :: rest =>
    if isBlank c then
      if words.gap.isFolded && mark.column < indent && c = '\t' then none
      else
        readPlain flow indent { words with gap := words.gap.addBlank c } false (mark.skip 1) rest
    else if isBreak c then
      readPlain flow indent { words with gap := words.gap.addBreak (breakText c) } false
        (mark.newLine 1) rest
    else if !inWord && words.gap ≠ Gap.none && !flow && mark.column < indent then
      some (words, ⟨mark, c :: rest⟩)
    else if !inWord && (c = '#' || (mark.column = 0 && atDocumentMark (c :: rest))) then
      some (words, ⟨mark, c :: rest⟩)
    else if flow && c = ':' && atColonMistake rest then none
    else if endsPlain flow c rest then some (words, ⟨mark, c :: rest⟩)
    else readPlain flow indent (words.add c) true (mark.skip 1) rest

end ReleaseVersion.Document.Yaml
