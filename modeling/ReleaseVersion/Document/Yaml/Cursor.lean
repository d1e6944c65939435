/-!
# Places in YAML documents

The classes of characters that the notation tells apart, and the place up to which a document has
been read.  A line may end in several ways; within a text every ordinary line end counts as a line
feed.
-/

namespace ReleaseVersion.Document.Yaml

/-! ## Characters -/

/-- Whether a document may hold the character at all. -/
def isAllowed (c : Char) : Bool :=
  let n := c.toNat
  n = 0x09 || n = 0x0A || n = 0x0D || (0x20 ≤ n && n ≤ 0x7E) || n = 0x85 ||
    (0xA0 ≤ n && n ≤ 0xD7FF) || (0xE000 ≤ n && n ≤ 0xFFFD) || 0x10000 ≤ n

/-- Spaces and tabs. -/
def isBlank (c : Char) : Bool :=
  c = ' ' || c = '\t'

/-- Characters that end a line. -/
def isBreak (c : Char) : Bool :=
  c = '\n' || c = '\r' || c.toNat = 0x85 || c.toNat = 0x2028 || c.toNat = 0x2029

/-- What a line end counts as within a text. -/
def breakText (c : Char) : Char :=
  if c.toNat = 0x2028 ∨ c.toNat = 0x2029 then c else '\n'

/-- Characters of names. -/
def isNameChar (c : Char) : Bool :=
  c.isAlphanum || c = '_' || c = '-'

/-- Whether a text is over or starts with a blank or a line end. -/
def atGap : List Char → Bool
  | [] => true
  | c :: _ => isBlank c || isBreak c

/-- Whether a text is over or starts with a line end. -/
def atLineEnd : List Char → Bool
  | [] => true
  | c :: _ => isBreak c

/-- Whether a line starts with the mark of a document's start or end. -/
def atDocumentMark : List Char → Bool
  | '-' :: '-' :: '-' :: rest => atGap rest
  | '.' :: '.' :: '.' :: rest => atGap rest
  | _ => false

/-! ## Places -/

/-- A place: full lines before it, characters before it on its line, and characters before it in
all. -/
structure Mark where
  line : Nat
  column : Nat
  index : Nat
deriving DecidableEq, Repr

namespace Mark

/-- The start of a document. -/
def start : Mark :=
  ⟨0, 0, 0⟩

/-- The place after `n` more characters of the same line. -/
def skip (mark : Mark) (n : Nat) : Mark :=
  ⟨mark.line, mark.column + n, mark.index + n⟩

/-- The place after a line end of `n` characters. -/
def newLine (mark : Mark) (n : Nat) : Mark :=
  ⟨mark.line + 1, 0, mark.index + n⟩

end Mark

/-- A place and the text that follows it. -/
structure Cursor where
  mark : Mark
  rest : List Char
deriving DecidableEq, Repr

namespace Cursor

/-- The cursor after `n` characters of the same line. -/
def skip (cursor : Cursor) (n : Nat) : Cursor :=
  ⟨cursor.mark.skip n, cursor.rest.drop n⟩

/-- The cursor after the characters that satisfy a test, and these characters. -/
def span (cursor : Cursor) (test : Char → Bool) : List Char × Cursor :=
  let found := cursor.rest.takeWhile test
  (found, cursor.skip found.length)

/-- The cursor after a line end, if one comes next, and what it counts as. -/
def readBreak (cursor : Cursor) : List Char × Cursor :=
  match cursor.rest with
  | '\r' :: '\n' :: rest => (['\n'], ⟨cursor.mark.newLine 2, rest⟩)
  | c :: rest =>
    if isBreak c then ([breakText c], ⟨cursor.mark.newLine 1, rest⟩) else ([], cursor)
  | [] => ([], cursor)

/-- The cursor after blanks. -/
def skipBlanks (cursor : Cursor) : Cursor :=
  (cursor.span isBlank).2

/-- The cursor after the rest of a line that holds nothing but blanks and a comment. -/
def finishLine? (cursor : Cursor) : Option Cursor :=
  let cursor := cursor.skipBlanks
  let cursor :=
    match cursor.rest with
    | '#' :: _ => (cursor.span fun c => !isBreak c).2
    | _ => cursor
  if atLineEnd cursor.rest then some cursor.readBreak.2 else none

end Cursor

end ReleaseVersion.Document.Yaml
