import ReleaseVersion.Document.Yaml.Cursor

/-!
# Block scalars

A scalar of whole lines, all indented by the same amount, which the header gives or the first line
that is not empty shows.  In the folded style a line end between two lines that do not start with a
blank becomes a space.  The header also says what becomes of the line ends after the last line.
-/

namespace ReleaseVersion.Document.Yaml

/-- What becomes of the line ends at the end. -/
inductive Chomping where
  /-- All are dropped. -/
  | strip
  /-- The first is kept. -/
  | clip
  /-- All are kept. -/
  | keep
deriving DecidableEq, Repr

/-- The header of a block scalar: what becomes of the end, and how many columns further in than
its surroundings the lines are, if it says so. -/
structure BlockHeader where
  chomping : Chomping
  indent? : Option Nat
deriving DecidableEq, Repr

/-- The chomping of an indicator. -/
def chompingOf? : Char → Option Chomping
  | '+' => some .keep
  | '-' => some .strip
  | _ => none

/-- Reads a digit other than zero, when a digit comes next. -/
def readIndent (cursor : Cursor) : Option (Option Nat × Cursor) :=
  match cursor.rest with
  | c :: _ =>
    if c.isDigit then
      if c = '0' then none else some (some (c.toNat - '0'.toNat), cursor.skip 1)
    else some (none, cursor)
  | [] => some (none, cursor)

/-- Reads a chomping indicator, when one comes next. -/
def readChomping (cursor : Cursor) : Option Chomping × Cursor :=
  match cursor.rest.head?.bind chompingOf? with
  | some chomping => (some chomping, cursor.skip 1)
  | none => (none, cursor)

/-- Reads a header, whose two indicators may come in either order. -/
def readBlockHeader (cursor : Cursor) : Option (BlockHeader × Cursor) := do
  match readChomping cursor with
  | (some chomping, cursor) =>
    let (indent?, cursor) ← readIndent cursor
    some (⟨chomping, indent?⟩, ← cursor.finishLine?)
  | (none, cursor) =>
    match ← readIndent cursor with
    | (none, cursor) => some (⟨.clip, none⟩, ← cursor.finishLine?)
    | (some indent, cursor) =>
      let (chomping?, cursor) := readChomping cursor
      some (⟨chomping?.getD .clip, some indent⟩, ← cursor.finishLine?)

/-- Empty lines: their line ends, last in front, the deepest indentation among them and the line
after them, and the cursor at that line. -/
structure EmptyLines where
  breaks : List Char
  deepest : Nat
  cursor : Cursor

/-- Whether a column is still within the indentation, which is not known yet when it is zero. -/
def isWithin (indent column : Nat) : Bool :=
  indent = 0 || column < indent

/-- Reads empty lines and the indentation of the line after them. -/
def readEmptyLines (indent : Nat) (breaks : List Char) (deepest : Nat) (mark : Mark) :
    List Char → Option EmptyLines
  | [] => some ⟨breaks, max deepest mark.column, ⟨mark, []⟩⟩
  | '\r' :: '\n' :: rest =>
    readEmptyLines indent ('\n' :: breaks) (max deepest mark.column) (mark.newLine 2) rest
  | c :: rest =>
    if c = ' ' && isWithin indent mark.column then
      readEmptyLines indent breaks deepest (mark.skip 1) rest
    else if c = '\t' && isWithin indent mark.column then none
    else if isBreak c then
      readEmptyLines indent (breakText c :: breaks) (max deepest mark.column) (mark.newLine 1)
        rest
    else some ⟨breaks, max deepest mark.column, ⟨mark, c :: rest⟩⟩

/-- What has been read of a block scalar, last character in front. -/
structure BlockLines where
  text : List Char
  /-- The line end of the last line. -/
  last : List Char
  /-- The line ends after that. -/
  breaks : List Char
  /-- Whether the last line starts with a blank. -/
  isBlankLine : Bool

/-- The text with the line ends before the next line, which starts with a blank or does not. -/
def BlockLines.join (folds : Bool) (lines : BlockLines) (startsBlank : Bool) : List Char :=
  if folds && lines.last = ['\n'] && !lines.isBlankLine && !startsBlank then
    lines.breaks ++ (if lines.breaks = [] then [' '] else []) ++ lines.text
  else lines.breaks ++ lines.last ++ lines.text

/-- Reads line after line as long as they are indented by `indent`. -/
def readBlockLines (folds : Bool) (indent : Nat) :
    (fuel : Nat) → BlockLines → Cursor → Option (BlockLines × Cursor)
  | 0, _, _ => none
  | fuel + 1, lines, cursor =>
    match cursor.rest with
    | [] => some (lines, cursor)
    | c :: _ =>
      if cursor.mark.column ≠ indent then some (lines, cursor)
      else do
        let startsBlank := isBlank c
        let before := lines.join folds startsBlank
        let (content, cursor) := cursor.span fun c => !isBreak c
        let (last, cursor) := cursor.readBreak
        let empty ← readEmptyLines indent [] 0 cursor.mark cursor.rest
        readBlockLines folds indent fuel
          ⟨content.reverse ++ before, last, empty.breaks, startsBlank⟩ empty.cursor

/-- Reads a block scalar after its indicator.  `parent` is the indentation of its surroundings,
one less than zero at the top. -/
def readBlock (folds : Bool) (parent : Int) (cursor : Cursor) :
    Option (List Char × Cursor) := do
  let (header, cursor) ← readBlockHeader cursor
  let given := match header.indent? with
    | some n => if 0 ≤ parent then parent.toNat + n else n
    | none => 0
  let empty ← readEmptyLines given [] 0 cursor.mark cursor.rest
  let indent := if given = 0 then max (max empty.deepest (parent + 1).toNat) 1 else given
  let (lines, cursor) ←
    readBlockLines folds indent (cursor.rest.length + 1) ⟨[], [], empty.breaks, false⟩
      empty.cursor
  let text := match header.chomping with
    | .strip => lines.text
    | .clip => lines.last ++ lines.text
    | .keep => lines.breaks ++ lines.last ++ lines.text
  some (text.reverse, cursor)

end ReleaseVersion.Document.Yaml
