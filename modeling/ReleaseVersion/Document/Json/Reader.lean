import ReleaseVersion.Document.Json.Literal
import ReleaseVersion.Document.Json.Number
import ReleaseVersion.Document.Node
import ReleaseVersion.Document.Span

/-!
# Reading JSON documents

A document is read into a tree whose marks are spans.  The reader asks for the grammar only; along
with the tree it tells whether every part of it also has a value, that is whether all strings have
a text, all numbers are in range, and nesting stays below its limit.  A document may be used
although an unused part of it has no value.
-/

namespace ReleaseVersion.Document.Json

open Text

/-- Rows and tables may be nested less deeply than this. -/
def depthLimit : Nat :=
  128

/-- A part of a document. -/
structure Part where
  node : Node Span
  /-- Whether everything in it has a value. -/
  hasValue : Bool

/-- White space between the parts of a document. -/
def isSpace (c : Char) : Bool :=
  c = ' ' || c = '\n' || c = '\t' || c = '\r'

/-- The text after white space. -/
def skipSpace (text : List Char) : List Char :=
  text.dropWhile isSpace

/-- A scalar between two places, given by the texts that follow them. -/
def scalarPart (total : Nat) (before after : List Char) (content : Scalar) (hasValue : Bool) :
    Part :=
  ⟨.scalar ⟨total - before.length, total - after.length⟩ content, hasValue⟩

/-- Reads one of the three words. -/
def readWord : List Char → Option (Scalar × List Char)
  | 'n' :: 'u' :: 'l' :: 'l' :: rest => some (Scalar.ofNothing "null", rest)
  | 't' :: 'r' :: 'u' :: 'e' :: rest => some (Scalar.ofKind (booleanKind true), rest)
  | 'f' :: 'a' :: 'l' :: 's' :: 'e' :: rest =>
      some (Scalar.ofKind (booleanKind false), rest)
  | _ => none

/-- A string as a scalar. -/
def stringScalar : Option (List Char) → Scalar
  | some text => Scalar.ofText (String.ofList text)
  | none => Scalar.ofKind (textKind "")

/-- Reads a string, a number or a word. -/
def readScalar (total : Nat) (text : List Char) : Option (Part × List Char) :=
  match text with
  | '"' :: rest => do
    let (pieces, after) ← readPieces rest
    let text? := piecesText? pieces
    some (scalarPart total text after (stringScalar text?) text?.isSome, after)
  | _ =>
    match readWord text with
    | some (content, after) => some (scalarPart total text after content true, after)
    | none => do
      let (literal, after) ← readLiteral text
      let kind? := literal.kind?
      some (scalarPart total text after (Scalar.ofKind (kind?.getD "")) kind?.isSome, after)

/-- Reads the key of an entry and the colon after it. -/
def readKey (total : Nat) (text : List Char) : Option (Key Span × List Char) :=
  match text with
  | '"' :: rest => do
    let (pieces, after) ← readPieces rest
    let name? := (piecesText? pieces).map String.ofList
    let key := ⟨⟨total - text.length, total - after.length⟩, name?, name?.getD "", "string"⟩
    match skipSpace after with
    | ':' :: rest => some (key, skipSpace rest)
    | _ => none
  | _ => none

mutual

/-- Reads a value inside of `depth` rows and tables. -/
def readValue (total : Nat) : (fuel depth : Nat) → List Char → Option (Part × List Char)
  | 0, _, _ => none
  | fuel + 1, depth, text =>
    let span (after : List Char) : Span := ⟨total - text.length, total - after.length⟩
    let shallow := depth + 1 < depthLimit
    match text with
    | '[' :: rest =>
      match skipSpace rest with
      | ']' :: after => some (⟨.row (span after) [], shallow⟩, after)
      | rest => do
        let (parts, after) ← readItems total fuel (depth + 1) rest
        some (⟨.row (span after) (parts.map Part.node), shallow && parts.all Part.hasValue⟩, after)
    | '\x7b' :: rest =>
      match skipSpace rest with
      | '\x7d' :: after => some (⟨.table (span after) [], shallow⟩, after)
      | rest => do
        let (parts, after) ← readEntries total fuel (depth + 1) rest
        some
          (⟨.table (span after) (parts.map fun entry => (entry.1, entry.2.node)),
            shallow && parts.all fun entry => entry.1.name?.isSome && entry.2.hasValue⟩, after)
    | _ => readScalar total text

/-- Reads the items of a row up to its closing bracket. -/
def readItems (total : Nat) : (fuel depth : Nat) → List Char → Option (List Part × List Char)
  | 0, _, _ => none
  | fuel + 1, depth, text => do
    let (part, after) ← readValue total fuel depth text
    match skipSpace after with
    | ',' :: rest =>
      let (parts, after) ← readItems total fuel depth (skipSpace rest)
      some (part :: parts, after)
    | ']' :: rest => some ([part], rest)
    | _ => none

/-- Reads the entries of a table up to its closing brace. -/
def readEntries (total : Nat) :
    (fuel depth : Nat) → List Char → Option (List (Key Span × Part) × List Char)
  | 0, _, _ => none
  | fuel + 1, depth, text => do
    let (key, rest) ← readKey total text
    let (part, after) ← readValue total fuel depth rest
    match skipSpace after with
    | ',' :: rest =>
      let (parts, after) ← readEntries total fuel depth (skipSpace rest)
      some ((key, part) :: parts, after)
    | '\x7d' :: rest => some ([(key, part)], rest)
    | _ => none

end

/-- Reads a document, which is one value with white space around it. -/
def read (text : List Char) : Option Part := do
  let (part, after) ← readValue text.length (2 * text.length + 2) 0 (skipSpace text)
  if skipSpace after = [] then some part else none

end ReleaseVersion.Document.Json
