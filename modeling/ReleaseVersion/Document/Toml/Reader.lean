import ReleaseVersion.Document.Toml.Number
import ReleaseVersion.Document.Toml.Table
import ReleaseVersion.Document.Toml.Text

/-!
# Reading TOML documents

A document is a sequence of lines, each of which is blank, assigns a value to a key, or opens a
table.  Lines are read one after the other and change the tables built so far; the first that does
not fit makes the whole text no document.
-/

namespace ReleaseVersion.Document.Toml

open Text

/-- Rows, braces and dotted keys may be nested less deeply than this. -/
def depthLimit : Nat :=
  80

/-- The span between two places, given by the texts that follow them. -/
def spanOf (total : Nat) (before after : List Char) : Span :=
  ⟨total - before.length, total - after.length⟩

/-! ## Keys -/

/-- Reads the parts of a key between dots, with blanks around each. -/
def readParts (total : Nat) : (fuel : Nat) → List Char → Option (List (Key Span) × List Char)
  | 0, _ => none
  | fuel + 1, text => do
    let text := skipBlanks text
    let (chars, after) ← readKeyPart text
    let name := String.ofList chars
    let key : Key Span := ⟨spanOf total text after, some name, name, "string"⟩
    match skipBlanks after with
    | '.' :: rest => do
      let (keys, rest) ← readParts total fuel rest
      some (key :: keys, rest)
    | rest => some ([key], rest)

/-- Reads a key and divides it into the path and the last part. -/
def readKey (total : Nat) (text : List Char) :
    Option (List (Key Span) × Key Span × List Char) := do
  let (keys, rest) ← readParts total (text.length + 1) text
  let last ← keys.getLast?
  if keys.length ≤ depthLimit then some (keys.dropLast, last, rest) else none

/-! ## Values -/

/-- A moment serves where a table is wanted, as one without entries of use. -/
def momentScalar : Scalar :=
  ⟨none, .given, true, "map"⟩

/-- Reads a moment, a number, or one of the two truth values. -/
def readPlainScalar (text : List Char) : Option (Scalar × List Char) :=
  match text with
  | 't' :: 'r' :: 'u' :: 'e' :: rest => some (Scalar.ofKind (booleanKind true), rest)
  | 'f' :: 'a' :: 'l' :: 's' :: 'e' :: rest =>
      some (Scalar.ofKind (booleanKind false), rest)
  | _ =>
    match readMoment text with
    | .found rest => some (momentScalar, rest)
    | .broken => none
    | .absent => (readNumeral text).map fun read => (Scalar.ofKind read.1.kind, read.2)

/-- A string as a scalar. -/
def stringScalar (chars : List Char) : Scalar :=
  Scalar.ofText (String.ofList chars)

/-- Reads a scalar. -/
def readScalar (total : Nat) (text : List Char) : Option (Node Span × List Char) :=
  match text with
  | '"' :: _ | '\'' :: _ =>
    (readString text).map fun read =>
      (.scalar (spanOf total text read.2) (stringScalar read.1), read.2)
  | _ =>
    (readPlainScalar text).map fun read =>
      (.scalar (spanOf total text read.2) read.1, read.2)

mutual

/-- Reads a value inside of `depth` rows and braces. -/
def readValue (total : Nat) : (fuel depth : Nat) → List Char → Option (Node Span × List Char)
  | 0, _, _ => none
  | fuel + 1, depth, text =>
    match text with
    | '[' :: rest =>
      if depth + 1 < depthLimit then do
        let (items, after) ← readItems total fuel (depth + 1) rest
        some (.row (spanOf total text after) items, after)
      else none
    | '\x7b' :: rest =>
      if depth + 1 < depthLimit then do
        let (table, after) ← readBraces total fuel (depth + 1) rest
        some (.table (spanOf total text after) (entryNodes table.entries), after)
      else none
    | _ => readScalar total text

/-- Reads the items of a row up to its closing bracket; a comma may follow the last. -/
def readItems (total : Nat) :
    (fuel depth : Nat) → List Char → Option (List (Node Span) × List Char)
  | 0, _, _ => none
  | fuel + 1, depth, text => do
    match ← skipFill false text with
    | ']' :: rest => some ([], rest)
    | text => do
      let (node, after) ← readValue total fuel depth text
      match ← skipFill false after with
      | ',' :: rest => do
        let (nodes, rest) ← readItems total fuel depth rest
        some (node :: nodes, rest)
      | ']' :: rest => some ([node], rest)
      | _ => none

/-- Reads what is between braces. -/
def readBraces (total : Nat) : (fuel depth : Nat) → List Char → Option (Table × List Char)
  | 0, _, _ => none
  | fuel + 1, depth, text =>
    match skipBlanks text with
    | '\x7d' :: rest => some (Table.empty .own, rest)
    | text => readAssignments total fuel depth (Table.empty .own) text

/-- Reads assignments between commas up to the closing brace, and makes them. -/
def readAssignments (total : Nat) :
    (fuel depth : Nat) → Table → List Char → Option (Table × List Char)
  | 0, _, _, _ => none
  | fuel + 1, depth, table, text => do
    let (path, key, rest) ← readKey total text
    let rest ← expect '=' rest
    let (node, after) ← readValue total fuel depth (skipBlanks rest)
    let table ← assign path key node table
    match skipBlanks after with
    | ',' :: rest => readAssignments total fuel depth table rest
    | '\x7d' :: rest => some (table, rest)
    | _ => none

end

/-! ## Lines -/

/-- The tables built so far, and the table that assignments go to. -/
structure Progress where
  root : Table
  /-- The path of the latest header. -/
  current : List (Key Span)

/-- Changes the table of the latest header. -/
def Progress.change (progress : Progress) (change : Table → Option Table) : Option Progress :=
  (changeAt .passed change progress.current progress.root).map fun root =>
    { progress with root := root }

/-- Reads a line that assigns a value, and makes the assignment. -/
def readAssignment (total : Nat) (progress : Progress) (text : List Char) :
    Option (Progress × List Char) := do
  let (path, key, rest) ← readKey total text
  let rest ← expect '=' rest
  let rest := skipBlanks rest
  let (node, after) ← readValue total (3 * rest.length + 3) 0 rest
  let next ← finishLine false after
  let progress ← progress.change fun table =>
    (assign path key node table).map (lengthen node.mark.stop)
  some (progress, next)

/-- Reads a line that opens a table, and opens it. -/
def readHeader (total : Nat) (progress : Progress) (text : List Char) :
    Option (Progress × List Char) :=
  match text with
  | '[' :: '[' :: rest => do
    let (path, key, rest) ← readKey total rest
    let after ← expect ']' (← expect ']' rest)
    let next ← finishLine false after
    let root ← openRow path key (spanOf total text after) progress.root
    some (⟨root, path ++ [key]⟩, next)
  | '[' :: rest => do
    let (path, key, rest) ← readKey total rest
    let after ← expect ']' rest
    let next ← finishLine false after
    let root ← openTable path key (spanOf total text after) progress.root
    some (⟨root, path ++ [key]⟩, next)
  | _ => none

/-- Reads line after line. -/
def readLines (total : Nat) : (fuel : Nat) → Progress → List Char → Option Table
  | 0, _, _ => none
  | fuel + 1, progress, text =>
    match skipBlanks text with
    | [] => some progress.root
    | text =>
      match text with
      | '[' :: _ => do
        let (progress, rest) ← readHeader total progress text
        readLines total fuel progress rest
      | c :: _ =>
        if c = '#' ∨ c = '\n' ∨ c = '\r' then do
          let rest ← finishLine false text
          readLines total fuel progress rest
        else do
          let (progress, rest) ← readAssignment total progress text
          readLines total fuel progress rest
      | [] => some progress.root

/-- The text without the mark that may stand at the start of a file. -/
def dropFileMark : List Char → List Char
  | c :: rest => if c.toNat = 0xFEFF then rest else c :: rest
  | [] => []

/-- Reads a document. -/
def read (text : List Char) : Option (Node Span) := do
  let root ← readLines text.length (text.length + 1) ⟨Table.empty .own, []⟩ (dropFileMark text)
  some (.table ⟨0, text.length⟩ (entryNodes root.entries))

end ReleaseVersion.Document.Toml
