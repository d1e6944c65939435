import ReleaseVersion.Config.Decode
import ReleaseVersion.Document.Fault
import ReleaseVersion.Document.Toml.Reader

/-!
# TOML configurations

In TOML a row may stand for a table and may have surplus items.  A refusal shows the line on which
the refused value starts and marks the value, as far as it lies on that line.
-/

namespace ReleaseVersion.Config.Toml

open Document

/-- The customs of the notation. -/
def customs : Customs :=
  ⟨true, false, false⟩

/-- The lines of a text, line feeds removed. -/
def lines (text : List Char) : List (List Char) :=
  ReleaseVersion.Text.pieces '\n' text

/-- The number of bytes of a text. -/
def byteCount (text : List Char) : Nat :=
  (String.ofList text).utf8ByteSize

/-- Spaces. -/
def indent (n : Nat) : String :=
  String.ofList (List.replicate n ' ')

/-- A message below the line it is about, on which a span is marked.  The marks are as many as the
span has bytes, at least one, and do not go past the bytes of the line. -/
def annotate (text : List Char) (span : Span) (message : String) : String :=
  let place := Place.after (fun _ => 1) (text.take span.start)
  let number := toString (place.line + 1)
  let content := ((lines text)[place.line]?).getD []
  let wanted := byteCount ((text.drop span.start).take (span.stop - span.start))
  let count := max 1 (min wanted (byteCount content - place.column))
  let gutter := indent (number.length + 1) ++ "|"
  "TOML parse error at line " ++ number ++ ", column " ++ toString (place.column + 1) ++ "\n" ++
    gutter ++ "\n" ++ number ++ " | " ++ String.ofList content ++ "\n" ++ gutter ++
    indent (place.column + 1) ++ String.ofList (List.replicate count '^') ++ "\n" ++ message ++ "\n"

/-- The configuration that a TOML document describes, once it has been read. -/
def decode (read : List Char → Option (Node Span)) (raw : String) :
    Except Document.Fault Config :=
  let text := raw.toList
  match read text with
  | none => .error .malformed
  | some root =>
    match Config.decode customs root with
    | .ok config => .ok config
    | .error refusal =>
      .error (.refused (annotate text refusal.mark refusal.problem.message))

end ReleaseVersion.Config.Toml
