import ReleaseVersion.Config.Decode
import ReleaseVersion.Document.Fault
import ReleaseVersion.Document.Json.Reader

/-!
# JSON configurations

In JSON a row may stand for a table, but neither surplus items nor repeated fields are allowed.  A
refusal is placed by line and column, where a column counts the bytes that have been read on the
line when the refusal becomes certain.
-/

namespace ReleaseVersion.Config.Json

open Document Document.Json

/-- The customs of the notation. -/
def customs : Customs :=
  ⟨true, true, true⟩

/-- The number of characters before the first one that is not white space, from a place on. -/
def pastSpace (text : List Char) (offset : Nat) : Nat :=
  offset + ((text.drop offset).takeWhile isSpace).length

/-- How much has been read when the table or row around a refused value has been left: its
closing bracket is read if it comes next, and in a row so is a comma. -/
def pastOwner (text : List Char) (owner value : Span) : Nat :=
  let next := pastSpace text value.stop
  match text[next]? with
  | some '\x7d' | some ']' => next + 1
  | some ',' => if text[owner.start]? = some '[' then pastSpace text (next + 1) else next
  | _ => next

/-- How much has been read when a value turns out to be of the wrong kind: all of a scalar, and
nothing of a row or table. -/
def pastScalar (text : List Char) (value : Span) : Nat :=
  match text[value.start]? with
  | some '[' | some '\x7b' => value.start
  | _ => value.stop

/-- How much has been read when a refusal becomes certain. -/
def readUpTo (text : List Char) (refusal : Refusal Span) : Nat :=
  match refusal.problem with
  | .wrongKind _ _ => pastScalar text refusal.mark
  | .fault _ => pastOwner text refusal.owner refusal.mark
  | .repeated _ => pastSpace text refusal.mark.stop
  | .surplus => refusal.mark.start + 1

/-- A message with the place where it arose. -/
def placed (text : List Char) (message : String) (read : Nat) : String :=
  let place := Place.after Char.utf8Size (text.take read)
  message ++ " at line " ++ toString (place.line + 1) ++ " column " ++ toString place.column

/-- The wording of a refusal. -/
def message (text : List Char) (refusal : Refusal Span) : String :=
  placed text refusal.problem.message (readUpTo text refusal)

/-- The configuration that a JSON document describes, once it has been read.  A part without a value
does no harm where the configuration has no use for it. -/
def decode (read : List Char → Option Part) (raw : String) : Except Document.Fault Config :=
  let text := raw.toList
  match read text with
  | none => .error .malformed
  | some part =>
    match Config.decode customs part.node with
    | .ok config => .ok config
    | .error refusal =>
      if part.hasValue then .error (.refused (message text refusal)) else .error .malformed

/-! ## Versions as JSON strings -/

/-- What a reader makes of a document that is a single string. -/
def decodeString {α : Type} (reader : String → Except ReleaseVersion.Fault α) (raw : String) :
    Except Document.Fault α :=
  let text := raw.toList
  match Document.Json.read text with
  | none => .error .malformed
  | some part =>
    if !part.hasValue then .error .malformed
    else
      match part.node.text? with
      | none =>
        let refusal : Problem := .wrongKind part.node.kind "a string"
        .error (.refused (placed text refusal.message (pastScalar text part.node.mark)))
      | some content =>
        match reader content with
        | .ok value => .ok value
        | .error fault => .error (.refused fault.message)

end ReleaseVersion.Config.Json
