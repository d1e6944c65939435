import ReleaseVersion.Config.Decode
import ReleaseVersion.Document.Fault
import ReleaseVersion.Document.Yaml.Value

/-!
# YAML configurations

In YAML a row is no table, and no field may be given twice.  A refusal is placed by the keys that
lead to it and by line and column.  One that is only certain when a text has been understood, or
when a field turns out to be repeated, is placed at the table around it.
-/

namespace ReleaseVersion.Config.Yaml

open Document Document.Yaml

/-- The customs of the notation. -/
def customs : Customs :=
  ⟨false, true, true⟩

/-- How many collections around a value matter to a configuration. -/
def depth : Nat :=
  2

/-- The keys that lead to the place of a refusal, and the place. -/
def placeOf (refusal : Refusal Mark) : List String × Mark :=
  match refusal.problem with
  | .wrongKind _ _ => (refusal.path, refusal.mark)
  | .fault _ => (refusal.path.dropLast, refusal.owner)
  | .repeated _ | .surplus => (refusal.path, refusal.owner)

/-- The wording of a refusal; the root of a document and the start of its text are not named. -/
def message (refusal : Refusal Mark) : String :=
  let (path, mark) := placeOf refusal
  let keys := if path = [] then "" else ".".intercalate path ++ ": "
  let place :=
    if mark.line = 0 ∧ mark.column = 0 then ""
    else " at line " ++ toString (mark.line + 1) ++ " column " ++ toString (mark.column + 1)
  keys ++ refusal.problem.message ++ place

/-- The configuration that a YAML document describes, once it has been read.  Parts without a value
do no harm where the configuration has no use for them. -/
def decode (read : List Char → Option Linked) (raw : String) : Except Document.Fault Config :=
  match read raw.toList with
  | none => .error .malformed
  | some document =>
    match Config.decode customs (document.toNode depth document.root) with
    | .ok config => .ok config
    | .error refusal =>
      if (Value.ofLinked? document).isSome then .error (.refused (message refusal))
      else .error .malformed

end ReleaseVersion.Config.Yaml
