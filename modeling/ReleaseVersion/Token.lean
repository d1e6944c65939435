import ReleaseVersion.Component
import ReleaseVersion.Text.White

/-!
# Tokens

What a field is given as, before any rule of that field applies.  Reading a token sorts it into
nothing, a wildcard, an integer or plain text, and never fails: which of these a field accepts is
the field's own affair.
-/

namespace ReleaseVersion

open Text

/-- The raw content of one field. -/
inductive Token where
  /-- No content at all. -/
  | absent
  /-- A signed machine integer. -/
  | int (n : Int)
  /-- Text that has not been looked at yet. -/
  | text (chars : List Char)
deriving DecidableEq, Repr

/-- What a token turns out to be. -/
inductive Reading where
  | unset
  | wildcard
  | int (n : Int)
  /-- Text that is no integer, kept as it was given. -/
  | verbatim (chars : List Char)
deriving DecidableEq, Repr

namespace Token

/-- The spellings of the wildcard; white space around them is not allowed. -/
def isWildcardText (chars : List Char) : Bool :=
  chars = ['x'] || chars = ['X'] || chars = ['*']

/-- Sorts a token.  Empty text counts as absent, and white space around an integer is ignored. -/
def read : Token → Reading
  | absent => .unset
  | int n => .int n
  | text chars =>
    if chars = [] then .unset
    else if isWildcardText chars then .wildcard
    else
      match signed? (trim chars) with
      | some n => .int n
      | none => .verbatim chars

/-- The token that spells a component: a number beyond the signed machine range is spelt out. -/
def ofComponent : Component → Token
  | .exactly n => if n ≤ signedLimit then int n else text (decimal n)
  | .wildcard => text ['x']
  | .unset => absent

@[simp]
theorem read_absent : read absent = .unset :=
  rfl

@[simp]
theorem read_int (n : Int) : read (int n) = .int n :=
  rfl

@[simp]
theorem read_text_nil : read (text []) = .unset :=
  rfl

end Token

namespace Reading

/-- The canonical spelling of what was read. -/
def chars : Reading → List Char
  | unset => "<unset>".toList
  | wildcard => ['x']
  | int n => signedDecimal n
  | verbatim chars => chars

/-- The canonical spelling as a string. -/
def text (reading : Reading) : String :=
  String.ofList reading.chars

end Reading

end ReleaseVersion
