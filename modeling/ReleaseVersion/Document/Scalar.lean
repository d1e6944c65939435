import ReleaseVersion.Text.Decimal
import ReleaseVersion.Text.Quoted

/-!
# Scalars

The leaves of document trees, by what they can be taken for, and the words in which messages speak
of them.
-/

namespace ReleaseVersion.Document

open Text

/-! ## Words for scalars -/

/-- What messages call a truth value. -/
def booleanKind (b : Bool) : String :=
  "boolean " ++ "`" ++ (if b then "true" else "false") ++ "`"

/-- What messages call an integer. -/
def integerKind (n : Int) : String :=
  "integer " ++ "`" ++ String.ofList (signedDecimal n) ++ "`"

/-- What messages call a number that is written with a point. -/
def pointKind (written : String) : String :=
  "floating point " ++ "`" ++ written ++ "`"

/-- What messages call a text. -/
def textKind (text : String) : String :=
  "string " ++ quoted text

/-! ## Scalars -/

/-- Whether a scalar says that something is there. -/
inductive Presence where
  | given
  /-- It says that nothing is there. -/
  | absent
  /-- It says that nothing is there, and yet has a content. -/
  | contradictory
deriving DecidableEq, Repr

/-- What a scalar can be taken for. -/
structure Scalar where
  /-- The text it gives where a text is wanted. -/
  text? : Option String
  presence : Presence
  /-- Whether it may stand for a table without entries. -/
  isBlank : Bool
  /-- What messages call it. -/
  kind : String
deriving DecidableEq, Repr

namespace Scalar

/-- A text. -/
def ofText (text : String) : Scalar :=
  ⟨some text, .given, false, textKind text⟩

/-- A scalar that serves only where its value is not looked at. -/
def ofKind (kind : String) : Scalar :=
  ⟨none, .given, false, kind⟩

/-- A scalar that says that nothing is there. -/
def ofNothing (kind : String) : Scalar :=
  ⟨none, .absent, false, kind⟩

end Scalar

end ReleaseVersion.Document
