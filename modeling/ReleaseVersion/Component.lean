import ReleaseVersion.Text.Decimal

/-!
# Components of a version number

A version number has a major, a minor and a micro field.  The major is always a number; minor and
micro are *components*: a number, the wildcard, or nothing at all.
-/

namespace ReleaseVersion

open Text

/-- The three fields of a version number. -/
inductive Field where
  | major
  | minor
  | micro
deriving DecidableEq, Repr

/-- The name of a field in messages. -/
def Field.name : Field → String
  | .major => "major"
  | .minor => "minor"
  | .micro => "micro"

/-- The value of a minor or micro field. -/
inductive Component where
  /-- Exactly this number. -/
  | exactly (n : Nat)
  /-- Any number, asked for by a wildcard. -/
  | wildcard
  /-- Nothing was given. -/
  | unset
deriving DecidableEq, Repr

namespace Component

/-- The number, when there is one. -/
def value? : Component → Option Nat
  | exactly n => some n
  | _ => none

/-- The canonical spelling: decimal digits, `x`, or nothing. -/
def chars : Component → List Char
  | exactly n => decimal n
  | wildcard => ['x']
  | unset => []

/-- The canonical spelling as a string. -/
def text (component : Component) : String :=
  String.ofList component.chars

@[simp]
theorem value?_eq_some_iff {component : Component} {n : Nat} :
    component.value? = some n ↔ component = exactly n := by
  cases component <;> simp [value?]

end Component

end ReleaseVersion
