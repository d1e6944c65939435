import ReleaseVersion.Component
import ReleaseVersion.Text.Quoted

/-!
# Faults of version texts

Why a text, or a choice of parts, is not a version.  Each cause carries what its message shows,
and `Fault.message` is the only place where the wording stands.
-/

namespace ReleaseVersion

/-- The causes for which a version or a version number is refused. -/
inductive Fault where
  /-- The text holds nothing but white space. -/
  | empty
  /-- A field that must be there is not. -/
  | missing (field : Field)
  /-- A field is neither a number that is at least zero nor an allowed wildcard. -/
  | notNumber (field : Field) (given : String)
  /-- The major field is a wildcard. -/
  | wildcardMajor
  /-- A micro stands beside a wildcard minor. -/
  | microAfterWildcard (micro : String)
  /-- Every field is zero or absent. -/
  | allZero
  /-- A version was asked for, but the number leaves a field open. -/
  | openNumber (number : String)
  /-- The release level is neither final nor a dev tag. -/
  | unknownLevel (level : String)
  /-- The series is not one of the known ones. -/
  | unknownSeries (series : String)
  /-- The arch is not one of the known ones. -/
  | unknownArch (arch : String)
  /-- A series stands without an arch. -/
  | missingArch (series : String)
  /-- An arch stands without a series. -/
  | missingSeries (arch : String)
deriving DecidableEq, Repr

namespace Fault

open Text

/-- The wording of each cause. -/
def message : Fault → String
  | empty => "empty version string"
  | missing field => "missing " ++ field.name
  | notNumber field given =>
      field.name ++ " must be a non-negative integer, got " ++ quoted given
  | wildcardMajor => "wildcard not supported for the major version"
  | microAfterWildcard micro => "got unexpected micro (" ++ micro ++ ") with wildcard minor"
  | allZero => "at least one of major, minor, and micro must be set"
  | openNumber number => "wildcard versions not supported (" ++ number ++ ")"
  | unknownLevel level => "invalid releaselevel " ++ quoted level
  | unknownSeries series => "invalid series " ++ quoted series
  | unknownArch arch => "invalid arch " ++ quoted arch
  | missingArch series => "missing arch (have series " ++ quoted series ++ ")"
  | missingSeries arch => "missing series (have arch " ++ quoted arch ++ ")"

end Fault

end ReleaseVersion
