import ReleaseVersion.Level
import ReleaseVersion.Number

/-!
# Versions

A version is a number without open fields, a release level, and possibly the platform it was built
for: `1.2.3-beta2-xenial-amd64`.  The level is written only when it is not final, a zero micro is
not written before a level, and series and arch are given together or not at all.
-/

namespace ReleaseVersion

open Text

/-- The target of a build. -/
structure Platform where
  series : String
  arch : String
deriving DecidableEq, Repr

/-- A complete version. -/
structure Version where
  number : Number
  level : Level
  platform : Option Platform
deriving DecidableEq, Repr

namespace Version

/-- The series of the platform. -/
def series? (version : Version) : Option String :=
  version.platform.map Platform.series

/-- The arch of the platform. -/
def arch? (version : Version) : Option String :=
  version.platform.map Platform.arch

/-! ## Construction -/

/-- The texts that follow the number.  A label that is absent and one that is empty are the
same. -/
structure Labels where
  level : List Char
  series : List Char
  arch : List Char
deriving DecidableEq, Repr

namespace Labels

/-- Labels from optional strings. -/
def ofOptions (level series arch : Option String) : Labels where
  level := (level.getD "").toList
  series := (series.getD "").toList
  arch := (arch.getD "").toList

/-- Nothing follows the number. -/
def none : Labels :=
  ⟨[], [], []⟩

end Labels

/-- The platform that two labels name, both in small letters. -/
def readPlatform (series arch : List Char) : Except Fault (Option Platform) :=
  match lower series, lower arch with
  | [], [] => .ok none
  | series, [] => .error (.missingArch (String.ofList series))
  | [], arch => .error (.missingSeries (String.ofList arch))
  | series, arch => .ok (some ⟨String.ofList series, String.ofList arch⟩)

/-- A version from a number and its labels: the number must have no open field, then the level is
read, then the platform. -/
def ofParts (number : Number) (labels : Labels) : Except Fault Version := do
  if number.isOpen then .error (.openNumber number.text)
  else
    let level ← Level.read labels.level
    let platform ← readPlatform labels.series labels.arch
    .ok ⟨number, level, platform⟩

/-- A version from the text of a number and labels. -/
def ofText (number : String) (labels : Labels) : Except Fault Version := do
  ofParts (← Number.parse number) labels

/-- Divides the text after the number: one piece is a level, two pieces are series and arch, and
of more the arch takes all that follows the second dash. -/
def divideLabels (text : List Char) : Labels :=
  match cut? '-' text with
  | none => ⟨text, [], []⟩
  | some (first, rest) =>
    match cut? '-' rest with
    | none => ⟨[], first, rest⟩
    | some (second, rest) => ⟨first, second, rest⟩

/-- The number with a zero micro, when it has none and the level as written is a dev tag. -/
def supplyMicro (number : Number) (level : List Char) : Except Fault Number :=
  if number.micro = .unset ∧ isDevTag level then number.withMicro (.exactly 0) else .ok number

/-- Reads a version: a number, and after a dash its labels. -/
def read (chars : List Char) : Except Fault Version :=
  match cut? '-' chars with
  | none => do ofParts (← Number.read chars) .none
  | some (number, rest) => do
    let number ← Number.read number
    let labels := divideLabels rest
    let number ← supplyMicro number labels.level
    ofParts number labels

/-- Reads a version from a string. -/
def parse (raw : String) : Except Fault Version :=
  read raw.toList

/-! ## Text -/

/-- The number as a version shows it: without a zero micro before a dev tag. -/
def numberChars (version : Version) : List Char :=
  match version.level with
  | .final => version.number.chars
  | .dev _ =>
    if version.number.micro = .exactly 0 then
      decimal version.number.major ++ '.' :: version.number.minor.chars
    else version.number.chars

/-- The level as a version shows it: after a dash, and not at all when final. -/
def levelChars (version : Version) : List Char :=
  match version.level with
  | .final => []
  | .dev tag => '-' :: tag.text.toList

/-- The platform as a version shows it: series and arch, each after a dash. -/
def platformChars (version : Version) : List Char :=
  match version.platform with
  | none => []
  | some platform => '-' :: platform.series.toList ++ '-' :: platform.arch.toList

/-- The canonical text. -/
def chars (version : Version) : List Char :=
  version.numberChars ++ version.levelChars ++ version.platformChars

/-- The canonical text as a string. -/
def text (version : Version) : String :=
  String.ofList version.chars

end Version

end ReleaseVersion
