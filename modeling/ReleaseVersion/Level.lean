import ReleaseVersion.Fault
import ReleaseVersion.Text.Lower
import ReleaseVersion.Text.White

/-!
# Release levels

A version is final, or a dev release that carries a *dev tag*: the name of a stage and a serial
counted from one.  A tag keeps the text it was written with, so `beta2` and `beta02` are different
levels of the same stage and serial.
-/

namespace ReleaseVersion

open Text

/-- The stages before a final release. -/
inductive Stage where
  | alpha
  | beta
  | candidate
deriving DecidableEq, Repr

namespace Stage

/-- All stages in the order they are tried; no name is the start of another. -/
def all : List Stage :=
  [alpha, beta, candidate]

/-- The name of a stage as characters. -/
def chars : Stage → List Char
  | alpha => ['a', 'l', 'p', 'h', 'a']
  | beta => ['b', 'e', 't', 'a']
  | candidate => ['r', 'c']

/-- The name of a stage. -/
def name (stage : Stage) : String :=
  String.ofList stage.chars

/-- The stage a text starts with, and what follows its name. -/
def cut? (text : List Char) : Option (Stage × List Char) :=
  all.findSome? fun stage => (stage.chars.isPrefixOf? text).map fun rest => (stage, rest)

end Stage

/-- A stage and a serial, with the text that gave them. -/
structure DevTag where
  stage : Stage
  serial : Nat
  text : String
deriving DecidableEq, Repr

/-- Reads a dev tag as it is written: a stage name in small letters and, white space around it
ignored, an unsigned number of at least one. -/
def DevTag.read? (text : List Char) : Option DevTag :=
  match Stage.cut? text with
  | none => none
  | some (stage, rest) =>
    match unsigned? (trim rest) with
    | some (n + 1) => some ⟨stage, n + 1, String.ofList text⟩
    | _ => none

/-- Whether a text is a dev tag as it is written. -/
def isDevTag (text : List Char) : Bool :=
  (DevTag.read? text).isSome

/-- How far along a release is. -/
inductive Level where
  | final
  | dev (tag : DevTag)
deriving DecidableEq, Repr

namespace Level

/-- The word for a final release. -/
def finalWord : List Char :=
  ['f', 'i', 'n', 'a', 'l']

/-- Reads a level, in letters of any case.  An empty text means final. -/
def read (raw : List Char) : Except Fault Level :=
  let level := lower raw
  if level = [] ∨ level = finalWord then .ok final
  else
    match DevTag.read? level with
    | some tag => .ok (dev tag)
    | none => .error (.unknownLevel (String.ofList level))

/-- Reads a level from a string. -/
def parse (raw : String) : Except Fault Level :=
  read raw.toList

/-- The canonical text: the word for final, or the tag as it was kept. -/
def text : Level → String
  | final => String.ofList finalWord
  | dev tag => tag.text

/-- The canonical text as characters. -/
def chars (level : Level) : List Char :=
  level.text.toList

/-- The dev tag of a release that is not final. -/
def tag? : Level → Option DevTag
  | final => none
  | dev tag => some tag

end Level

end ReleaseVersion
