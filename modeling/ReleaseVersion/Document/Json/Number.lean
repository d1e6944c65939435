import ReleaseVersion.Document.Scalar
import ReleaseVersion.Text.Shortest

/-!
# Numbers of JSON documents

The parts of a number literal, and the value it is given.  An integer within a machine word stays
an integer.  Everything else becomes a double by collecting digits while they fit into a word and
scaling the result once by a power of ten; a literal that is too large for a double has no value.
-/

namespace ReleaseVersion.Document.Json

open Text

/-- The parts of a number literal. -/
structure Literal where
  negative : Bool
  whole : List Char
  /-- The digits after the point, at least one where there is a point. -/
  fraction : List Char
  /-- The sign and the digits of the exponent. -/
  exponent : Option (Bool × List Char)
deriving DecidableEq, Repr

namespace Literal

/-- The value of a digit. -/
def digit (c : Char) : Nat :=
  c.toNat - '0'.toNat

/-- Digits collected into a word: the word, and how many digits did not fit. -/
def collect (word : Nat) : List Char → Nat × Nat
  | [] => (word, 0)
  | c :: rest =>
    let next := word * 10 + digit c
    if next ≤ unsignedLimit then collect next rest else (word, rest.length + 1)

/-- The double nearest to a power of ten that a double can hold. -/
def powerOfTen (n : Nat) : Float :=
  Float.ofScientific 1 false n

/-- The largest exponent of a power of ten that a double can hold. -/
def largestPower : Nat :=
  308

/-- Scales down until the exponent is within reach; zero is reached within a few steps. -/
def scaleDown (x : Float) : Nat → Nat → Float
  | 0, _ => 0
  | steps + 1, n =>
    if n ≤ largestPower then x / powerOfTen n
    else scaleDown (x / powerOfTen largestPower) steps (n - largestPower)

/-- `word * 10 ^ exponent`, when it is not too large. -/
def scale? (word : Nat) (exponent : Int) : Option Float :=
  let x := word.toUInt64.toFloat
  match exponent with
  | .ofNat n =>
    if n ≤ largestPower then
      let scaled := x * powerOfTen n
      if scaled.isInf then none else some scaled
    else if word = 0 then some 0 else none
  | .negSucc n => some (scaleDown x 4 (n + 1))

/-- The exponent that is written. -/
def writtenExponent (literal : Literal) : Int :=
  match literal.exponent with
  | none => 0
  | some (negative, digits) =>
    let n : Int := Nat.ofDigitChars 10 digits 0
    if negative then -n else n

/-- The absolute value as a double, when it is not too large. -/
def magnitude? (literal : Literal) : Option Float :=
  let (word, dropped) := collect 0 literal.whole
  let (all, cut) := collect word literal.fraction
  let places := literal.fraction.length - cut
  scale? all (literal.writtenExponent + dropped - places)

/-- Whether the literal is an integer that a word can hold. -/
def integer? (literal : Literal) : Option Int :=
  if literal.fraction ≠ [] ∨ literal.exponent.isSome then none
  else
    let (word, dropped) := collect 0 literal.whole
    if dropped ≠ 0 then none
    else if !literal.negative then some word
    else if 0 < word ∧ word ≤ signedLimit + 1 then some (-Int.ofNat word)
    else none

/-- What messages call the value, when there is one. -/
def kind? (literal : Literal) : Option String :=
  match literal.integer? with
  | some n => some (integerKind n)
  | none =>
    literal.magnitude?.map fun x =>
      pointKind (floatText Digits.compact (if literal.negative then -x else x))

end Literal

/-- The longest run of digits at the start, and what follows it. -/
def digits (text : List Char) : List Char × List Char :=
  (text.takeWhile Char.isDigit, text.dropWhile Char.isDigit)

/-- The digits after a point, when there is one. -/
def readFraction : List Char → Option (List Char × List Char)
  | '.' :: rest =>
    match digits rest with
    | ([], _) => none
    | found => some found
  | text => some ([], text)

/-- The sign and digits of an exponent, when there is one. -/
def readExponent (text : List Char) : Option (Option (Bool × List Char) × List Char) :=
  let signed (negative : Bool) (rest : List Char) :=
    match digits rest with
    | ([], _) => none
    | (found, rest) => some (some (negative, found), rest)
  match text with
  | 'e' :: '-' :: rest | 'E' :: '-' :: rest => signed true rest
  | 'e' :: '+' :: rest | 'E' :: '+' :: rest => signed false rest
  | 'e' :: rest | 'E' :: rest => signed false rest
  | _ => some (none, text)

/-- Reads a number literal; a zero in front stands alone. -/
def readLiteral (text : List Char) : Option (Literal × List Char) := do
  let (negative, text) := match text with
    | '-' :: rest => (true, rest)
    | _ => (false, text)
  let (whole, text) ← match digits text with
    | ([], _) => none
    | ('0' :: _ :: _, _) => none
    | found => some found
  let (fraction, text) ← readFraction text
  let (exponent, text) ← readExponent text
  some (⟨negative, whole, fraction, exponent⟩, text)

end ReleaseVersion.Document.Json
