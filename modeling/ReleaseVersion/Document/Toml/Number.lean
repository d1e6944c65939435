import ReleaseVersion.Document.Scalar
import ReleaseVersion.Document.Toml.Moment
import ReleaseVersion.Text.Hex
import ReleaseVersion.Text.Nearest
import ReleaseVersion.Text.Shortest

/-!
# Numbers of TOML documents

Integers are signed machine words, in decimal or, with a mark in front, in three other bases; every
other number is a double, of which only one that is too large is refused.  Underscores may stand
between digits.
-/

namespace ReleaseVersion.Document.Toml

open Text

/-- A number with the text that follows it. -/
inductive Numeral where
  | integer (n : Int)
  | float (x : Float)

/-- What messages call a number. -/
def Numeral.kind : Numeral → String
  | integer n => integerKind n
  | float x => pointKind (floatText Digits.positional x)

/-- Reads digits with single underscores between them; the first has been read. -/
def moreDigits (isDigit : Char → Bool) : List Char → Option (List Char × List Char)
  | '_' :: c :: rest =>
    if isDigit c then do
      let (digits, rest) ← moreDigits isDigit rest
      some (c :: digits, rest)
    else none
  | c :: rest =>
    if isDigit c then do
      let (digits, rest) ← moreDigits isDigit rest
      some (c :: digits, rest)
    else if c = '_' then none
    else some ([], c :: rest)
  | [] => some ([], [])

/-- Reads one or more digits with single underscores between them. -/
def someDigits (isDigit : Char → Bool) : List Char → Option (List Char × List Char)
  | c :: rest =>
    if isDigit c then do
      let (digits, rest) ← moreDigits isDigit rest
      some (c :: digits, rest)
    else none
  | [] => none

/-- Reads the digits of a decimal integer, where a zero in front stands alone. -/
def wholeDigits : List Char → Option (List Char × List Char)
  | '0' :: rest => some (['0'], rest)
  | text => someDigits Char.isDigit text

/-- Reads a sign; nothing counts as plus. -/
def readSign : List Char → Bool × List Char
  | '-' :: rest => (true, rest)
  | '+' :: rest => (false, rest)
  | text => (false, text)

/-- Reads the digits after a point, when there is one. -/
def readFraction : List Char → Option (List Char × List Char)
  | '.' :: rest => someDigits Char.isDigit rest
  | text => some ([], text)

/-- Reads an exponent, when there is one. -/
def readExponent : List Char → Option (Option Int × List Char)
  | 'e' :: rest | 'E' :: rest => do
    let (negative, rest) := readSign rest
    let (digits, rest) ← someDigits Char.isDigit rest
    let n : Int := Nat.ofDigitChars 10 digits 0
    some (some (if negative then -n else n), rest)
  | text => some (none, text)

/-- Reads a decimal number. -/
def readDecimal (text : List Char) : Option (Numeral × List Char) := do
  let (negative, text) := readSign text
  let (whole, text) ← wholeDigits text
  let (fraction, text) ← readFraction text
  let (exponent, text) ← readExponent text
  if fraction = [] ∧ exponent = none then do
    let n := Nat.ofDigitChars 10 whole 0
    let n : Int := if negative then -n else n
    if -(signedLimit + 1 : Int) ≤ n ∧ n ≤ signedLimit then some (.integer n, text) else none
  else
    let x := nearest (whole ++ fraction) (exponent.getD 0 - fraction.length)
    if negative then some (.float (-x), text)
    else if x.isInf then none
    else some (.float x, text)

/-- Reads an integer in another base than ten. -/
def readBased (isDigit : Char → Bool) (base : Nat) (text : List Char) :
    Option (Numeral × List Char) := do
  let (digits, text) ← someDigits isDigit text
  let n := digits.foldl (fun n c => n * base + (hexDigit? c).getD 0) 0
  if n ≤ signedLimit then some (.integer n, text) else none

/-- Reads the words for an infinite and an undefined number. -/
def readSpecial (text : List Char) : Option (Numeral × List Char) :=
  let (negative, text) := readSign text
  match text with
  | 'i' :: 'n' :: 'f' :: rest => some (.float (if negative then -1 / 0 else 1 / 0), rest)
  | 'n' :: 'a' :: 'n' :: rest => some (.float (0 / 0), rest)
  | _ => none

/-- Reads a number of any kind. -/
def readNumeral (text : List Char) : Option (Numeral × List Char) :=
  match text with
  | '0' :: 'x' :: rest => readBased (fun c => (hexDigit? c).isSome) 16 rest
  | '0' :: 'o' :: rest => readBased (fun c => '0' ≤ c && c ≤ '7') 8 rest
  | '0' :: 'b' :: rest => readBased (fun c => c = '0' || c = '1') 2 rest
  | _ =>
    match readSpecial text with
    | some read => some read
    | none => readDecimal text

end ReleaseVersion.Document.Toml
