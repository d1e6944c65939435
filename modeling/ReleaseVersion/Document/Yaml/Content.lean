import ReleaseVersion.Document.Scalar
import ReleaseVersion.Text.Hex
import ReleaseVersion.Text.Nearest
import ReleaseVersion.Text.Shortest

/-!
# Contents of YAML scalars

A plain scalar stands for nothing, a truth value, an integer or a number with a point if its text
is one of these, and for its text otherwise.  A tag of the notation overrules this, and then the
text has to fit.
-/

namespace ReleaseVersion.Document.Yaml

open Text

/-- What a scalar stands for. -/
inductive Content where
  | nothing
  | boolean (b : Bool)
  | integer (n : Int)
  | number (x : Float)
  | string (text : String)

namespace Content

/-- What messages call it. -/
def kind : Content → String
  | nothing => "unit value"
  | boolean b => booleanKind b
  | integer n => integerKind n
  | number x => pointKind (floatText Digits.positional x)
  | string text => textKind text

/-! ## Plain texts -/

/-- The words for nothing. -/
def isNothing (text : String) : Bool :=
  text = "null" || text = "Null" || text = "NULL" || text = "~"

/-- The words for truth values. -/
def boolean? (text : String) : Option Bool :=
  if text = "true" ∨ text = "True" ∨ text = "TRUE" then some true
  else if text = "false" ∨ text = "False" ∨ text = "FALSE" then some false
  else none

/-- The value of digits in a base, at least one. -/
def digits? (base : Nat) (text : List Char) : Option Nat :=
  if text = [] then none
  else text.foldlM (fun n c => do
    let digit ← hexDigit? c
    if digit < base then some (n * base + digit) else none) 0

/-- The absolute value of an integer, in decimal or, with a mark in front, in another base. -/
def magnitude? : List Char → Option Nat
  | '0' :: 'x' :: digits => digits? 16 digits
  | '0' :: 'o' :: digits => digits? 8 digits
  | '0' :: 'b' :: digits => digits? 2 digits
  | digits => digits? 10 digits

/-- The text after a plus sign, when there is one. -/
def afterPlus : List Char → List Char
  | '+' :: rest => rest
  | text => text

/-- Whether a text consists of digits and a needless zero in front, after a sign or none. -/
def hasNeedlessZero (text : List Char) : Bool :=
  let unsigned := match text with
    | '-' :: rest => rest
    | _ => afterPlus text
  match unsigned with
  | '0' :: c :: rest => (c :: rest).all Char.isDigit
  | _ => false

/-- The integer that a text is, if it is one of at most 128 bits. -/
def integer? (text : List Char) : Option Int :=
  if hasNeedlessZero text then none
  else
    match text with
    | '-' :: rest => do
      let n ← magnitude? rest
      if n ≤ Nat.pow 2 127 then some (-n) else none
    | _ => do
      let n ← magnitude? (afterPlus text)
      if n < Nat.pow 2 128 then some n else none

/-- The digits of a decimal number around its point, its exponent, and nothing else. -/
def decimalParts? (text : List Char) : Option (List Char × Int) := do
  let whole := text.takeWhile Char.isDigit
  let rest := text.dropWhile Char.isDigit
  let (fraction, rest) := match rest with
    | '.' :: rest => (rest.takeWhile Char.isDigit, rest.dropWhile Char.isDigit)
    | _ => ([], rest)
  if whole = [] ∧ fraction = [] then none
  else
    let exponent ← match rest with
      | [] => some 0
      | c :: rest =>
        if c ≠ 'e' ∧ c ≠ 'E' then none
        else
          match rest with
          | '-' :: rest => (digits? 10 rest).map fun n => -(n : Int)
          | _ => (digits? 10 (afterPlus rest)).map fun n => (n : Int)
    some (whole ++ fraction, exponent - fraction.length)

/-- The finite number that a decimal without a sign is. -/
def finite? (text : List Char) : Option Float := do
  let (digits, exponent) ← decimalParts? text
  let x := nearest digits exponent
  if x.isInf then none else some x

/-- The number that a text is; the words for an infinite and an undefined number start with a
point. -/
def number? (text : List Char) : Option Float :=
  let infinite := [".inf", ".Inf", ".INF"]
  if infinite.contains (String.ofList (afterPlus text)) then some (1 / 0)
  else if (infinite.map ("-" ++ ·)).contains (String.ofList text) then some (-1 / 0)
  else if [".nan", ".NaN", ".NAN"].contains (String.ofList text) then some (0 / 0)
  else
    match text with
    | '-' :: rest => (finite? rest).map (-·)
    | _ => finite? (afterPlus text)

/-- What a plain text stands for. -/
def ofPlain (text : String) : Content :=
  let chars := text.toList
  if text = "" || isNothing text then nothing
  else
    match boolean? text, integer? chars with
    | some b, _ => boolean b
    | none, some n => integer n
    | none, none =>
      if hasNeedlessZero chars then .string text
      else
        match number? chars with
        | some x => number x
        | none => .string text

/-! ## Tags -/

/-- The tag of the notation with a given name. -/
def knownTag (name : String) : String :=
  "tag:yaml.org,2002:" ++ name

/-- The tag of scalars that stand for nothing. -/
def nothingTag : String :=
  knownTag "null"

/-- What a scalar stands for; nothing comes out where the text does not fit the tag. -/
def ofScalar? (tag? : Option String) (isPlain : Bool) (text : String) : Option Content :=
  let untagged := if isPlain then ofPlain text else .string text
  match tag? with
  | none => some untagged
  | some tag =>
    if tag = nothingTag then if isNothing text then some nothing else none
    else if tag = knownTag "bool" then (boolean? text).map boolean
    else if tag = knownTag "int" then (integer? text.toList).map integer
    else if tag = knownTag "float" then (number? text.toList).map number
    else if tag.startsWith "!" then some untagged
    else some (.string text)

/-- Whether an integer has at most 64 bits; other contents always fit. -/
def fitsWord : Content → Bool
  | integer n => -Nat.pow 2 63 ≤ n && n < Nat.pow 2 64
  | _ => true

end Content

/-- What a scalar can be taken for.  Every scalar serves as a text. -/
def scalarOf (tag? : Option String) (isPlain : Bool) (text : String) : Scalar :=
  { text? := some text
    presence :=
      if !isPlain then .given
      else
        match tag? with
        | none => if text = "" || Content.isNothing text then .absent else .given
        | some tag =>
          if tag ≠ Content.nothingTag then .given
          else if Content.isNothing text then .absent
          else .contradictory
    isBlank := isPlain && text = ""
    kind := ((Content.ofScalar? tag? isPlain text).getD (.string text)).kind }

end ReleaseVersion.Document.Yaml
