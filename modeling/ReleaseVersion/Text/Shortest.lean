import ReleaseVersion.Text.Decimal

/-!
# Shortest decimals

The shortest decimal that reads back as a given binary fraction.  A double stands for all numbers
that round to it, so the shortest decimal is the first grid of one, two, … seventeen digits on
which one of the two neighbours of its value lies among these numbers; of two such neighbours the
nearer one is taken.  All comparisons are made between natural numbers.
-/

namespace ReleaseVersion.Text

/-- A positive number `mantissa * 2 ^ exponent`. -/
structure Dyadic where
  mantissa : Nat
  exponent : Int
deriving DecidableEq, Repr

/-- A positive decimal: the digits after a point, which is moved by `point` places to the right. -/
structure Digits where
  digits : List Char
  point : Int
deriving DecidableEq, Repr

namespace Dyadic

/-- The bits of the mantissa of a double. -/
def precision : Nat :=
  53

/-- The smallest exponent of a double. -/
def leastExponent : Int :=
  -1074

/-- `base ^ n` for an exponent that is not negative, and one otherwise. -/
def power (base : Nat) (n : Int) : Nat :=
  Nat.pow base n.toNat

/-- The numerator of the value over `denominator`. -/
def numerator (x : Dyadic) : Nat :=
  x.mantissa * power 2 x.exponent

/-- A power of two that makes the value a fraction. -/
def denominator (x : Dyadic) : Nat :=
  power 2 (-x.exponent)

/-- The place of the first digit: the number of digits before the point, or minus the number of
zeros after it. -/
def place (x : Dyadic) : Int :=
  if x.denominator ≤ x.numerator then (decimal (x.numerator / x.denominator)).length
  else
    let zeros := (decimal ((x.denominator - 1) / x.numerator)).length
    1 - zeros

/-- Compares `d * 10 ^ k` with a quarter of `quarters` units in the last place. -/
def compareQuarters (x : Dyadic) (d : Nat) (k : Int) (quarters : Nat) : Ordering :=
  compare (d * power 10 k * power 2 (2 - x.exponent))
    (quarters * power 2 (x.exponent - 2) * power 10 (-k))

/-- Whether `d * 10 ^ k` rounds to the value: the ends of the interval round to an even
mantissa, and below a power of two the interval is half as long. -/
def covers (x : Dyadic) (d : Nat) (k : Int) : Bool :=
  let below :=
    if x.mantissa = Nat.pow 2 (precision - 1) ∧ leastExponent < x.exponent then 1 else 2
  let low := x.compareQuarters d k (4 * x.mantissa - below)
  let high := x.compareQuarters d k (4 * x.mantissa + 2)
  let even := x.mantissa % 2 = 0
  (low = .gt ∨ (low = .eq ∧ even)) ∧ (high = .lt ∨ (high = .eq ∧ even))

/-- The neighbour of the value on the grid of `10 ^ k` that reads back, the nearer one if both
do. -/
def onGrid? (x : Dyadic) (k : Int) : Option Nat :=
  let d := x.numerator * power 10 (-k) / (x.denominator * power 10 k)
  match x.covers d k, x.covers (d + 1) k with
  | true, false => some d
  | false, true => some (d + 1)
  | false, false => none
  | true, true =>
    let twice := x.compareQuarters (2 * d + 1) k (8 * x.mantissa)
    if twice = .gt ∨ (twice = .eq ∧ d % 2 = 0) then some d else some (d + 1)

/-- Tries grids of more and more digits, `digits` being the next number of them. -/
def search (x : Dyadic) (place : Int) : Nat → Nat → Nat × Int
  | 0, digits => (x.numerator * power 10 (digits - place) / x.denominator, place - digits)
  | tries + 1, digits =>
    match x.onGrid? (place - digits) with
    | some d => (d, place - digits)
    | none => search x place tries (digits + 1)

/-- The shortest decimal that reads back as the value. -/
def shortest (x : Dyadic) : Digits :=
  let (d, k) := x.search x.place 17 1
  let written := decimal d
  { digits := (written.reverse.dropWhile (· = '0')).reverse
    point := written.length + k }

end Dyadic

/-! ## Doubles -/

/-- The absolute value of a double that is finite and not zero. -/
def dyadic? (x : Float) : Option Dyadic :=
  let bits : Nat := x.toBits.toNat % Nat.pow 2 63
  let exponent : Nat := bits / Nat.pow 2 52
  let fraction : Nat := bits % Nat.pow 2 52
  if exponent = 2047 ∨ bits = 0 then none
  else if exponent = 0 then some ⟨fraction, Dyadic.leastExponent⟩
  else some ⟨fraction + Nat.pow 2 52, Int.ofNat exponent - 1075⟩

/-- Whether the sign bit is set. -/
def isNegative (x : Float) : Bool :=
  Nat.pow 2 63 ≤ x.toBits.toNat

/-- Zeros. -/
def zeros (n : Int) : List Char :=
  List.replicate n.toNat '0'

namespace Digits

/-- Digits around a decimal point, at least one on either side. -/
def positional (x : Digits) : List Char :=
  if x.point ≤ 0 then '0' :: '.' :: zeros (-x.point) ++ x.digits
  else if x.digits.length ≤ x.point then
    x.digits ++ zeros (x.point - x.digits.length) ++ ['.', '0']
  else x.digits.take x.point.toNat ++ '.' :: x.digits.drop x.point.toNat

/-- One digit before the point, and a power of ten after an `e`. -/
def scientific (x : Digits) : List Char :=
  let exponent := 'e' :: signedDecimal (x.point - 1)
  match x.digits with
  | [] => exponent
  | [digit] => digit :: exponent
  | digit :: rest => digit :: '.' :: rest ++ exponent

/-- Positional from `10 ^ -5` up to `10 ^ 16`, scientific outside. -/
def compact (x : Digits) : List Char :=
  if -5 < x.point ∧ x.point ≤ 16 then x.positional else x.scientific

end Digits

/-- The text of a double in some layout of its digits. -/
def floatText (layout : Digits → List Char) (x : Float) : String :=
  let sign := if isNegative x then ['-'] else []
  match dyadic? x with
  | some value => String.ofList (sign ++ layout value.shortest)
  | none =>
    if x.isNaN then "NaN"
    else if x.isInf then String.ofList (sign ++ ['i', 'n', 'f'])
    else String.ofList (sign ++ ['0', '.', '0'])

end ReleaseVersion.Text
