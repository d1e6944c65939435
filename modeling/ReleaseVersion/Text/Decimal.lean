/-!
# Decimal text

Writing a natural number in ASCII decimal digits, and the two readings the library knows: with a
sign and with at most a plus.  Both readings refuse a number beyond their limit and leave white
space to the caller.
-/

namespace ReleaseVersion.Text

/-- The decimal digits of `n`, without leading zeros. -/
def decimal (n : Nat) : List Char :=
  Nat.toDigits 10 n

/-- The decimal text of `n`, with a minus sign when it is negative. -/
def signedDecimal : Int → List Char
  | .ofNat n => decimal n
  | .negSucc n => '-' :: decimal (n + 1)

/-- The number that one or more ASCII digits denote. -/
def digitsValue? (text : List Char) : Option Nat :=
  if text ≠ [] ∧ text.all Char.isDigit then some (Nat.ofDigitChars 10 text 0) else none

/-- The largest value of an unsigned machine word. -/
def unsignedLimit : Nat :=
  0xFFFFFFFFFFFFFFFF

/-- The largest value of a signed machine word. -/
def signedLimit : Nat :=
  0x7FFFFFFFFFFFFFFF

/-- Digits with an optional plus sign, up to the limit of an unsigned word. -/
def unsigned? (text : List Char) : Option Nat :=
  let digits := match text with
    | '+' :: rest => rest
    | _ => text
  (digitsValue? digits).filter (· ≤ unsignedLimit)

/-- Digits with an optional sign, within the limits of a signed word. -/
def signed? : List Char → Option Int
  | '+' :: rest => ((digitsValue? rest).filter (· ≤ signedLimit)).map Int.ofNat
  | '-' :: rest => ((digitsValue? rest).filter (· ≤ signedLimit + 1)).map fun n => -Int.ofNat n
  | text => ((digitsValue? text).filter (· ≤ signedLimit)).map Int.ofNat

theorem decimal_ne_nil (n : Nat) : decimal n ≠ [] :=
  Nat.toDigits_ne_nil

/-- Reading digits gives a value exactly when there is at least one and all are ASCII digits. -/
theorem digitsValue?_eq_some_iff {text : List Char} {n : Nat} :
    digitsValue? text = some n ↔
      text ≠ [] ∧ (∀ c ∈ text, c.isDigit = true) ∧ Nat.ofDigitChars 10 text 0 = n := by
  unfold digitsValue?
  split
  · rename_i digits
    simp only [List.all_eq_true] at digits
    simp [digits.1]
    exact fun _ c member => digits.2 c member
  · rename_i others
    simp only [List.all_eq_true, not_and] at others
    simp only [reduceCtorEq, false_iff, not_and]
    exact fun nonempty digits => absurd digits (others nonempty)

end ReleaseVersion.Text
