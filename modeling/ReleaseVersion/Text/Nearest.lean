import ReleaseVersion.Text.Decimal

/-!
# The nearest double

The value of a decimal number as a double, rounded once.
-/

namespace ReleaseVersion.Text

/-- The double nearest to `digits * 10 ^ exponent`.  Beyond four hundred places on either side it
is infinite or zero. -/
def nearest (digits : List Char) (exponent : Int) : Float :=
  let n := Nat.ofDigitChars 10 digits 0
  let places := (decimal n).length + exponent
  if n = 0 ∨ places < -400 then 0
  else if 400 < places then Float.ofScientific 1 false 400
  else
    match exponent with
    | .ofNat e => Float.ofScientific n false e
    | .negSucc e => Float.ofScientific n true (e + 1)

end ReleaseVersion.Text
