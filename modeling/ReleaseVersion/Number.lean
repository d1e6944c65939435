import ReleaseVersion.Fault
import ReleaseVersion.Token
import ReleaseVersion.Text.Cut

/-!
# Version numbers

A version number is `major.minor` or `major.minor.micro`.  The minor or the micro may be a
wildcard, and a number without a micro leaves it open just as a wildcard does.  Used as a pattern,
a number accepts every number that agrees with it wherever it is not open.

A number is built by `Number.ofComponents`, which is where the rules that tie the fields together
are checked; the other constructors read their fields first and then call it.
-/

namespace ReleaseVersion

open Text

/-- A version number, possibly with open fields. -/
structure Number where
  major : Nat
  minor : Component
  micro : Component
deriving DecidableEq, Repr

namespace Number

/-! ## Construction -/

/-- Checks the rules between fields: the minor is there, a wildcard minor has no micro after it,
and not every field is zero. -/
def ofComponents (major : Nat) (minor micro : Component) : Except Fault Number :=
  if minor = .unset then .error (.missing .minor)
  else if minor = .wildcard ∧ micro ≠ .unset then .error (.microAfterWildcard micro.text)
  else if major = 0 ∧ minor = .exactly 0 ∧ (micro = .exactly 0 ∨ micro = .unset) then
    .error .allZero
  else .ok ⟨major, minor, micro⟩

/-- The number a field was read as, which must not be negative. -/
def nonNegative (field : Field) (reading : Reading) : Except Fault Nat :=
  match reading with
  | .int (.ofNat n) => .ok n
  | other => .error (.notNumber field other.text)

/-- Reads the major field, which is a number. -/
def readMajor (token : Token) : Except Fault Nat :=
  match token.read with
  | .wildcard => .error .wildcardMajor
  | .unset => .error (.missing .major)
  | reading => nonNegative .major reading

/-- Reads the minor field, which is a number or the wildcard. -/
def readMinor (token : Token) : Except Fault Component :=
  match token.read with
  | .wildcard => .ok .wildcard
  | .unset => .error (.missing .minor)
  | reading => (nonNegative .minor reading).map .exactly

/-- Reads the micro field, which may also be absent. -/
def readMicro (token : Token) : Except Fault Component :=
  match token.read with
  | .wildcard => .ok .wildcard
  | .unset => .ok .unset
  | reading => (nonNegative .micro reading).map .exactly

/-- Reads the fields from left to right and checks the rules between them. -/
def ofTokens (major minor micro : Token) : Except Fault Number := do
  let major ← readMajor major
  let minor ← readMinor minor
  let micro ← readMicro micro
  ofComponents major minor micro

/-- The texts of the three fields: cut at the first two dots, later dots staying with the micro.
There is no such division when nothing follows the second dot. -/
def fields? (chars : List Char) : Option (List Char × List Char × List Char) :=
  match cut? '.' chars with
  | none => some (chars, [], [])
  | some (major, rest) =>
    match cut? '.' rest with
    | none => some (major, rest, [])
    | some (_, []) => none
    | some (minor, micro) => some (major, minor, micro)

/-- Reads a version number, white space around it ignored. -/
def read (chars : List Char) : Except Fault Number :=
  let chars := trim chars
  if chars = [] then .error .empty
  else
    match fields? chars with
    | none => .error (.missing .micro)
    | some (major, minor, micro) => ofTokens (.text major) (.text minor) (.text micro)

/-- Reads a version number from a string. -/
def parse (raw : String) : Except Fault Number :=
  read raw.toList

/-- The number with another micro, checked like a new one. -/
def withMicro (number : Number) (micro : Component) : Except Fault Number :=
  ofComponents number.major number.minor micro

/-! ## Text -/

/-- The canonical text: the fields between dots, an absent micro left out. -/
def chars (number : Number) : List Char :=
  let start := decimal number.major ++ '.' :: number.minor.chars
  match number.micro with
  | .unset => start
  | micro => start ++ '.' :: micro.chars

/-- The canonical text as a string. -/
def text (number : Number) : String :=
  String.ofList number.chars

/-! ## Patterns -/

/-- Whether the minor or the micro is left open. -/
def isOpen (number : Number) : Bool :=
  number.minor = .wildcard || number.micro = .unset || number.micro = .wildcard

/-- The pattern with its open fields taken from the candidate. -/
def fill (pattern candidate : Number) : Number where
  major := pattern.major
  minor := if pattern.minor = .wildcard then candidate.minor else pattern.minor
  micro :=
    if pattern.micro = .unset ∨ pattern.micro = .wildcard then candidate.micro
    else pattern.micro

/-- Whether the candidate agrees with the pattern wherever the pattern is not open. -/
def accepts (pattern candidate : Number) : Bool :=
  pattern.fill candidate = candidate

/-- Whether a text is a number that the pattern accepts. -/
def acceptsText (pattern : Number) (candidate : String) : Except Fault Bool :=
  (parse candidate).map pattern.accepts

/-- The rules between fields, as a property of a number. -/
def WellFormed (number : Number) : Prop :=
  number.minor ≠ .unset ∧ (number.minor = .wildcard → number.micro = .unset) ∧
    ¬(number.major = 0 ∧ number.minor = .exactly 0 ∧
      (number.micro = .exactly 0 ∨ number.micro = .unset))

instance (number : Number) : Decidable number.WellFormed :=
  inferInstanceAs (Decidable (_ ∧ _ ∧ _))

/-- A number is built exactly when its fields obey the rules, and then from these very fields. -/
theorem ofComponents_eq_ok_iff {major : Nat} {minor micro : Component} {number : Number} :
    ofComponents major minor micro = .ok number ↔
      number = ⟨major, minor, micro⟩ ∧ number.WellFormed := by
  unfold ofComponents WellFormed
  constructor
  · intro built
    split at built
    · simp at built
    · rename_i given
      split at built
      · simp at built
      · rename_i closed
        split at built
        · simp at built
        · rename_i nonzero
          injection built with built
          subst built
          refine ⟨rfl, given, fun wild => ?_, nonzero⟩
          exact Decidable.byContradiction fun set => closed ⟨wild, set⟩
  · rintro ⟨rfl, given, closed, nonzero⟩
    simp only at given closed nonzero
    have open_ : ¬(minor = .wildcard ∧ micro ≠ .unset) :=
      fun both => both.2 (closed both.1)
    simp [given, open_, nonzero]

end Number

end ReleaseVersion
