import ReleaseVersion.Proofs.Number.Grammar
import ReleaseVersion.Proofs.Text.Capitals

/-!
# Numbers with their ASCII capitals made small

The wildcard is the only letter that a number may hold, and it may be of either case.  So a text and
its ASCII lower-case form are the same number, or they are refused alike: a fault differs only where
it quotes the text of a field.
-/

namespace ReleaseVersion

open Text

/-! ## What is quoted -/

/-- The reading with text that is no integer in small letters. -/
def Reading.asciiLower : Reading → Reading
  | .verbatim chars => .verbatim (Text.asciiLower chars)
  | reading => reading

/-- The fault with the text of a field in small letters.  No other fault quotes text as it was
given. -/
def Fault.asciiLower : Fault → Fault
  | .notNumber field given => .notNumber field (String.ofList (Text.asciiLower given.toList))
  | fault => fault

theorem Reading.chars_asciiLower (reading : Reading) :
    reading.asciiLower.chars = Text.asciiLower reading.chars := by
  cases reading with
  | unset => decide
  | wildcard => decide
  | int n => exact (asciiLower_signedDecimal n).symm
  | verbatim chars => rfl

theorem Fault.asciiLower_notNumber (field : Field) (reading : Reading) :
    Fault.asciiLower (.notNumber field reading.text) =
      .notNumber field reading.asciiLower.text := by
  rw [Fault.asciiLower, Reading.text, Reading.text, String.toList_ofList,
    Reading.chars_asciiLower]

theorem Fault.asciiLower_eq_self {fault : Fault}
    (other : ∀ field given, fault ≠ .notNumber field given) : fault.asciiLower = fault := by
  cases fault with
  | notNumber field given => exact absurd rfl (other field given)
  | _ => rfl

section

variable {ε α β : Type} {change : ε → ε}

/-- When both of two steps are alike but for a change of the faults, so are the two together. -/
theorem mapError_bind {first alike : Except ε α} {next nextAlike : α → Except ε β}
    (firstSame : alike = first.mapError change)
    (nextSame : ∀ middle, nextAlike middle = (next middle).mapError change) :
    alike >>= nextAlike = (first >>= next).mapError change := by
  subst firstSame
  cases first with
  | error fault => rfl
  | ok middle => exact nextSame middle

theorem mapError_map (result : Except ε α) (build : α → β) :
    (result.mapError change).map build = (result.map build).mapError change := by
  cases result with
  | error fault => rfl
  | ok value => rfl

theorem mapError_eq_self {result : Except ε α}
    (same : ∀ fault, result = .error fault → change fault = fault) :
    result.mapError change = result := by
  cases result with
  | error fault => exact congrArg Except.error (same fault rfl)
  | ok value => rfl

theorem mapError_eq_ok_iff {result : Except ε α} {value : α} :
    result.mapError change = .ok value ↔ result = .ok value := by
  cases result with
  | error fault =>
      constructor
      · rintro ⟨⟩
      · rintro ⟨⟩
  | ok other => exact Iff.rfl

end

/-! ## One field -/

theorem Token.isWildcardText_asciiLower (chars : List Char) :
    isWildcardText (asciiLower chars) = isWildcardText chars := by
  match chars with
  | [] => rfl
  | [c] => exact apply_toLower (f := fun c => isWildcardText [c]) (by decide +kernel) c
  | c :: d :: rest => simp [isWildcardText, asciiLower_cons]

theorem Token.read_asciiLower (chars : List Char) :
    read (.text (Text.asciiLower chars)) = (read (.text chars)).asciiLower := by
  have numeral : signed? (trim (Text.asciiLower chars)) = signed? (trim chars) := by
    rw [trim_asciiLower, signed?_asciiLower]
  simp only [read, asciiLower_eq_nil_iff, isWildcardText_asciiLower, numeral]
  split
  · rfl
  · split
    · rfl
    · cases signed? (trim chars) with
      | none => rfl
      | some n => rfl

namespace Number

theorem nonNegative_asciiLower (field : Field) (reading : Reading) :
    nonNegative field reading.asciiLower =
      (nonNegative field reading).mapError Fault.asciiLower := by
  have refused := Fault.asciiLower_notNumber field reading
  cases reading with
  | unset => exact congrArg Except.error refused.symm
  | wildcard => exact congrArg Except.error refused.symm
  | verbatim chars => exact congrArg Except.error refused.symm
  | int n =>
      cases n with
      | ofNat n => rfl
      | negSucc n => exact congrArg Except.error refused.symm

theorem map_nonNegative_asciiLower (field : Field) (reading : Reading)
    (build : Nat → Component) :
    (nonNegative field reading.asciiLower).map build =
      ((nonNegative field reading).map build).mapError Fault.asciiLower := by
  rw [nonNegative_asciiLower, mapError_map]

theorem readMajor_asciiLower (chars : List Char) :
    readMajor (.text (asciiLower chars)) =
      (readMajor (.text chars)).mapError Fault.asciiLower := by
  rw [readMajor, readMajor, Token.read_asciiLower]
  cases Token.read (.text chars) with
  | unset => rfl
  | wildcard => rfl
  | int n => exact nonNegative_asciiLower .major (.int n)
  | verbatim chars => exact nonNegative_asciiLower .major (.verbatim chars)

theorem readMinor_asciiLower (chars : List Char) :
    readMinor (.text (asciiLower chars)) =
      (readMinor (.text chars)).mapError Fault.asciiLower := by
  rw [readMinor, readMinor, Token.read_asciiLower]
  cases Token.read (.text chars) with
  | unset => rfl
  | wildcard => rfl
  | int n => exact map_nonNegative_asciiLower .minor (.int n) .exactly
  | verbatim chars => exact map_nonNegative_asciiLower .minor (.verbatim chars) .exactly

theorem readMicro_asciiLower (chars : List Char) :
    readMicro (.text (asciiLower chars)) =
      (readMicro (.text chars)).mapError Fault.asciiLower := by
  rw [readMicro, readMicro, Token.read_asciiLower]
  cases Token.read (.text chars) with
  | unset => rfl
  | wildcard => rfl
  | int n => exact map_nonNegative_asciiLower .micro (.int n) .exactly
  | verbatim chars => exact map_nonNegative_asciiLower .micro (.verbatim chars) .exactly

/-! ## The whole number -/

theorem asciiLower_ofComponents (major : Nat) (minor micro : Component) :
    (ofComponents major minor micro).mapError Fault.asciiLower =
      ofComponents major minor micro := by
  apply mapError_eq_self
  intro fault refused
  apply Fault.asciiLower_eq_self
  rintro field given rfl
  exact ofComponents_ne_notNumber major minor micro field given refused.symm

theorem ofTokens_asciiLower (major minor micro : List Char) :
    ofTokens (.text (asciiLower major)) (.text (asciiLower minor)) (.text (asciiLower micro)) =
      (ofTokens (.text major) (.text minor) (.text micro)).mapError Fault.asciiLower := by
  refine mapError_bind (readMajor_asciiLower major) fun a => ?_
  refine mapError_bind (readMinor_asciiLower minor) fun b => ?_
  refine mapError_bind (readMicro_asciiLower micro) fun c => ?_
  exact (asciiLower_ofComponents a b c).symm

theorem dot_not_mem_asciiLower {text : List Char} (free : '.' ∉ text) : '.' ∉ asciiLower text :=
  not_mem_asciiLower (by decide) free

theorem Divides.asciiLower {text major minor micro : List Char}
    (divides : Divides text major minor micro) :
    Divides (asciiLower text) (asciiLower major) (asciiLower minor) (asciiLower micro) := by
  cases divides with
  | major something free =>
      exact .major (mt asciiLower_eq_nil_iff.mp something) (dot_not_mem_asciiLower free)
  | minor majorFree minorFree =>
      rw [asciiLower_append, asciiLower_cons]
      exact .minor (dot_not_mem_asciiLower majorFree) (dot_not_mem_asciiLower minorFree)
  | micro majorFree minorFree something =>
      rw [asciiLower_append, asciiLower_cons, asciiLower_append, asciiLower_cons]
      exact .micro (dot_not_mem_asciiLower majorFree) (dot_not_mem_asciiLower minorFree)
        (mt asciiLower_eq_nil_iff.mp something)

theorem EndsInDot.asciiLower {text : List Char} (ends : EndsInDot text) :
    EndsInDot (asciiLower text) := by
  obtain ⟨major, minor, majorFree, minorFree, rfl⟩ := ends
  refine ⟨_, _, dot_not_mem_asciiLower majorFree, dot_not_mem_asciiLower minorFree, ?_⟩
  rw [asciiLower_append, asciiLower_cons, asciiLower_append]
  rfl

/-- A text in small letters is the same number as the text, or refused for the same fault. -/
theorem read_asciiLower (chars : List Char) :
    read (asciiLower chars) = (read chars).mapError Fault.asciiLower := by
  by_cases nothing : trim chars = []
  · have nothingSmall : trim (asciiLower chars) = [] := by rw [trim_asciiLower, nothing]; rfl
    simp only [read, if_pos nothing, if_pos nothingSmall]
    rfl
  · rcases exists_divides_or_endsInDot nothing with ⟨major, minor, micro, divides⟩ | ends
    · have small := divides.asciiLower
      rw [← trim_asciiLower] at small
      rw [read_of_divides divides, read_of_divides small, ofTokens_asciiLower]
    · have small := ends.asciiLower
      rw [← trim_asciiLower] at small
      rw [read_of_endsInDot ends, read_of_endsInDot small]
      rfl

end Number

end ReleaseVersion
