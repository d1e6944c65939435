import ReleaseVersion.Proofs.Number.RoundTrip

/-!
# Numbers from the tokens of their components

The token that spells a component is read just as the canonical text of that component is.  So
building a number from such tokens agrees with building it from the components themselves only
within the signed words: a larger component is spelt out in its token, and that text is refused.
-/

namespace ReleaseVersion

open Text

/-- The token of a component is read as its canonical text is. -/
theorem Token.read_ofComponent (component : Component) :
    (ofComponent component).read = Token.read (.text component.chars) := by
  cases component with
  | exactly n =>
      by_cases small : n ≤ signedLimit
      · have reads := Reads.int (spells_decimal_iff.mpr rfl) (isWord_natCast.mpr small)
        rw [ofComponent, if_pos small, Component.chars, read_of_reads reads]
        rfl
      · rw [ofComponent, if_neg small, Component.chars]
  | wildcard => rfl
  | unset => rfl

namespace Number

/-- Building a number from the tokens of components comes to building it from their canonical
texts. -/
theorem ofTokens_ofComponent (major : Nat) (minor micro : Component) :
    ofTokens (.ofComponent (.exactly major)) (.ofComponent minor) (.ofComponent micro) =
      ofTokens (.text (decimal major)) (.text minor.chars) (.text micro.chars) := by
  simp only [ofTokens, readMajor, readMinor, readMicro, Token.read_ofComponent]
  rfl

/-- Building a number from components and building it from the tokens that spell them give the
same number or the same fault exactly when no component that is looked at exceeds the signed
words; beside a missing minor the micro is not looked at. -/
theorem ofTokens_ofComponent_eq_ofComponents_iff (major : Nat) (minor micro : Component) :
    ofTokens (.ofComponent (.exactly major)) (.ofComponent minor) (.ofComponent micro) =
        ofComponents major minor micro ↔
      major ≤ signedLimit ∧ minor.AtMost signedLimit ∧
        (minor = .unset ∨ micro.AtMost signedLimit) := by
  rw [ofTokens_ofComponent]
  by_cases majorFits : major ≤ signedLimit
  · have majorRead := readField_of_holds (holds_major majorFits)
    by_cases absent : minor = .unset
    -- Without a minor both refuse alike, whatever the micro holds.
    · subst absent
      have refused : readField .minor (.text []) = .error (.missing .minor) := rfl
      rw [Component.chars, ofTokens_of_badMinor majorRead refused]
      simp [majorFits, ofComponents]
    · by_cases minorFits : minor.AtMost signedLimit
      · have minorRead := readField_of_holds (holds_minor absent minorFits)
        by_cases microFits : micro.AtMost signedLimit
        · have microRead := readField_of_holds (holds_micro microFits)
          have same := @ofTokens_of_fields _ _ _ ⟨major, minor, micro⟩ majorRead minorRead microRead
          simp [same, majorFits, minorFits, microFits]
        · have refused := readField_of_refuses (Field.refuses_chars .micro microFits)
          rw [ofTokens_of_badMicro majorRead minorRead refused]
          simp [ofComponents_ne_notNumber, absent, microFits]
      · have refused := readField_of_refuses (Field.refuses_chars .minor minorFits)
        rw [ofTokens_of_badMinor majorRead refused]
        simp [ofComponents_ne_notNumber, minorFits]
  · have refused := readField_of_refuses (Field.refuses_decimal .major (Nat.lt_of_not_le majorFits))
    rw [ofTokens_of_badMajor refused]
    simp [ofComponents_ne_notNumber, majorFits]

/-- A component just beyond the signed words makes a number, but its token is refused. -/
theorem ofTokens_ofComponent_of_large_major :
    9223372036854775808 ≤ unsignedLimit ∧
      ofComponents 9223372036854775808 (.exactly 2) (.exactly 3) =
        .ok ⟨9223372036854775808, .exactly 2, .exactly 3⟩ ∧
      ofTokens (.ofComponent (.exactly 9223372036854775808)) (.ofComponent (.exactly 2))
          (.ofComponent (.exactly 3)) =
        .error (.notNumber .major "9223372036854775808") :=
  ⟨by decide, rfl, rfl⟩

end Number

end ReleaseVersion
