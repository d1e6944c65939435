import ReleaseVersion.Proofs.Text.Lower
import ReleaseVersion.Proofs.Text.Numeral

/-!
# Texts with their ASCII capitals made small

Making the ASCII capitals of a text small touches neither white space nor digits, signs and
separators.  A capital and its small letter have the same lower-case form and are both cased, so
that the sigmas around them become the same too: lower-casing does not see the difference.
-/

namespace ReleaseVersion.Text

/-- The ASCII capitals. -/
def capitals : List Char :=
  (List.range' 65 26).map Char.ofNat

theorem toLower_eq_self_of_not_mem {c : Char} (other : c ∉ capitals) : c.toLower = c := by
  unfold Char.toLower
  split
  · rename_i capital
    have listed : c.toNat ∈ List.range' 65 26 := by
      rw [List.mem_range'_1]
      exact ⟨UInt32.le_iff_toNat_le.mp capital.1,
        Nat.lt_succ_of_le (UInt32.le_iff_toNat_le.mp capital.2)⟩
    exact absurd (List.mem_map.mpr ⟨c.toNat, listed, Char.ofNat_toNat c⟩) other
  · rfl

/-- What does not tell any capital from its small letter does not tell any character from its
ASCII lower-case form. -/
theorem apply_toLower {α : Type} [DecidableEq α] {f : Char → α}
    (same : (capitals.all fun c => f c.toLower = f c) = true) (c : Char) :
    f c.toLower = f c := by
  by_cases capital : c ∈ capitals
  · exact of_decide_eq_true (List.all_eq_true.mp same c capital)
  · rw [toLower_eq_self_of_not_mem capital]

theorem isWhite_toLower (c : Char) : isWhite c.toLower = isWhite c :=
  apply_toLower (by decide +kernel) c

theorem isAlpha_toLower (c : Char) : c.toLower.isAlpha = c.isAlpha :=
  apply_toLower (by decide +kernel) c

theorem isAlpha_of_mem_capitals {c : Char} (capital : c ∈ capitals) : c.isAlpha = true := by
  have letters : capitals.all Char.isAlpha = true := by decide +kernel
  exact List.all_eq_true.mp letters c capital

theorem lowerChar_toLower (c : Char) : lowerChar c.toLower = lowerChar c :=
  apply_toLower (by decide +kernel) c

/-- No letter becomes anything else than a letter. -/
theorem toLower_eq_iff {c d : Char} (plain : d.isAlpha = false) : c.toLower = d ↔ c = d := by
  by_cases capital : c ∈ capitals
  · have letter := isAlpha_of_mem_capitals capital
    constructor
    · rintro rfl
      rw [isAlpha_toLower, letter] at plain
      contradiction
    · rintro rfl
      rw [letter] at plain
      contradiction
  · rw [toLower_eq_self_of_not_mem capital]

/-! ## Texts -/

section

variable {text : List Char}

theorem asciiLower_eq_nil_iff : asciiLower text = [] ↔ text = [] :=
  List.map_eq_nil_iff

theorem asciiLower_cons (c : Char) (rest : List Char) :
    asciiLower (c :: rest) = c.toLower :: asciiLower rest :=
  rfl

theorem asciiLower_append (front back : List Char) :
    asciiLower (front ++ back) = asciiLower front ++ asciiLower back :=
  List.map_append

theorem mem_asciiLower_iff {c : Char} (plain : c.isAlpha = false) :
    c ∈ asciiLower text ↔ c ∈ text := by
  simp only [asciiLower, List.mem_map, toLower_eq_iff plain, exists_eq_right]

theorem not_mem_asciiLower {c : Char} (plain : c.isAlpha = false) (free : c ∉ text) :
    c ∉ asciiLower text :=
  mt (mem_asciiLower_iff plain).mp free

theorem asciiLower_eq_self (same : ∀ c ∈ text, c.toLower = c) : asciiLower text = text := by
  rw [asciiLower, List.map_congr_left same, List.map_id']

/-- A text without letters stays as it is. -/
theorem asciiLower_eq_self_of_plain (plain : ∀ c ∈ text, c.isAlpha = false) :
    asciiLower text = text :=
  asciiLower_eq_self fun c member => (toLower_eq_iff (plain c member)).mpr rfl

/-- So does a text of small characters. -/
theorem asciiLower_eq_self_of_small (small : ∀ c ∈ text, IsSmall c) : asciiLower text = text := by
  have large : (capitals.all fun c => ¬IsSmall c) = true := by decide +kernel
  refine asciiLower_eq_self fun c member => toLower_eq_self_of_not_mem fun capital => ?_
  exact of_decide_eq_true (List.all_eq_true.mp large c capital) (small c member)

/-- What holds only of texts without letters holds of a text in small letters exactly when it holds
of the text. -/
theorem asciiLower_satisfies_iff (P : List Char → Prop)
    (plain : ∀ text, P text → ∀ c ∈ text, c.isAlpha = false) :
    P (asciiLower text) ↔ P text := by
  constructor
  · intro satisfied
    have noLetter : ∀ c ∈ text, c.isAlpha = false := by
      intro c member
      rw [← isAlpha_toLower]
      exact plain _ satisfied _ (List.mem_map_of_mem member)
    rw [asciiLower_eq_self_of_plain noLetter] at satisfied
    exact satisfied
  · intro satisfied
    rw [asciiLower_eq_self_of_plain (plain text satisfied)]
    exact satisfied

end

/-! ## Lower-casing -/

theorem startsCased_asciiLower (text : List Char) :
    startsCased (asciiLower text) = startsCased text := by
  have passedOver := apply_toLower (f := fun c => caseIgnorable.has c.toNat) (by decide +kernel)
  have ignorable : (fun c : Char => caseIgnorable.has c.toNat) ∘ Char.toLower =
      fun c => caseIgnorable.has c.toNat := funext passedOver
  rw [startsCased, asciiLower, List.dropWhile_map, ignorable, startsCased]
  cases text.dropWhile fun c => caseIgnorable.has c.toNat with
  | nil => rfl
  | cons c rest => exact apply_toLower (f := fun c => cased.has c.toNat) (by decide +kernel) c

/-- Lower-casing gives the same for a text and for its ASCII lower-case form. -/
theorem lower_asciiLower (text : List Char) : lower (asciiLower text) = lower text := by
  suffices alike : ∀ before,
      lowerAfter (asciiLower before) (asciiLower text) = lowerAfter before text from alike []
  induction text with
  | nil => exact fun _ => rfl
  | cons c rest inductionHypothesis =>
      intro before
      -- No capital becomes a capital sigma, and the letters around a sigma decide as before.
      have sigma : c.toLower = 'Σ' ↔ c = 'Σ' := toLower_eq_iff (by decide)
      have later := inductionHypothesis (c :: before)
      rw [asciiLower_cons] at later ⊢
      rw [lowerAfter, lowerAfter, startsCased_asciiLower, startsCased_asciiLower,
        lowerChar_toLower, later]
      simp only [sigma]

/-! ## Trimming and numerals -/

theorem trimEnd_asciiLower (text : List Char) :
    trimEnd (asciiLower text) = asciiLower (trimEnd text) := by
  induction text with
  | nil => rfl
  | cons c rest inductionHypothesis =>
      rw [asciiLower_cons, trimEnd, inductionHypothesis, trimEnd, isWhite_toLower]
      cases trimEnd rest with
      | nil => cases isWhite c <;> rfl
      | cons d kept => rfl

theorem trim_asciiLower (text : List Char) : trim (asciiLower text) = asciiLower (trim text) := by
  have white : isWhite ∘ Char.toLower = isWhite := funext isWhite_toLower
  rw [trim, trimStart, asciiLower, List.dropWhile_map, white, ← asciiLower, trimEnd_asciiLower,
    trim, trimStart]

theorem IsSigned.not_letter {text : List Char} {n : Int} (numeral : IsSigned text n) {c : Char}
    (member : c ∈ text) : c.isAlpha = false := by
  rcases numeral.sign_or_digit member with rfl | rfl | digit
  · decide
  · decide
  · exact isAlpha_of_isDigit digit

/-- A signed numeral holds no letters, so that it is read alike in small letters. -/
theorem signed?_asciiLower (text : List Char) : signed? (asciiLower text) = signed? text := by
  ext n
  rw [signed?_eq_some_iff, signed?_eq_some_iff,
    asciiLower_satisfies_iff (IsSigned · n) fun _ numeral _ => numeral.not_letter]

theorem asciiLower_signedDecimal (n : Int) : asciiLower (signedDecimal n) = signedDecimal n := by
  apply asciiLower_eq_self_of_plain
  intro c member
  cases n with
  | ofNat n => exact isAlpha_of_isDigit (isDigit_of_mem_decimal member)
  | negSucc n =>
      rcases List.mem_cons.mp member with rfl | digits
      · decide
      · exact isAlpha_of_isDigit (isDigit_of_mem_decimal digits)

end ReleaseVersion.Text
