import ReleaseVersion.Proofs.Text.White
import ReleaseVersion.Text.Decimal

/-!
# Numerals

The decimal text of a number holds digits only, so trimming leaves it alone, and both readings
give the number back up to their limits.  Which texts the readings accept, and as what, is said
apart from them: perhaps a sign, and then one or more digits.
-/

namespace ReleaseVersion.Text

/-! ## Digits -/

/-- The ASCII digits. -/
def asciiDigits : List Char :=
  (List.range' 48 10).map Char.ofNat

theorem mem_asciiDigits {c : Char} (digit : c.isDigit = true) : c ∈ asciiDigits := by
  rw [Char.isDigit_iff_toNat] at digit
  have listed : c.toNat ∈ List.range' 48 10 :=
    List.mem_range'_1.mpr ⟨digit.1, Nat.lt_succ_of_le digit.2⟩
  exact List.mem_map.mpr ⟨c.toNat, listed, Char.ofNat_toNat c⟩

/-- What holds of the ASCII digits one by one holds of every digit. -/
theorem of_isDigit {P : Char → Prop} [DecidablePred P]
    (each : (asciiDigits.all fun c => P c) = true) {c : Char} (digit : c.isDigit = true) : P c :=
  of_decide_eq_true (List.all_eq_true.mp each c (mem_asciiDigits digit))

theorem isWhite_of_isDigit {c : Char} (digit : c.isDigit = true) : isWhite c = false :=
  of_isDigit (P := fun c => isWhite c = false) (by decide +kernel) digit

theorem isAlpha_of_isDigit {c : Char} (digit : c.isDigit = true) : c.isAlpha = false :=
  of_isDigit (P := fun c => c.isAlpha = false) (by decide +kernel) digit

theorem isDigit_of_mem_decimal {n : Nat} {c : Char} (member : c ∈ decimal n) :
    c.isDigit = true :=
  Nat.isDigit_of_mem_toDigits (by decide) (by decide) member

/-- One or more digits that denote `n`. -/
def IsDigits (text : List Char) (n : Nat) : Prop :=
  text ≠ [] ∧ (∀ c ∈ text, c.isDigit = true) ∧ Nat.ofDigitChars 10 text 0 = n

theorem isDigits_decimal (n : Nat) : IsDigits (decimal n) n :=
  ⟨decimal_ne_nil n, fun _ => isDigit_of_mem_decimal, Nat.ofDigitChars_ten_toDigits⟩

/-- Digits are read up to the limit. -/
theorem digitsValue?_filter_eq_some_iff {text : List Char} {n limit : Nat} :
    (digitsValue? text).filter (· ≤ limit) = some n ↔ IsDigits text n ∧ n ≤ limit := by
  simp only [Option.filter_eq_some_iff, digitsValue?_eq_some_iff, decide_eq_true_eq, IsDigits]

theorem trim_decimal (n : Nat) : trim (decimal n) = decimal n :=
  trim_eq_self fun _ member => isWhite_of_isDigit (isDigit_of_mem_decimal member)

/-! ## Signed numerals -/

/-- Perhaps a sign, and then one or more digits, that together denote `n`. -/
inductive IsSigned : List Char → Int → Prop
  | plain {digits : List Char} {n : Nat} : IsDigits digits n → IsSigned digits n
  | plus {digits : List Char} {n : Nat} : IsDigits digits n → IsSigned ('+' :: digits) n
  | minus {digits : List Char} {n : Nat} : IsDigits digits n → IsSigned ('-' :: digits) (-n)

theorem IsSigned.sign_or_digit {text : List Char} {n : Int} (numeral : IsSigned text n) {c : Char}
    (member : c ∈ text) : c = '+' ∨ c = '-' ∨ c.isDigit = true := by
  cases numeral with
  | plain digits => exact .inr (.inr (digits.2.1 c member))
  | plus digits =>
      rcases List.mem_cons.mp member with sign | later
      · exact .inl sign
      · exact .inr (.inr (digits.2.1 c later))
  | minus digits =>
      rcases List.mem_cons.mp member with sign | later
      · exact .inr (.inl sign)
      · exact .inr (.inr (digits.2.1 c later))

theorem IsSigned.not_white {text : List Char} {n : Int} (numeral : IsSigned text n) {c : Char}
    (member : c ∈ text) : isWhite c = false := by
  rcases numeral.sign_or_digit member with rfl | rfl | digit
  · decide
  · decide
  · exact isWhite_of_isDigit digit

theorem IsSigned.ne_nil {text : List Char} {n : Int} (numeral : IsSigned text n) : text ≠ [] := by
  cases numeral with
  | plain digits => exact digits.1
  | plus _ => exact List.cons_ne_nil _ _
  | minus _ => exact List.cons_ne_nil _ _

/-- The values of a signed word. -/
def IsWord (n : Int) : Prop :=
  -(signedLimit : Int) - 1 ≤ n ∧ n ≤ signedLimit

@[simp]
theorem isWord_natCast {n : Nat} : IsWord n ↔ n ≤ signedLimit := by
  unfold IsWord
  omega

@[simp]
theorem isWord_neg_natCast {n : Nat} : IsWord (-n) ↔ n ≤ signedLimit + 1 := by
  unfold IsWord
  omega

/-- Text that starts with a digit has no sign to read. -/
theorem signed?_of_digits {text : List Char} (digits : ∀ c ∈ text, c.isDigit = true) :
    signed? text = ((digitsValue? text).filter (· ≤ signedLimit)).map Int.ofNat := by
  unfold signed?
  split
  · exact absurd (digits '+' List.mem_cons_self) (by decide)
  · exact absurd (digits '-' List.mem_cons_self) (by decide)
  · rfl

/-- The reading with a sign accepts the numerals that denote signed words. -/
theorem signed?_eq_some_iff {text : List Char} {n : Int} :
    signed? text = some n ↔ IsSigned text n ∧ IsWord n := by
  constructor
  · intro read
    unfold signed? at read
    -- A minus sign lets one value more in than a plus sign or none.
    split at read
    · obtain ⟨m, found, rfl⟩ := Option.map_eq_some_iff.mp read
      obtain ⟨digits, small⟩ := digitsValue?_filter_eq_some_iff.mp found
      exact ⟨.plus digits, isWord_natCast.mpr small⟩
    · obtain ⟨m, found, rfl⟩ := Option.map_eq_some_iff.mp read
      obtain ⟨digits, small⟩ := digitsValue?_filter_eq_some_iff.mp found
      exact ⟨.minus digits, isWord_neg_natCast.mpr small⟩
    · obtain ⟨m, found, rfl⟩ := Option.map_eq_some_iff.mp read
      obtain ⟨digits, small⟩ := digitsValue?_filter_eq_some_iff.mp found
      exact ⟨.plain digits, isWord_natCast.mpr small⟩
  · rintro ⟨numeral, word⟩
    cases numeral with
    | @plain _ m spelt =>
        have found : (digitsValue? text).filter (· ≤ signedLimit) = some m :=
          digitsValue?_filter_eq_some_iff.mpr ⟨spelt, isWord_natCast.mp word⟩
        rw [signed?_of_digits spelt.2.1, found]
        rfl
    | @plus digits m spelt =>
        have found : (digitsValue? digits).filter (· ≤ signedLimit) = some m :=
          digitsValue?_filter_eq_some_iff.mpr ⟨spelt, isWord_natCast.mp word⟩
        rw [signed?, found]
        rfl
    | @minus digits m spelt =>
        have found : (digitsValue? digits).filter (· ≤ signedLimit + 1) = some m :=
          digitsValue?_filter_eq_some_iff.mpr ⟨spelt, isWord_neg_natCast.mp word⟩
        rw [signed?, found]
        rfl

/-- White space, then perhaps a sign and one or more digits that denote `n`, and white space. -/
def Spells (text : List Char) (n : Int) : Prop :=
  ∃ before numeral after, text = before ++ (numeral ++ after) ∧
    (∀ c ∈ before, isWhite c = true) ∧ IsSigned numeral n ∧ ∀ c ∈ after, isWhite c = true

theorem Spells.white_sign_or_digit {text : List Char} {n : Int} (spelt : Spells text n) {c : Char}
    (member : c ∈ text) : isWhite c = true ∨ c = '+' ∨ c = '-' ∨ c.isDigit = true := by
  obtain ⟨before, numeral, after, rfl, whiteBefore, numeralSpelt, whiteAfter⟩ := spelt
  rw [List.mem_append, List.mem_append] at member
  rcases member with front | number | back
  · exact .inl (whiteBefore c front)
  · exact .inr (numeralSpelt.sign_or_digit number)
  · exact .inl (whiteAfter c back)

theorem Spells.ne_nil {text : List Char} {n : Int} (spelt : Spells text n) : text ≠ [] := by
  obtain ⟨before, numeral, after, rfl, -, numeralSpelt, -⟩ := spelt
  simp [numeralSpelt.ne_nil]

theorem spells_iff {text : List Char} {n : Int} : Spells text n ↔ IsSigned (trim text) n :=
  (trim_satisfies_iff (IsSigned · n) fun _ numeral _ => numeral.not_white).symm

/-- White space around a signed numeral is ignored. -/
theorem signed?_trim_eq_some_iff {text : List Char} {n : Int} :
    signed? (trim text) = some n ↔ Spells text n ∧ IsWord n := by
  rw [signed?_eq_some_iff, spells_iff]

/-- Digits denote one number, and no sign stands before them. -/
theorem IsSigned.eq_of_isDigits {text : List Char} {m : Int} {n : Nat}
    (numeral : IsSigned text m) (digits : IsDigits text n) : m = n := by
  cases numeral with
  | plain same => rw [← same.2.2, ← digits.2.2]
  | plus _ => exact absurd (digits.2.1 '+' List.mem_cons_self) (by decide)
  | minus _ => exact absurd (digits.2.1 '-' List.mem_cons_self) (by decide)

theorem spells_decimal_iff {n : Nat} {m : Int} : Spells (decimal n) m ↔ m = n := by
  rw [spells_iff, trim_decimal]
  constructor
  · exact fun numeral => numeral.eq_of_isDigits (isDigits_decimal n)
  · rintro rfl
    exact .plain (isDigits_decimal n)

/-! ## Unsigned numerals -/

/-- Perhaps a plus sign, and then one or more digits that denote `n`. -/
def IsUnsigned (text : List Char) (n : Nat) : Prop :=
  ∃ digits, (text = digits ∨ text = '+' :: digits) ∧ digits ≠ [] ∧
    (∀ c ∈ digits, c.isDigit = true) ∧ Nat.ofDigitChars 10 digits 0 = n

theorem IsUnsigned.sign_or_digit {text : List Char} {n : Nat} (numeral : IsUnsigned text n)
    {c : Char} (member : c ∈ text) : c = '+' ∨ c.isDigit = true := by
  obtain ⟨digits, rfl | rfl, -, all, -⟩ := numeral
  · exact .inr (all c member)
  · rcases List.mem_cons.mp member with sign | later
    · exact .inl sign
    · exact .inr (all c later)

theorem IsUnsigned.not_white {text : List Char} {n : Nat} (numeral : IsUnsigned text n)
    {c : Char} (member : c ∈ text) : isWhite c = false := by
  rcases numeral.sign_or_digit member with rfl | digit
  · decide
  · exact isWhite_of_isDigit digit

theorem isUnsigned_trim_iff {text : List Char} {n : Nat} :
    IsUnsigned (trim text) n ↔ ∃ before numeral after, text = before ++ (numeral ++ after) ∧
      (∀ c ∈ before, isWhite c = true) ∧ IsUnsigned numeral n ∧ ∀ c ∈ after, isWhite c = true :=
  trim_satisfies_iff (IsUnsigned · n) fun _ numeral _ => numeral.not_white

/-- The reading without a minus sign accepts the numerals up to the largest unsigned word. -/
theorem unsigned?_eq_some_iff {text : List Char} {n : Nat} :
    unsigned? text = some n ↔ IsUnsigned text n ∧ n ≤ unsignedLimit := by
  unfold unsigned? IsUnsigned
  split
  · rename_i rest
    rw [digitsValue?_filter_eq_some_iff]
    refine and_congr_left fun _ => ⟨fun read => ⟨rest, .inr rfl, read⟩, ?_⟩
    rintro ⟨digits, same | same, nonempty, all, value⟩
    · subst same
      exact absurd (all '+' List.mem_cons_self) (by decide)
    · cases same
      exact ⟨nonempty, all, value⟩
  · rename_i unsigned
    rw [digitsValue?_filter_eq_some_iff]
    refine and_congr_left fun _ => ⟨fun read => ⟨text, .inl rfl, read⟩, ?_⟩
    rintro ⟨digits, rfl | same, read⟩
    · exact read
    · exact absurd same (unsigned digits)

end ReleaseVersion.Text
