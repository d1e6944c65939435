import ReleaseVersion.Proofs.Number.Grammar

/-!
# Reading canonical text back

By the grammar of numbers the canonical text of a number falls into its fields again, and each
piece stands for the field it was written for unless that lies beyond the signed words.  The first
such field from the left is then the one that the fault names.
-/

namespace ReleaseVersion

open Text

/-! ## Characters of canonical text -/

theorem Component.isDigit_or_eq_x {component : Component} {c : Char}
    (member : c ∈ component.chars) : c.isDigit = true ∨ c = 'x' := by
  cases component with
  | exactly n => exact .inl (isDigit_of_mem_decimal member)
  | wildcard => exact .inr (by simpa [chars] using member)
  | unset => simp [chars] at member

theorem Component.chars_ne_nil {component : Component} (given : component ≠ .unset) :
    component.chars ≠ [] := by
  cases component with
  | exactly n => exact decimal_ne_nil n
  | wildcard => simp [chars]
  | unset => exact absurd rfl given

theorem Component.not_mem_chars {component : Component} {c : Char} (noDigit : c.isDigit = false)
    (noWildcard : c ≠ 'x') : c ∉ component.chars := by
  intro member
  rcases isDigit_or_eq_x member with digit | wild
  · simp [noDigit] at digit
  · exact noWildcard wild

namespace Number

/-- The canonical text written out: an absent micro has no dot before it. -/
theorem chars_eq (number : Number) :
    number.chars = decimal number.major ++ '.' :: (number.minor.chars ++
      if number.micro = .unset then [] else '.' :: number.micro.chars) := by
  unfold chars
  cases micro : number.micro with
  | exactly n => simp
  | wildcard => simp
  | unset => simp

theorem isDigit_or_mem_of_mem_chars {number : Number} {c : Char} (member : c ∈ number.chars) :
    c.isDigit = true ∨ c = 'x' ∨ c = '.' := by
  rw [chars_eq, List.mem_append, List.mem_cons, List.mem_append] at member
  rcases member with major | dot | minor | micro
  · exact .inl (isDigit_of_mem_decimal major)
  · exact .inr (.inr dot)
  · exact (Component.isDigit_or_eq_x minor).imp_right .inl
  · split at micro
    · simp at micro
    · rcases List.mem_cons.mp micro with dot | micro
      · exact .inr (.inr dot)
      · exact (Component.isDigit_or_eq_x micro).imp_right .inl

theorem dash_not_mem_chars (number : Number) : '-' ∉ number.chars := by
  intro member
  rcases isDigit_or_mem_of_mem_chars member with digit | wild | dot
  · exact absurd digit (by decide)
  · exact absurd wild (by decide)
  · exact absurd dot (by decide)

theorem trim_chars (number : Number) : trim number.chars = number.chars := by
  apply trim_eq_self
  intro c member
  rcases isDigit_or_mem_of_mem_chars member with digit | rfl | rfl
  · exact isWhite_of_isDigit digit
  · decide
  · decide

/-- The canonical text falls into the texts of the fields. -/
theorem divides_chars (number : Number) :
    Divides number.chars (decimal number.major) number.minor.chars number.micro.chars := by
  have dot : ('.' : Char).isDigit = false := by decide
  have majorFree : '.' ∉ (Component.exactly number.major).chars :=
    Component.not_mem_chars dot (by decide)
  have minorFree : '.' ∉ number.minor.chars := Component.not_mem_chars dot (by decide)
  rw [chars_eq]
  by_cases absent : number.micro = .unset
  · rw [if_pos absent, List.append_nil, absent]
    exact .minor majorFree minorFree
  · rw [if_neg absent]
    exact .micro majorFree minorFree (Component.chars_ne_nil absent)

end Number

/-! ## Reading one field back -/

namespace Field

/-- Within the signed words the canonical text of a component stands for it, wherever the field
allows the component at all. -/
theorem holds_chars {field : Field} {component : Component}
    (within : component.AtMost signedLimit) (wildcard : component = .wildcard → field ≠ .major)
    (absent : component = .unset → field = .micro) : field.Holds component.chars component := by
  cases component with
  | exactly n => exact .number (spells_decimal_iff.mpr rfl) (Component.atMost_exactly.mp within)
  | wildcard => exact .wildcard (wildcard rfl) ⟨'x', List.mem_cons_self, rfl⟩
  | unset =>
      rw [absent rfl]
      exact .absent

/-- The decimal text of a number beyond the signed words is refused as it is. -/
theorem refuses_decimal (field : Field) {n : Nat} (beyond : signedLimit < n) :
    field.Refuses (decimal n) (.notNumber field (String.ofList (decimal n))) := by
  refine .unspelt (decimal_ne_nil n) ?_ ?_
  · exact fun wild => wild.not_spells (spells_decimal_iff.mpr rfl)
  · intro m word spelt
    rw [spells_decimal_iff.mp spelt, isWord_natCast] at word
    exact Nat.not_le_of_lt beyond word

/-- So is the text of a component beyond them. -/
theorem refuses_chars (field : Field) {component : Component}
    (beyond : ¬component.AtMost signedLimit) :
    field.Refuses component.chars (.notNumber field component.text) := by
  obtain ⟨n, rfl, large⟩ := Component.exists_of_not_atMost beyond
  exact refuses_decimal field large

end Field

namespace Number

theorem holds_major {n : Nat} (within : n ≤ signedLimit) :
    Field.major.Holds (decimal n) (.exactly n) :=
  Field.holds_chars (Component.atMost_exactly.mpr within) (by simp) (by simp)

theorem holds_minor {minor : Component} (given : minor ≠ .unset)
    (within : minor.AtMost signedLimit) : Field.minor.Holds minor.chars minor :=
  Field.holds_chars within (fun _ => by decide) fun absent => absurd absent given

theorem holds_micro {micro : Component} (within : micro.AtMost signedLimit) :
    Field.micro.Holds micro.chars micro :=
  Field.holds_chars within (fun _ => by decide) fun _ => rfl

/-! ## Reading the number back -/

/-- Counted from the left, the first field of the number that exceeds the limit is this one, and it
holds `n`. -/
inductive Exceeds (limit : Nat) (number : Number) : Field → Nat → Prop
  | major : limit < number.major → Exceeds limit number .major number.major
  | minor {n : Nat} :
      number.major ≤ limit → number.minor = .exactly n → limit < n →
      Exceeds limit number .minor n
  | micro {n : Nat} :
      number.major ≤ limit → number.minor.AtMost limit → number.micro = .exactly n → limit < n →
      Exceeds limit number .micro n

theorem atMost_or_exists_exceeds (limit : Nat) (number : Number) :
    number.AtMost limit ∨ ∃ field n, number.Exceeds limit field n := by
  by_cases major : number.major ≤ limit
  · by_cases minor : number.minor.AtMost limit
    · by_cases micro : number.micro.AtMost limit
      · exact .inl ⟨major, minor, micro⟩
      · obtain ⟨n, held, beyond⟩ := Component.exists_of_not_atMost micro
        exact .inr ⟨_, _, .micro major minor held beyond⟩
    · obtain ⟨n, held, beyond⟩ := Component.exists_of_not_atMost minor
      exact .inr ⟨_, _, .minor major held beyond⟩
  · exact .inr ⟨_, _, .major (Nat.lt_of_not_le major)⟩

/-- The canonical text is read back when every field is within the signed words. -/
theorem read_chars_of_atMost {number : Number} (wellFormed : number.WellFormed)
    (within : number.AtMost signedLimit) : read number.chars = .ok number := by
  obtain ⟨majorFits, minorFits, microFits⟩ := within
  have spelt : Spelt number.chars number :=
    ⟨_, _, _, number.divides_chars, holds_major majorFits, holds_minor wellFormed.1 minorFits,
      holds_micro microFits⟩
  apply read_of_verdict
  rw [trim_chars]
  exact .number spelt wellFormed

/-- Otherwise the leftmost field beyond the signed words is refused, and the fault shows its
decimal text. -/
theorem read_chars_of_exceeds {number : Number} {field : Field} {n : Nat}
    (given : number.minor ≠ .unset) (exceeds : number.Exceeds signedLimit field n) :
    read number.chars = .error (.notNumber field (String.ofList (decimal n))) := by
  have divides := number.divides_chars
  apply read_of_verdict
  rw [trim_chars]
  -- All fields to the left of the one that exceeds are read, so no earlier fault arises.
  cases exceeds with
  | major beyond => exact .badMajor divides (Field.refuses_decimal .major beyond)
  | minor majorFits held beyond =>
      rw [held] at divides
      exact .badMinor divides (holds_major majorFits) (Field.refuses_decimal .minor beyond)
  | micro majorFits minorFits held beyond =>
      rw [held] at divides
      exact .badMicro divides (holds_major majorFits) (holds_minor given minorFits)
        (Field.refuses_decimal .micro beyond)

/-- The canonical text is read back exactly when every field is within the signed words. -/
theorem read_chars_eq_ok_iff {number : Number} (wellFormed : number.WellFormed) :
    read number.chars = .ok number ↔ number.AtMost signedLimit :=
  ⟨atMost_of_read, read_chars_of_atMost wellFormed⟩

theorem parse_text_eq_read_chars (number : Number) : parse number.text = read number.chars := by
  rw [parse, text, String.toList_ofList]

/-- The canonical text of a number from any constructor is read back as that number when no field
exceeds the signed words; otherwise the leftmost field that does is refused, and the fault shows
its decimal text.  So whatever is read from text is read again from its own canonical text, and
the numbers that texts have are just the well-formed ones within the signed words. -/
theorem parse_text_within_signedLimit {number : Number} (origin : number.Obtainable) :
    (number.AtMost signedLimit → parse number.text = .ok number) ∧
      (¬number.AtMost signedLimit → ∃ field n, number.Exceeds signedLimit field n ∧
        parse number.text = .error (.notNumber field (String.ofList (decimal n)))) ∧
      (∀ raw parsed, parse raw = .ok parsed → parse parsed.text = .ok parsed) ∧
      ∀ parsed, (∃ raw, parse raw = .ok parsed) ↔
        parsed.WellFormed ∧ parsed.AtMost signedLimit := by
  refine ⟨fun within => ?_, fun beyond => ?_, fun raw parsed back => ?_, fun parsed => ⟨?_, ?_⟩⟩
  · rw [parse_text_eq_read_chars]
    exact read_chars_of_atMost origin.wellFormed within
  · obtain ⟨field, n, exceeds⟩ := (atMost_or_exists_exceeds signedLimit number).resolve_left beyond
    refine ⟨field, n, exceeds, ?_⟩
    rw [parse_text_eq_read_chars]
    exact read_chars_of_exceeds origin.wellFormed.1 exceeds
  · rw [parse_text_eq_read_chars]
    exact read_chars_of_atMost (wellFormed_of_read back) (atMost_of_read back)
  · rintro ⟨raw, back⟩
    exact ⟨wellFormed_of_read back, atMost_of_read back⟩
  · rintro ⟨wellFormed, within⟩
    refine ⟨parsed.text, ?_⟩
    rw [parse_text_eq_read_chars]
    exact read_chars_of_atMost wellFormed within

/-- Of two fields beyond the signed words the left one is named. -/
theorem parse_text_within_signedLimit_of_large_minor :
    Obtainable ⟨1, .exactly 9223372036854775808, .exactly 9223372036854775809⟩ ∧
      ¬AtMost signedLimit ⟨1, .exactly 9223372036854775808, .exactly 9223372036854775809⟩ ∧
      parse (text ⟨1, .exactly 9223372036854775808, .exactly 9223372036854775809⟩) =
        .error (.notNumber .minor "9223372036854775808") := by
  have origin : Obtainable ⟨1, .exactly 9223372036854775808, .exactly 9223372036854775809⟩ :=
    obtainable_iff.mpr (by decide)
  have large : ¬AtMost signedLimit
      ⟨1, .exactly 9223372036854775808, .exactly 9223372036854775809⟩ := by decide
  obtain ⟨-, beyond, -⟩ := parse_text_within_signedLimit origin
  obtain ⟨field, n, exceeds, refused⟩ := beyond large
  refine ⟨origin, large, ?_⟩
  cases exceeds with
  | major beyond => exact absurd beyond (by decide)
  | minor _ held _ =>
      cases held
      exact refused
  | micro _ minor _ _ => exact absurd minor (by decide)

end Number

end ReleaseVersion
