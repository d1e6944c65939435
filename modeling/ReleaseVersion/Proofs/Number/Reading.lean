import ReleaseVersion.Number
import ReleaseVersion.Proofs.Text.Numeral

/-!
# How fields are read

For each stage of reading a number, exactly when it succeeds and with which value.  Whatever is
read, be it from text or from signed words, lies within the limit of a signed word; only
components that are given as such may lie beyond it.
-/

namespace ReleaseVersion

open Text

/-! ## Results of consecutive steps -/

theorem bind_eq_ok_iff {ε α β : Type} {first : Except ε α} {next : α → Except ε β} {result : β} :
    (first >>= next) = .ok result ↔ ∃ middle, first = .ok middle ∧ next middle = .ok result := by
  cases first with
  | error fault => simp [bind, Except.bind]
  | ok middle => simp [bind, Except.bind]

theorem bind_eq_error_iff {ε α β : Type} {first : Except ε α} {next : α → Except ε β} {fault : ε} :
    (first >>= next) = .error fault ↔
      first = .error fault ∨ ∃ middle, first = .ok middle ∧ next middle = .error fault := by
  cases first with
  | error earlier => simp [bind, Except.bind]
  | ok middle => simp [bind, Except.bind]

theorem map_eq_ok_iff {ε α β : Type} {first : Except ε α} {change : α → β} {result : β} :
    first.map change = .ok result ↔ ∃ middle, first = .ok middle ∧ result = change middle := by
  cases first with
  | error fault => simp [Except.map]
  | ok middle => simp [Except.map, eq_comm]

theorem map_eq_error_iff {ε α β : Type} {first : Except ε α} {change : α → β} {fault : ε} :
    first.map change = .error fault ↔ first = .error fault := by
  cases first with
  | error earlier => simp [Except.map]
  | ok middle => simp [Except.map]

/-! ## Limits -/

/-- The component, if it is a number, does not exceed the limit. -/
def Component.AtMost (limit : Nat) (component : Component) : Prop :=
  ∀ n, component = .exactly n → n ≤ limit

namespace Component

@[simp]
theorem atMost_exactly {limit n : Nat} : (exactly n).AtMost limit ↔ n ≤ limit := by
  simp [AtMost]

@[simp]
theorem atMost_wildcard (limit : Nat) : wildcard.AtMost limit := by
  simp [AtMost]

@[simp]
theorem atMost_unset (limit : Nat) : unset.AtMost limit := by
  simp [AtMost]

theorem exists_of_not_atMost {limit : Nat} {component : Component}
    (beyond : ¬component.AtMost limit) : ∃ n, component = .exactly n ∧ limit < n := by
  cases component with
  | exactly n => exact ⟨n, rfl, Nat.lt_of_not_le (mt atMost_exactly.mpr beyond)⟩
  | wildcard => exact absurd (atMost_wildcard limit) beyond
  | unset => exact absurd (atMost_unset limit) beyond

theorem AtMost.mono {component : Component} {low high : Nat} (within : component.AtMost low)
    (le : low ≤ high) : component.AtMost high :=
  fun n exact => Nat.le_trans (within n exact) le

instance (limit : Nat) (component : Component) : Decidable (component.AtMost limit) :=
  match component with
  | exactly n => decidable_of_iff (n ≤ limit) atMost_exactly.symm
  | wildcard => .isTrue (atMost_wildcard limit)
  | unset => .isTrue (atMost_unset limit)

end Component

/-- No field of the number exceeds the limit. -/
def Number.AtMost (limit : Nat) (number : Number) : Prop :=
  number.major ≤ limit ∧ number.minor.AtMost limit ∧ number.micro.AtMost limit

instance (limit : Nat) (number : Number) : Decidable (number.AtMost limit) :=
  inferInstanceAs (Decidable (_ ∧ _ ∧ _))

theorem Number.AtMost.mono {number : Number} {low high : Nat} (within : number.AtMost low)
    (le : low ≤ high) : number.AtMost high :=
  ⟨Nat.le_trans within.1 le, within.2.1.mono le, within.2.2.mono le⟩

theorem signedLimit_le_unsignedLimit : signedLimit ≤ unsignedLimit := by
  decide

/-- An integer token holds a signed word. -/
def Token.Fits : Token → Prop
  | .int n => -(signedLimit : Int) - 1 ≤ n ∧ n ≤ signedLimit
  | _ => True

theorem Token.fits_text (chars : List Char) : (text chars).Fits :=
  trivial

/-- What a token is read as never exceeds a signed word. -/
theorem Token.le_signedLimit_of_read {token : Token} {n : Nat} (fits : token.Fits)
    (read : token.read = .int (.ofNat n)) : n ≤ signedLimit := by
  cases token with
  | absent => simp at read
  | int value =>
      simp only [Token.read_int, Reading.int.injEq] at read
      subst read
      exact Int.ofNat_le.mp fits.2
  | text chars =>
      simp only [Token.read] at read
      split at read
      · simp at read
      · split at read
        · simp at read
        · split at read
          · rename_i value found
            cases read
            exact Int.ofNat_le.mp (signed?_trim_eq_some_iff.mp found).2.2
          · simp at read

/-- The faults that a number can have. -/
def Fault.OfNumber : Fault → Prop
  | .empty | .missing _ | .notNumber _ _ | .wildcardMajor | .microAfterWildcard _ | .allZero => True
  | _ => False

namespace Number

/-! ## One field -/

theorem nonNegative_eq_ok_iff {field : Field} {reading : Reading} {n : Nat} :
    nonNegative field reading = .ok n ↔ reading = .int (.ofNat n) := by
  unfold nonNegative
  split
  · rename_i value
    simp only [Except.ok.injEq, Reading.int.injEq, Int.ofNat.injEq]
  · rename_i others
    simp only [reduceCtorEq, false_iff]
    exact others n

theorem readMajor_eq_ok_iff {token : Token} {n : Nat} :
    readMajor token = .ok n ↔ token.read = .int (.ofNat n) := by
  unfold readMajor
  cases token.read with
  | unset => simp
  | wildcard => simp
  | int value => exact nonNegative_eq_ok_iff
  | verbatim chars => exact nonNegative_eq_ok_iff

theorem readMinor_eq_ok_iff {token : Token} {minor : Component} :
    readMinor token = .ok minor ↔
      (token.read = .wildcard ∧ minor = .wildcard) ∨
        ∃ n, token.read = .int (.ofNat n) ∧ minor = .exactly n := by
  unfold readMinor
  cases token.read with
  | unset => simp
  | wildcard => simp [eq_comm]
  | int value => simp only [map_eq_ok_iff, nonNegative_eq_ok_iff, reduceCtorEq, false_and,
      false_or]
  | verbatim chars => simp [map_eq_ok_iff, nonNegative_eq_ok_iff]

theorem readMicro_eq_ok_iff {token : Token} {micro : Component} :
    readMicro token = .ok micro ↔
      (token.read = .wildcard ∧ micro = .wildcard) ∨
        (token.read = .unset ∧ micro = .unset) ∨
          ∃ n, token.read = .int (.ofNat n) ∧ micro = .exactly n := by
  unfold readMicro
  cases token.read with
  | unset => simp [eq_comm]
  | wildcard => simp [eq_comm]
  | int value => simp only [map_eq_ok_iff, nonNegative_eq_ok_iff, reduceCtorEq, false_and,
      false_or]
  | verbatim chars => simp [map_eq_ok_iff, nonNegative_eq_ok_iff]

/-! ## The whole number -/

/-- A number is built from tokens exactly when every field is read as it stands in the number and
the rules between fields hold. -/
theorem ofTokens_eq_ok_iff {major minor micro : Token} {number : Number} :
    ofTokens major minor micro = .ok number ↔
      readMajor major = .ok number.major ∧ readMinor minor = .ok number.minor ∧
        readMicro micro = .ok number.micro ∧ number.WellFormed := by
  simp only [ofTokens, bind_eq_ok_iff, ofComponents_eq_ok_iff]
  constructor
  · rintro ⟨a, readA, b, readB, c, readC, rfl, wellFormed⟩
    exact ⟨readA, readB, readC, wellFormed⟩
  · rintro ⟨readA, readB, readC, wellFormed⟩
    exact ⟨_, readA, _, readB, _, readC, rfl, wellFormed⟩

/-- A text is a number exactly when something is left after trimming, it falls into fields, and
these are tokens of the number. -/
theorem read_eq_ok_iff {chars : List Char} {number : Number} :
    read chars = .ok number ↔
      trim chars ≠ [] ∧ ∃ major minor micro, fields? (trim chars) = some (major, minor, micro) ∧
        ofTokens (.text major) (.text minor) (.text micro) = .ok number := by
  simp only [read]
  split
  · rename_i empty
    simp [empty]
  · rename_i nonempty
    split
    · rename_i undivided
      simp [undivided]
    · rename_i major minor micro divided
      simp only [ne_eq, nonempty, not_false_eq_true, true_and, divided, Option.some.injEq,
        Prod.mk.injEq]
      constructor
      · intro built
        exact ⟨major, minor, micro, ⟨rfl, rfl, rfl⟩, built⟩
      · rintro ⟨_, _, _, ⟨rfl, rfl, rfl⟩, built⟩
        exact built

theorem wellFormed_of_ofTokens {major minor micro : Token} {number : Number}
    (built : ofTokens major minor micro = .ok number) : number.WellFormed :=
  (ofTokens_eq_ok_iff.mp built).2.2.2

/-- A number built from tokens stays within signed words. -/
theorem atMost_of_ofTokens {major minor micro : Token} {number : Number}
    (fitsMajor : major.Fits) (fitsMinor : minor.Fits) (fitsMicro : micro.Fits)
    (built : ofTokens major minor micro = .ok number) : number.AtMost signedLimit := by
  obtain ⟨majorRead, minorRead, microRead, -⟩ := ofTokens_eq_ok_iff.mp built
  refine ⟨Token.le_signedLimit_of_read fitsMajor (readMajor_eq_ok_iff.mp majorRead), ?_, ?_⟩
  · rcases readMinor_eq_ok_iff.mp minorRead with ⟨-, wild⟩ | ⟨n, read, exact⟩
    · simp [wild]
    · simp [exact, Token.le_signedLimit_of_read fitsMinor read]
  · rcases readMicro_eq_ok_iff.mp microRead with ⟨-, wild⟩ | ⟨-, nothing⟩ | ⟨n, read, exact⟩
    · simp [wild]
    · simp [nothing]
    · simp [exact, Token.le_signedLimit_of_read fitsMicro read]

theorem wellFormed_of_read {chars : List Char} {number : Number}
    (numberRead : read chars = .ok number) : number.WellFormed := by
  obtain ⟨-, _, _, _, -, built⟩ := read_eq_ok_iff.mp numberRead
  exact wellFormed_of_ofTokens built

/-- A number read from text stays within signed words. -/
theorem atMost_of_read {chars : List Char} {number : Number}
    (numberRead : read chars = .ok number) : number.AtMost signedLimit := by
  obtain ⟨-, _, _, _, -, built⟩ := read_eq_ok_iff.mp numberRead
  exact atMost_of_ofTokens (Token.fits_text _) (Token.fits_text _) (Token.fits_text _) built

/-! ## Faults -/

theorem ofNumber_of_nonNegative {field : Field} {reading : Reading} {fault : Fault}
    (refused : nonNegative field reading = .error fault) : fault.OfNumber := by
  unfold nonNegative at refused
  split at refused
  · simp at refused
  · cases refused
    trivial

theorem ofNumber_of_readMajor {token : Token} {fault : Fault}
    (refused : readMajor token = .error fault) : fault.OfNumber := by
  unfold readMajor at refused
  split at refused
  · cases refused
    trivial
  · cases refused
    trivial
  · exact ofNumber_of_nonNegative refused

theorem ofNumber_of_readMinor {token : Token} {fault : Fault}
    (refused : readMinor token = .error fault) : fault.OfNumber := by
  unfold readMinor at refused
  split at refused
  · simp at refused
  · cases refused
    trivial
  · exact ofNumber_of_nonNegative (map_eq_error_iff.mp refused)

theorem ofNumber_of_readMicro {token : Token} {fault : Fault}
    (refused : readMicro token = .error fault) : fault.OfNumber := by
  unfold readMicro at refused
  split at refused
  · simp at refused
  · simp at refused
  · exact ofNumber_of_nonNegative (map_eq_error_iff.mp refused)

theorem ofNumber_of_ofComponents {major : Nat} {minor micro : Component} {fault : Fault}
    (refused : ofComponents major minor micro = .error fault) : fault.OfNumber := by
  unfold ofComponents at refused
  split at refused
  · cases refused
    trivial
  · split at refused
    · cases refused
      trivial
    · split at refused
      · cases refused
        trivial
      · simp at refused

/-- Components are never refused for not being numbers. -/
theorem ofComponents_ne_notNumber (major : Nat) (minor micro : Component) (field : Field)
    (given : String) : .error (.notNumber field given) ≠ ofComponents major minor micro := by
  unfold ofComponents
  split
  · simp
  · split
    · simp
    · split
      · simp
      · simp

theorem ofNumber_of_ofTokens {major minor micro : Token} {fault : Fault}
    (refused : ofTokens major minor micro = .error fault) : fault.OfNumber := by
  simp only [ofTokens, bind_eq_error_iff] at refused
  rcases refused with majorFault | ⟨_, -, minorFault | ⟨_, -, microFault | ⟨_, -, together⟩⟩⟩
  · exact ofNumber_of_readMajor majorFault
  · exact ofNumber_of_readMinor minorFault
  · exact ofNumber_of_readMicro microFault
  · exact ofNumber_of_ofComponents together

/-- A text that is refused as a number is refused for a fault of numbers. -/
theorem ofNumber_of_read {chars : List Char} {fault : Fault}
    (refused : read chars = .error fault) : fault.OfNumber := by
  simp only [read] at refused
  split at refused
  · cases refused
    trivial
  · split at refused
    · cases refused
      trivial
    · exact ofNumber_of_ofTokens refused

/-! ## Where numbers come from -/

/-- The numbers that the constructors give for arguments of machine size. -/
inductive Obtainable : Number → Prop
  /-- From text. -/
  | parse {raw : String} {number : Number} :
      Number.parse raw = .ok number → Obtainable number
  /-- From one token for each field. -/
  | ofTokens {major minor micro : Token} {number : Number} :
      major.Fits → minor.Fits → micro.Fits →
      Number.ofTokens major minor micro = .ok number → Obtainable number
  /-- From components. -/
  | ofComponents {major : Nat} {minor micro : Component} {number : Number} :
      major ≤ unsignedLimit → minor.AtMost unsignedLimit → micro.AtMost unsignedLimit →
      Number.ofComponents major minor micro = .ok number → Obtainable number
  /-- From another number, by a new micro. -/
  | withMicro {number changed : Number} {micro : Component} :
      Obtainable number → micro.AtMost unsignedLimit →
      number.withMicro micro = .ok changed → Obtainable changed

/-- Every constructor checks the rules between fields. -/
theorem Obtainable.wellFormed {number : Number} (origin : Obtainable number) :
    number.WellFormed := by
  cases origin with
  | parse parsed => exact wellFormed_of_read parsed
  | ofTokens _ _ _ built => exact wellFormed_of_ofTokens built
  | ofComponents _ _ _ built => exact (ofComponents_eq_ok_iff.mp built).2
  | withMicro _ _ changed => exact (ofComponents_eq_ok_iff.mp changed).2

/-- No constructor leaves the unsigned words. -/
theorem Obtainable.atMost {number : Number} (origin : Obtainable number) :
    number.AtMost unsignedLimit := by
  induction origin with
  | parse parsed => exact (atMost_of_read parsed).mono signedLimit_le_unsignedLimit
  | ofTokens fitsMajor fitsMinor fitsMicro built =>
      exact (atMost_of_ofTokens fitsMajor fitsMinor fitsMicro built).mono
        signedLimit_le_unsignedLimit
  | ofComponents majorLe minorLe microLe built =>
      obtain ⟨rfl, -⟩ := ofComponents_eq_ok_iff.mp built
      exact ⟨majorLe, minorLe, microLe⟩
  | withMicro _ microLe changed inductionHypothesis =>
      obtain ⟨rfl, -⟩ := ofComponents_eq_ok_iff.mp changed
      exact ⟨inductionHypothesis.1, inductionHypothesis.2.1, microLe⟩

/-- What can be obtained is just what obeys the rules between fields and fits into unsigned
words. -/
theorem obtainable_iff {number : Number} :
    Obtainable number ↔ number.WellFormed ∧ number.AtMost unsignedLimit := by
  constructor
  · intro origin
    exact ⟨origin.wellFormed, origin.atMost⟩
  · rintro ⟨wellFormed, majorLe, minorLe, microLe⟩
    exact .ofComponents majorLe minorLe microLe (ofComponents_eq_ok_iff.mpr ⟨rfl, wellFormed⟩)

end Number

end ReleaseVersion
