import ReleaseVersion.Proofs.Number.Capitals
import ReleaseVersion.Proofs.Version.Grammar

/-!
# Versions with their ASCII capitals made small

A text and its ASCII lower-case form are the same version, or are refused for the same fault.  There
is one exception: whether the micro may be left out is decided by the level as it is written, and a
dev tag in capitals is none.  Then the text is refused for its open micro, which the small letters
may make up for.
-/

namespace ReleaseVersion.Version

open Text

/-- All labels in small letters. -/
def Labels.asciiLower (labels : Labels) : Labels where
  level := Text.asciiLower labels.level
  series := Text.asciiLower labels.series
  arch := Text.asciiLower labels.arch

/-- The number has no micro, and the level is a dev tag in small letters but not as it is
written. -/
structure HidesTag (given : Number) (level : List Char) : Prop where
  micro : given.micro = .unset
  written : isDevTag level = false
  small : isDevTag (asciiLower level) = true

/-! ## Cutting -/

theorem dash_not_mem_asciiLower {text : List Char} (free : '-' ∉ text) : '-' ∉ asciiLower text :=
  not_mem_asciiLower (by decide) free

theorem Divides.asciiLower {raw number : List Char} {labels : Labels}
    (divides : Divides raw number labels) :
    Divides (asciiLower raw) (asciiLower number) labels.asciiLower := by
  cases divides with
  | bare numberFree => exact .bare (dash_not_mem_asciiLower numberFree)
  | level numberFree levelFree =>
      rw [asciiLower_append, asciiLower_cons]
      exact .level (dash_not_mem_asciiLower numberFree) (dash_not_mem_asciiLower levelFree)
  | platform numberFree seriesFree archFree =>
      rw [asciiLower_append, asciiLower_cons, asciiLower_append, asciiLower_cons]
      exact .platform (dash_not_mem_asciiLower numberFree) (dash_not_mem_asciiLower seriesFree)
        (dash_not_mem_asciiLower archFree)
  | full numberFree levelFree seriesFree =>
      rw [asciiLower_append, asciiLower_cons, asciiLower_append, asciiLower_cons,
        asciiLower_append, asciiLower_cons]
      exact .full (dash_not_mem_asciiLower numberFree) (dash_not_mem_asciiLower levelFree)
        (dash_not_mem_asciiLower seriesFree)

section

variable {number : List Char} {labels : Labels}

/-! ## The steps -/

/-- A dev tag as it is written stays the same in small letters. -/
theorem isDevTag_asciiLower {level : List Char} (tag : isDevTag level = true) :
    isDevTag (asciiLower level) = true := by
  obtain ⟨spelt, speltBy⟩ := isDevTag_eq_true_iff.mp tag
  rw [asciiLower_eq_self_of_small speltBy.isSmall]
  exact tag

theorem supplyMicro_asciiLower {given : Number} {level : List Char}
    (shown : ¬HidesTag given level) :
    supplyMicro given (asciiLower level) = supplyMicro given level := by
  by_cases absent : given.micro = .unset
  · cases written : isDevTag level with
    | true => simp only [supplyMicro, written, isDevTag_asciiLower written]
    | false =>
        have plain : isDevTag (asciiLower level) = false :=
          Bool.eq_false_iff.mpr fun small => shown ⟨absent, written, small⟩
        simp only [supplyMicro, written, plain]
  · simp only [supplyMicro, absent, false_and, if_false]

/-- The labels are lower-cased in any case. -/
theorem ofParts_asciiLower (completed : Number) (labels : Labels) :
    ofParts completed labels.asciiLower = ofParts completed labels := by
  simp only [ofParts, Level.read, readPlatform, Labels.asciiLower, lower_asciiLower]

/-! ## Faults -/

theorem ofParts_ne_notNumber (completed : Number) (labels : Labels) (field : Field)
    (given : String) : ofParts completed labels ≠ .error (.notNumber field given) := by
  intro refused
  simp only [ofParts] at refused
  split at refused
  · simp at refused
  · rcases bind_eq_error_iff.mp refused with levelFault | ⟨level, -, platformRefused⟩
    · have verdict := Level.read_eq_iff_verdict.mp levelFault
      cases verdict
    · rcases bind_eq_error_iff.mp platformRefused with platformFault | ⟨platform, -, built⟩
      · rw [readPlatform_eq] at platformFault
        grind
      · cases built

theorem asciiLower_ofParts (completed : Number) (labels : Labels) :
    (ofParts completed labels).mapError Fault.asciiLower = ofParts completed labels := by
  apply mapError_eq_self
  intro fault refused
  apply Fault.asciiLower_eq_self
  rintro field given rfl
  exact ofParts_ne_notNumber completed labels field given refused

theorem asciiLower_supplyMicro (given : Number) (level : List Char) :
    (supplyMicro given level).mapError Fault.asciiLower = supplyMicro given level := by
  unfold supplyMicro
  split
  · exact Number.asciiLower_ofComponents given.major given.minor (.exactly 0)
  · rfl

/-! ## The whole version -/

/-- Unless a dev tag is hidden, the parts in small letters come to the same. -/
theorem hidesTag_or_readParts_asciiLower (number : List Char) (labels : Labels) :
    (∃ given, Number.read number = .ok given ∧ HidesTag given labels.level) ∨
      readParts (asciiLower number) labels.asciiLower =
        (readParts number labels).mapError Fault.asciiLower := by
  have smallRead := Number.read_asciiLower number
  cases numberRead : Number.read number with
  | error fault =>
      rw [numberRead] at smallRead
      rw [readParts_of_error numberRead, readParts_of_error smallRead]
      exact .inr rfl
  | ok given =>
      by_cases hides : HidesTag given labels.level
      · exact .inl ⟨given, rfl, hides⟩
      · right
        rw [readParts, readParts, smallRead, numberRead]
        change supplyMicro given (asciiLower labels.level) >>= _ =
          (supplyMicro given labels.level >>= _).mapError Fault.asciiLower
        refine mapError_bind ?_ fun completed => ?_
        · rw [supplyMicro_asciiLower hides, asciiLower_supplyMicro]
        · rw [ofParts_asciiLower, asciiLower_ofParts]

end

/-- Unless a dev tag is hidden, a text in small letters comes to the same as the text. -/
theorem hidesTag_or_parse_asciiLower (raw : String) :
    (∃ number labels given, Divides raw.toList number labels ∧ Number.read number = .ok given ∧
        HidesTag given labels.level ∧ parse raw = .error (.openNumber given.text)) ∨
      parse (String.ofList (asciiLower raw.toList)) =
        (parse raw).mapError Fault.asciiLower := by
  obtain ⟨number, labels, divides⟩ := exists_divides raw.toList
  simp only [parse, String.toList_ofList, read_eq_readParts divides,
    read_eq_readParts divides.asciiLower]
  refine (hidesTag_or_readParts_asciiLower number labels).imp_left ?_
  rintro ⟨given, numberRead, hides⟩
  exact ⟨number, labels, given, divides, numberRead, hides,
    readParts_of_micro_unset numberRead hides.micro hides.written⟩

/-- A text that is a version is the same version in small letters.  If it is one in small letters
only, then it has a number without a micro and, in the place of the level, a dev tag that is none as
it is written, and it is refused for the open micro. -/
theorem parse_asciiLower (raw : String) :
    (∀ version, parse raw = .ok version →
        parse (String.ofList (asciiLower raw.toList)) = .ok version) ∧
      ∀ version fault, parse (String.ofList (asciiLower raw.toList)) = .ok version →
        parse raw = .error fault →
          ∃ number labels given, Divides raw.toList number labels ∧
            Number.read number = .ok given ∧ HidesTag given labels.level ∧
            fault = .openNumber given.text := by
  rcases hidesTag_or_parse_asciiLower raw with
    ⟨number, labels, given, divides, numberRead, hides, refused⟩ | alike
  · rw [refused]
    refine ⟨fun version parsed => (nomatch parsed), fun version fault _ same => ?_⟩
    exact ⟨number, labels, given, divides, numberRead, hides, (Except.error.inj same).symm⟩
  · rw [alike]
    refine ⟨fun version parsed => mapError_eq_ok_iff.mpr parsed, ?_⟩
    intro version fault small refused
    rw [mapError_eq_ok_iff.mp small] at refused
    nomatch refused

/-- Capitals in a level make no difference after a micro, and hide a dev tag where there is none. -/
theorem parse_asciiLower_of_capitals :
    parse "1.2.3-beta2-xenial-arm-v7" =
        .ok ⟨⟨1, .exactly 2, .exactly 3⟩, .dev ⟨.beta, 2, "beta2"⟩, some ⟨"xenial", "arm-v7"⟩⟩ ∧
      parse "1.2-beta2" = .ok ⟨⟨1, .exactly 2, .exactly 0⟩, .dev ⟨.beta, 2, "beta2"⟩, none⟩ ∧
      parse "1.2-BETA2" = .error (.openNumber "1.2") ∧
      ∃ number labels given, Divides "1.2-BETA2".toList number labels ∧
        Number.read number = .ok given ∧ HidesTag given labels.level := by
  have parsed : parse "1.2.3-BETA2-Xenial-ARM-v7" =
      .ok ⟨⟨1, .exactly 2, .exactly 3⟩, .dev ⟨.beta, 2, "beta2"⟩, some ⟨"xenial", "arm-v7"⟩⟩ := rfl
  have small : parse "1.2-beta2" =
      .ok ⟨⟨1, .exactly 2, .exactly 0⟩, .dev ⟨.beta, 2, "beta2"⟩, none⟩ := rfl
  have refused : parse "1.2-BETA2" = .error (.openNumber "1.2") := rfl
  obtain ⟨number, labels, given, divides, numberRead, hides, -⟩ :=
    (parse_asciiLower "1.2-BETA2").2 _ _ small refused
  exact ⟨(parse_asciiLower "1.2.3-BETA2-Xenial-ARM-v7").1 _ parsed, small, refused,
    number, labels, given, divides, numberRead, hides⟩

end ReleaseVersion.Version
