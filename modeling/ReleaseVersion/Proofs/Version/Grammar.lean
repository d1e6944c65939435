import ReleaseVersion.Proofs.Version.Parts

/-!
# What a version text comes to

The outcome of reading any text, said by its pieces: for the version and for each fault the exact
conditions under which it arises.  The conditions exclude one another and leave no text out, so
they fix which of several faults is reported.
-/

namespace ReleaseVersion.Version

open Text

/-- The text reads as a number, which with its micro supplied is this one. -/
def Baseline (number level : List Char) (completed : Number) : Prop :=
  ∃ given, Number.read number = .ok given ∧ Completes given level completed

/-- What comes of the text of a number and of labels.  The number is looked at first, then whether
it is open, then the level, and the platform last. -/
inductive Verdict (number : List Char) (labels : Labels) : Except Fault Version → Prop
  /-- The number itself is refused. -/
  | badNumber {fault : Fault} :
      Number.read number = .error fault → Verdict number labels (.error fault)
  /-- A dev tag asks for a zero micro after a wildcard minor. -/
  | microAfterWildcard {given : Number} :
      Number.read number = .ok given → LacksMicro given labels.level →
      given.minor = .wildcard → Verdict number labels (.error (.microAfterWildcard "0"))
  /-- The number still has an open field. -/
  | openNumber {completed : Number} :
      Baseline number labels.level completed → completed.isOpen = true →
      Verdict number labels (.error (.openNumber completed.text))
  /-- The level is neither final nor a dev tag. -/
  | unknownLevel {completed : Number} :
      Baseline number labels.level completed → completed.isOpen = false →
      (∀ level : Level, ¬level.SpeltBy labels.level) →
      Verdict number labels (.error (.unknownLevel (String.ofList (lower labels.level))))
  /-- A series stands alone. -/
  | missingArch {completed : Number} {level : Level} :
      Baseline number labels.level completed → completed.isOpen = false →
      level.SpeltBy labels.level → labels.series ≠ [] → labels.arch = [] →
      Verdict number labels (.error (.missingArch (String.ofList (lower labels.series))))
  /-- An arch stands alone. -/
  | missingSeries {completed : Number} {level : Level} :
      Baseline number labels.level completed → completed.isOpen = false →
      level.SpeltBy labels.level → labels.series = [] → labels.arch ≠ [] →
      Verdict number labels (.error (.missingSeries (String.ofList (lower labels.arch))))
  /-- A version for no platform. -/
  | anywhere {completed : Number} {level : Level} :
      Baseline number labels.level completed → completed.isOpen = false →
      level.SpeltBy labels.level → labels.series = [] → labels.arch = [] →
      Verdict number labels (.ok ⟨completed, level, none⟩)
  /-- A version for one platform, its labels in small letters. -/
  | platform {completed : Number} {level : Level} :
      Baseline number labels.level completed → completed.isOpen = false →
      level.SpeltBy labels.level → labels.series ≠ [] → labels.arch ≠ [] →
      Verdict number labels (.ok ⟨completed, level,
        some ⟨String.ofList (lower labels.series), String.ofList (lower labels.arch)⟩⟩)

section

variable {number : List Char} {labels : Labels} {completed : Number} {level : Level}

/-! ## The steps under each condition -/

theorem readParts_of_error {fault : Fault} (refused : Number.read number = .error fault) :
    readParts number labels = .error fault := by
  rw [readParts, refused]
  rfl

theorem readParts_of_wildcard {given : Number} (numberRead : Number.read number = .ok given)
    (lacks : LacksMicro given labels.level) (wild : given.minor = .wildcard) :
    readParts number labels = .error (.microAfterWildcard "0") := by
  rw [readParts, numberRead]
  change (supplyMicro given labels.level >>= fun completed => ofParts completed labels) = _
  rw [supplyMicro_of_wildcard lacks wild]
  rfl

theorem readParts_of_baseline (baseline : Baseline number labels.level completed) :
    readParts number labels = ofParts completed labels := by
  obtain ⟨given, numberRead, completes⟩ := baseline
  rw [readParts, numberRead]
  change (supplyMicro given labels.level >>= fun completed => ofParts completed labels) = _
  rw [supplyMicro_of_completes (Number.wellFormed_of_read numberRead) completes]
  rfl

theorem readParts_eq_ok_iff {version : Version} :
    readParts number labels = .ok version ↔
      ∃ completed, Baseline number labels.level completed ∧
        ofParts completed labels = .ok version := by
  simp only [readParts, bind_eq_ok_iff]
  constructor
  · rintro ⟨given, numberRead, completed, supplied, built⟩
    have wellFormed := Number.wellFormed_of_read numberRead
    exact ⟨completed, ⟨given, numberRead, (supplyMicro_eq_ok_iff wellFormed).mp supplied⟩, built⟩
  · rintro ⟨completed, ⟨given, numberRead, completes⟩, built⟩
    have wellFormed := Number.wellFormed_of_read numberRead
    exact ⟨given, numberRead, completed, supplyMicro_of_completes wellFormed completes, built⟩

theorem Baseline.wellFormed {level : List Char} (baseline : Baseline number level completed) :
    completed.WellFormed := by
  obtain ⟨given, numberRead, completes⟩ := baseline
  exact wellFormed_of_completes (Number.wellFormed_of_read numberRead) completes

theorem Baseline.atMost {level : List Char} (baseline : Baseline number level completed) :
    completed.AtMost signedLimit := by
  obtain ⟨given, numberRead, completes⟩ := baseline
  exact atMost_of_completes (Number.atMost_of_read numberRead) completes

theorem ofParts_of_open (opened : completed.isOpen = true) :
    ofParts completed labels = .error (.openNumber completed.text) :=
  if_pos opened

/-- Without a dev tag in the place of the level a missing micro stays open. -/
theorem readParts_of_micro_unset {given : Number} (numberRead : Number.read number = .ok given)
    (absent : given.micro = .unset) (plain : isDevTag labels.level = false) :
    readParts number labels = .error (.openNumber given.text) := by
  have complete : ¬LacksMicro given labels.level := fun lacks =>
    Bool.false_ne_true (plain.symm.trans (isDevTag_eq_true_iff.mpr lacks.2))
  have opened : given.isOpen = true := by simp [Number.isOpen, absent]
  rw [readParts_of_baseline ⟨given, numberRead, .kept complete⟩]
  exact ofParts_of_open opened

theorem ofParts_of_unknown (closed : completed.isOpen = false)
    (unspelt : ∀ level : Level, ¬level.SpeltBy labels.level) :
    ofParts completed labels = .error (.unknownLevel (String.ofList (lower labels.level))) := by
  rw [ofParts, closed, Level.read_eq_error_of_not_speltBy unspelt]
  rfl

theorem ofParts_of_speltBy (closed : completed.isOpen = false)
    (spelt : level.SpeltBy labels.level) :
    ofParts completed labels =
      (readPlatform labels.series labels.arch).map
        fun platform => ⟨completed, level, platform⟩ := by
  rw [ofParts, closed, Level.read_eq_ok_iff.mpr spelt]
  rfl

/-! ## All outcomes -/

/-- Every outcome of putting a completed number together with labels is accounted for. -/
theorem verdict_ofParts (baseline : Baseline number labels.level completed) :
    Verdict number labels (ofParts completed labels) := by
  cases opened : completed.isOpen with
  | true =>
      rw [ofParts_of_open opened]
      exact .openNumber baseline opened
  | false =>
      by_cases spelt : ∃ level : Level, level.SpeltBy labels.level
      · obtain ⟨level, spelt⟩ := spelt
        rw [ofParts_of_speltBy opened spelt, readPlatform_eq]
        by_cases noSeries : labels.series = []
        · by_cases noArch : labels.arch = []
          · rw [if_pos noSeries, if_pos noArch]
            exact .anywhere baseline opened spelt noSeries noArch
          · rw [if_pos noSeries, if_neg noArch]
            exact .missingSeries baseline opened spelt noSeries noArch
        · by_cases noArch : labels.arch = []
          · rw [if_neg noSeries, if_pos noArch]
            exact .missingArch baseline opened spelt noSeries noArch
          · rw [if_neg noSeries, if_neg noArch]
            exact .platform baseline opened spelt noSeries noArch
      · have unspelt := not_exists.mp spelt
        rw [ofParts_of_unknown opened unspelt]
        exact .unknownLevel baseline opened unspelt

theorem verdict_readParts (number : List Char) (labels : Labels) :
    Verdict number labels (readParts number labels) := by
  cases numberRead : Number.read number with
  | error fault =>
      rw [readParts_of_error numberRead]
      exact .badNumber numberRead
  | ok given =>
      rcases wildcard_or_exists_completes given labels.level with
        ⟨lacks, wild⟩ | ⟨completed, completes⟩
      · rw [readParts_of_wildcard numberRead lacks wild]
        exact .microAfterWildcard numberRead lacks wild
      · have baseline : Baseline number labels.level completed := ⟨given, numberRead, completes⟩
        rw [readParts_of_baseline baseline]
        exact verdict_ofParts baseline

/-- Under the conditions of an outcome the parts have just this outcome. -/
theorem readParts_of_verdict {result : Except Fault Version}
    (verdict : Verdict number labels result) : readParts number labels = result := by
  cases verdict with
  | badNumber refused => exact readParts_of_error refused
  | microAfterWildcard numberRead lacks wild => exact readParts_of_wildcard numberRead lacks wild
  | openNumber baseline opened =>
      rw [readParts_of_baseline baseline, ofParts_of_open opened]
  | unknownLevel baseline closed unspelt =>
      rw [readParts_of_baseline baseline, ofParts_of_unknown closed unspelt]
  | missingArch baseline closed spelt series arch =>
      rw [readParts_of_baseline baseline, ofParts_of_speltBy closed spelt, readPlatform_eq,
        if_neg series, if_pos arch]
      rfl
  | missingSeries baseline closed spelt series arch =>
      rw [readParts_of_baseline baseline, ofParts_of_speltBy closed spelt, readPlatform_eq,
        if_pos series, if_neg arch]
      rfl
  | anywhere baseline closed spelt series arch =>
      rw [readParts_of_baseline baseline, ofParts_of_speltBy closed spelt, readPlatform_eq,
        if_pos series, if_pos arch]
      rfl
  | platform baseline closed spelt series arch =>
      rw [readParts_of_baseline baseline, ofParts_of_speltBy closed spelt, readPlatform_eq,
        if_neg series, if_neg arch]
      rfl

/-- No text is refused for an unknown series or arch. -/
theorem not_verdict_of_unknown (text : String) :
    ¬Verdict number labels (.error (.unknownSeries text)) ∧
      ¬Verdict number labels (.error (.unknownArch text)) := by
  constructor
  · intro verdict
    cases verdict with
    | badNumber refused => exact Number.ofNumber_of_read refused
  · intro verdict
    cases verdict with
    | badNumber refused => exact Number.ofNumber_of_read refused

end

/-- The grammar of versions, for texts that are accepted and texts that are refused: cut at its
first three dashes, a text comes to just what the pieces come to.  No text is refused for its
series or its arch being unknown. -/
theorem parse_eq_iff_verdict (raw : String) :
    (∀ result, parse raw = result ↔
      ∃ number labels, Divides raw.toList number labels ∧ Verdict number labels result) ∧
      ∀ text, parse raw ≠ .error (.unknownSeries text) ∧
        parse raw ≠ .error (.unknownArch text) := by
  have outcome : ∀ result, parse raw = result ↔
      ∃ number labels, Divides raw.toList number labels ∧ Verdict number labels result := by
    intro result
    constructor
    · rintro rfl
      obtain ⟨number, labels, divides⟩ := exists_divides raw.toList
      refine ⟨number, labels, divides, ?_⟩
      rw [parse, read_eq_readParts divides]
      exact verdict_readParts number labels
    · rintro ⟨number, labels, divides, verdict⟩
      rw [parse, read_eq_readParts divides]
      exact readParts_of_verdict verdict
  refine ⟨outcome, fun text => ⟨fun refused => ?_, fun refused => ?_⟩⟩
  · obtain ⟨number, labels, -, verdict⟩ := (outcome _).mp refused
    exact (not_verdict_of_unknown text).1 verdict
  · obtain ⟨number, labels, -, verdict⟩ := (outcome _).mp refused
    exact (not_verdict_of_unknown text).2 verdict

end ReleaseVersion.Version
