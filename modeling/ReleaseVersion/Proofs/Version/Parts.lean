import ReleaseVersion.Version
import ReleaseVersion.Proofs.Level
import ReleaseVersion.Proofs.Number.Reading

/-!
# The parts of a version text

Reading a version cuts its text in nested steps and reassigns the labels on the way.  All of that
comes to one flat cut at the first three dashes; then the number is read, a zero micro is supplied
where a dev tag allows it to be left out, and the parts are put together.  For each of these steps
this module says exactly what it gives.
-/

namespace ReleaseVersion.Version

open Text

/-! ## Cutting -/

/-- A text cut at its first three dashes into the text of a number and the labels.  One piece
after the number is a level, two are series and arch, and of three the last one keeps all further
dashes. -/
inductive Divides : List Char → List Char → Labels → Prop
  | bare {number : List Char} :
      '-' ∉ number → Divides number number .none
  | level {number level : List Char} :
      '-' ∉ number → '-' ∉ level → Divides (number ++ '-' :: level) number ⟨level, [], []⟩
  | platform {number series arch : List Char} :
      '-' ∉ number → '-' ∉ series → '-' ∉ arch →
      Divides (number ++ '-' :: (series ++ '-' :: arch)) number ⟨[], series, arch⟩
  | full {number level series arch : List Char} :
      '-' ∉ number → '-' ∉ level → '-' ∉ series →
      Divides (number ++ '-' :: (level ++ '-' :: (series ++ '-' :: arch))) number
        ⟨level, series, arch⟩

/-- What follows the first dash can be cut into labels. -/
theorem exists_divides_append {number : List Char} (numberFree : '-' ∉ number)
    (rest : List Char) : ∃ labels, Divides (number ++ '-' :: rest) number labels := by
  cases second : cut? '-' rest with
  | none => exact ⟨_, .level numberFree (cut?_eq_none_iff.mp second)⟩
  | some pieces =>
      obtain ⟨head, afterHead⟩ := pieces
      obtain ⟨rfl, headFree⟩ := cut?_eq_some_iff.mp second
      cases third : cut? '-' afterHead with
      | none => exact ⟨_, .platform numberFree headFree (cut?_eq_none_iff.mp third)⟩
      | some pieces =>
          obtain ⟨series, arch⟩ := pieces
          obtain ⟨rfl, seriesFree⟩ := cut?_eq_some_iff.mp third
          exact ⟨_, .full numberFree headFree seriesFree⟩

/-- Every text can be cut. -/
theorem exists_divides (raw : List Char) : ∃ number labels, Divides raw number labels := by
  cases first : cut? '-' raw with
  | none => exact ⟨raw, .none, .bare (cut?_eq_none_iff.mp first)⟩
  | some pieces =>
      obtain ⟨number, afterNumber⟩ := pieces
      obtain ⟨rfl, numberFree⟩ := cut?_eq_some_iff.mp first
      exact ⟨number, exists_divides_append numberFree afterNumber⟩

/-- The series is always a piece between dashes. -/
theorem Divides.dash_not_mem_series {raw number : List Char} {labels : Labels}
    (divides : Divides raw number labels) : '-' ∉ labels.series := by
  cases divides with
  | bare _ => exact List.not_mem_nil
  | level _ _ => exact List.not_mem_nil
  | platform _ seriesFree _ => exact seriesFree
  | full _ _ seriesFree => exact seriesFree

/-- Reads the number, supplies its micro and puts the parts together. -/
def readParts (number : List Char) (labels : Labels) : Except Fault Version := do
  let number ← Number.read number
  let number ← supplyMicro number labels.level
  ofParts number labels

/-- Reading a version is one flat cut followed by reading its parts. -/
theorem read_eq_readParts {raw number : List Char} {labels : Labels}
    (divides : Divides raw number labels) : read raw = readParts number labels := by
  cases divides with
  | bare numberFree =>
      -- Without a label there is no dev tag, so no micro is supplied.
      have kept : ∀ number : Number, supplyMicro number Labels.none.level = .ok number := by
        intro number
        exact if_neg fun lacking => absurd lacking.2 (by decide)
      simp only [read, cut?_eq_none_iff.mpr numberFree, readParts, kept]
      rfl
  | @level number level numberFree levelFree =>
      have first : cut? '-' (number ++ '-' :: level) = some (number, level) :=
        cut?_eq_some_iff.mpr ⟨rfl, numberFree⟩
      simp only [read, first, divideLabels, cut?_eq_none_iff.mpr levelFree, readParts]
  | @platform number series arch numberFree seriesFree archFree =>
      have first : cut? '-' (number ++ '-' :: (series ++ '-' :: arch)) =
          some (number, series ++ '-' :: arch) :=
        cut?_eq_some_iff.mpr ⟨rfl, numberFree⟩
      have second : cut? '-' (series ++ '-' :: arch) = some (series, arch) :=
        cut?_eq_some_iff.mpr ⟨rfl, seriesFree⟩
      simp only [read, first, divideLabels, second, cut?_eq_none_iff.mpr archFree, readParts]
  | @full number level series arch numberFree levelFree seriesFree =>
      have first : cut? '-' (number ++ '-' :: (level ++ '-' :: (series ++ '-' :: arch))) =
          some (number, level ++ '-' :: (series ++ '-' :: arch)) :=
        cut?_eq_some_iff.mpr ⟨rfl, numberFree⟩
      have second : cut? '-' (level ++ '-' :: (series ++ '-' :: arch)) =
          some (level, series ++ '-' :: arch) :=
        cut?_eq_some_iff.mpr ⟨rfl, levelFree⟩
      have third : cut? '-' (series ++ '-' :: arch) = some (series, arch) :=
        cut?_eq_some_iff.mpr ⟨rfl, seriesFree⟩
      simp only [read, first, divideLabels, second, third, readParts]

/-! ## Supplying the micro -/

/-- The number has no micro, and the level as written is a dev tag. -/
def LacksMicro (number : Number) (level : List Char) : Prop :=
  number.micro = .unset ∧ ∃ tag : DevTag, tag.SpeltBy level

/-- The number that goes into a version: with a zero micro where it lacks one, which cannot be
put after a wildcard minor, and as it is otherwise. -/
inductive Completes (number : Number) (level : List Char) : Number → Prop
  | supplied :
      LacksMicro number level → number.minor ≠ .wildcard →
      Completes number level { number with micro := .exactly 0 }
  | kept : ¬LacksMicro number level → Completes number level number

theorem supplyMicro_of_lacksMicro {number : Number} {level : List Char}
    (lacks : LacksMicro number level) :
    supplyMicro number level = number.withMicro (.exactly 0) :=
  if_pos ⟨lacks.1, isDevTag_eq_true_iff.mpr lacks.2⟩

theorem supplyMicro_of_not_lacksMicro {number : Number} {level : List Char}
    (complete : ¬LacksMicro number level) : supplyMicro number level = .ok number :=
  if_neg fun lacks => complete ⟨lacks.1, isDevTag_eq_true_iff.mp lacks.2⟩

/-- After a wildcard minor no micro is supplied. -/
theorem supplyMicro_of_wildcard {number : Number} {level : List Char}
    (lacks : LacksMicro number level) (wild : number.minor = .wildcard) :
    supplyMicro number level = .error (.microAfterWildcard "0") := by
  rw [supplyMicro_of_lacksMicro lacks, Number.withMicro, Number.ofComponents, wild]
  rfl

/-- A zero micro breaks no rule in a number that obeys them without one. -/
theorem supplyMicro_of_completes {number completed : Number} {level : List Char}
    (wellFormed : number.WellFormed) (completes : Completes number level completed) :
    supplyMicro number level = .ok completed := by
  cases completes with
  | supplied lacks concrete =>
      rw [supplyMicro_of_lacksMicro lacks]
      apply Number.ofComponents_eq_ok_iff.mpr
      refine ⟨rfl, wellFormed.1, fun wild => absurd wild concrete, ?_⟩
      rintro ⟨major, minor, -⟩
      exact wellFormed.2.2 ⟨major, minor, .inr lacks.1⟩
  | kept complete => exact supplyMicro_of_not_lacksMicro complete

theorem wellFormed_of_completes {number completed : Number} {level : List Char}
    (wellFormed : number.WellFormed) (completes : Completes number level completed) :
    completed.WellFormed := by
  have supplied := supplyMicro_of_completes wellFormed completes
  cases completes with
  | supplied lacks _ =>
      rw [supplyMicro_of_lacksMicro lacks] at supplied
      exact (Number.ofComponents_eq_ok_iff.mp supplied).2
  | kept _ => exact wellFormed

/-- Either the micro cannot be supplied, or the number is completed. -/
theorem wildcard_or_exists_completes (number : Number) (level : List Char) :
    (LacksMicro number level ∧ number.minor = .wildcard) ∨
      ∃ completed, Completes number level completed := by
  by_cases lacks : LacksMicro number level
  · by_cases wild : number.minor = .wildcard
    · exact .inl ⟨lacks, wild⟩
    · exact .inr ⟨_, .supplied lacks wild⟩
  · exact .inr ⟨_, .kept lacks⟩

theorem supplyMicro_eq_ok_iff {number completed : Number} {level : List Char}
    (wellFormed : number.WellFormed) :
    supplyMicro number level = .ok completed ↔ Completes number level completed := by
  constructor
  · intro supplied
    rcases wildcard_or_exists_completes number level with ⟨lacks, wild⟩ | ⟨other, completes⟩
    · rw [supplyMicro_of_wildcard lacks wild] at supplied
      contradiction
    · rw [supplyMicro_of_completes wellFormed completes] at supplied
      cases supplied
      exact completes
  · exact supplyMicro_of_completes wellFormed

theorem atMost_of_completes {number completed : Number} {level : List Char} {limit : Nat}
    (within : number.AtMost limit) (completes : Completes number level completed) :
    completed.AtMost limit := by
  cases completes with
  | supplied _ _ => exact ⟨within.1, within.2.1, by simp⟩
  | kept _ => exact within

/-! ## Putting the parts together -/

/-- Two labels name a platform together and none when both are empty; one without the other is
refused, and the fault shows the one that is there in small letters. -/
theorem readPlatform_eq (series arch : List Char) :
    readPlatform series arch =
      if series = [] then
        if arch = [] then .ok none else .error (.missingSeries (String.ofList (lower arch)))
      else if arch = [] then .error (.missingArch (String.ofList (lower series)))
      else .ok (some ⟨String.ofList (lower series), String.ofList (lower arch)⟩) := by
  have spelt : ∀ text, text ≠ [] → ∃ c rest, lower text = c :: rest := fun _ nonempty =>
    List.exists_cons_of_ne_nil (mt lower_eq_nil_iff.mp nonempty)
  by_cases noSeries : series = []
  · by_cases noArch : arch = []
    · simp [readPlatform, noSeries, noArch]
    · obtain ⟨c, rest, archEq⟩ := spelt arch noArch
      simp [readPlatform, noSeries, noArch, archEq]
  · obtain ⟨c, rest, seriesEq⟩ := spelt series noSeries
    by_cases noArch : arch = []
    · simp [readPlatform, noSeries, noArch, seriesEq]
    · obtain ⟨d, tail, archEq⟩ := spelt arch noArch
      simp [readPlatform, noSeries, noArch, seriesEq, archEq]

theorem readPlatform_eq_ok_iff {series arch : List Char} {platform : Option Platform} :
    readPlatform series arch = .ok platform ↔
      (series = [] ∧ arch = [] ∧ platform = none) ∨
        (series ≠ [] ∧ arch ≠ [] ∧
          platform = some ⟨String.ofList (lower series), String.ofList (lower arch)⟩) := by
  rw [readPlatform_eq]
  by_cases noSeries : series = []
  · by_cases noArch : arch = []
    · simp [noSeries, noArch, eq_comm]
    · simp [noSeries, noArch]
  · by_cases noArch : arch = []
    · simp [noSeries, noArch]
    · simp [noSeries, noArch, eq_comm]

/-- A version is put together exactly from a number without open fields, a level and a platform
that can be read. -/
theorem ofParts_eq_ok_iff {number : Number} {labels : Labels} {version : Version} :
    ofParts number labels = .ok version ↔
      number.isOpen = false ∧ version.number = number ∧
        Level.read labels.level = .ok version.level ∧
        readPlatform labels.series labels.arch = .ok version.platform := by
  rcases version with ⟨held, level, platform⟩
  simp only [ofParts]
  cases number.isOpen with
  | true => simp
  | false =>
      simp only [Bool.false_eq_true, if_false, bind_eq_ok_iff, Except.ok.injEq, Version.mk.injEq,
        true_and]
      constructor
      · rintro ⟨_, levelRead, _, platformRead, rfl, rfl, rfl⟩
        exact ⟨rfl, levelRead, platformRead⟩
      · rintro ⟨rfl, levelRead, platformRead⟩
        exact ⟨_, levelRead, _, platformRead, rfl, rfl, rfl⟩

end ReleaseVersion.Version
