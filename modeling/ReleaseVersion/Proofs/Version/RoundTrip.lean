import ReleaseVersion.Proofs.Number.RoundTrip
import ReleaseVersion.Proofs.Version.Grammar

/-!
# Reading versions back from their text

The text of a version is read back by the same cut at three dashes that reads any other text, so
it comes back only when the dashes in its labels fall where the cut does not take them apart.  A
version whose level is written may carry dashes in its arch; a final version may not, because the
start of the arch would then be taken for the series.
-/

namespace ReleaseVersion

open Text

/-! ## What every version obeys -/

/-- Both labels are there, in small characters. -/
def Platform.Stored (platform : Platform) : Prop :=
  (platform.series.toList ≠ [] ∧ ∀ c ∈ platform.series.toList, IsSmall c) ∧
    (platform.arch.toList ≠ [] ∧ ∀ c ∈ platform.arch.toList, IsSmall c)

namespace Version

/-- What the constructors establish: a number that obeys its rules and has no open field, and a
level and a platform as they are stored. -/
structure Canonical (version : Version) : Prop where
  wellFormed : version.number.WellFormed
  closed : version.number.isOpen = false
  level : version.level.Stored
  platform : ∀ platform, version.platform = some platform → platform.Stored

theorem canonical_of_ofParts {number : Number} {labels : Labels} {version : Version}
    (wellFormed : number.WellFormed) (built : ofParts number labels = .ok version) :
    version.Canonical := by
  obtain ⟨closed, rfl, levelRead, platformRead⟩ := ofParts_eq_ok_iff.mp built
  refine ⟨wellFormed, closed, Level.stored_of_read levelRead, ?_⟩
  intro platform held
  rw [held] at platformRead
  rcases readPlatform_eq_ok_iff.mp platformRead with ⟨-, -, absent⟩ | ⟨series, arch, present⟩
  · contradiction
  · cases present
    simp only [Platform.Stored, String.toList_ofList, ne_eq, lower_eq_nil_iff]
    exact ⟨⟨series, fun _ => isSmall_of_mem_lower⟩, arch, fun _ => isSmall_of_mem_lower⟩

/-- What holds of every version read from text beyond what holds of all versions: its number is
within the signed words, and its series holds no dash. -/
theorem canonical_of_read {raw : List Char} {version : Version}
    (versionRead : read raw = .ok version) :
    version.Canonical ∧ version.number.AtMost signedLimit ∧
      ∀ series, version.series? = some series → '-' ∉ series.toList := by
  obtain ⟨number, labels, divides⟩ := exists_divides raw
  rw [read_eq_readParts divides] at versionRead
  obtain ⟨completed, baseline, built⟩ := readParts_eq_ok_iff.mp versionRead
  refine ⟨canonical_of_ofParts baseline.wellFormed built, ?_, ?_⟩
  · rw [(ofParts_eq_ok_iff.mp built).2.1]
    exact baseline.atMost
  · intro series held
    obtain ⟨-, -, -, platformRead⟩ := ofParts_eq_ok_iff.mp built
    obtain ⟨platform, present, rfl⟩ := Option.map_eq_some_iff.mp held
    rw [present] at platformRead
    rcases readPlatform_eq_ok_iff.mp platformRead with ⟨-, -, absent⟩ | ⟨-, -, same⟩
    · contradiction
    · cases same
      rw [String.toList_ofList]
      exact mt dash_mem_of_dash_mem_lower divides.dash_not_mem_series

/-! ## Where versions come from -/

/-- The versions that the constructors give: from a number, from the text of one, and from the
text of a whole version. -/
inductive Obtainable : Version → Prop
  | ofParts {number : Number} {level series arch : Option String} {version : Version} :
      number.Obtainable → Version.ofParts number (.ofOptions level series arch) = .ok version →
      Obtainable version
  | ofText {number : String} {level series arch : Option String} {version : Version} :
      Version.ofText number (.ofOptions level series arch) = .ok version → Obtainable version
  | parse {raw : String} {version : Version} :
      Version.parse raw = .ok version → Obtainable version

theorem Obtainable.canonical {version : Version} (origin : Obtainable version) :
    version.Canonical := by
  cases origin with
  | ofParts numberOrigin built => exact canonical_of_ofParts numberOrigin.wellFormed built
  | ofText built =>
      obtain ⟨number, numberRead, built⟩ := bind_eq_ok_iff.mp built
      exact canonical_of_ofParts (Number.wellFormed_of_read numberRead) built
  | parse parsed => exact (canonical_of_read parsed).1

/-! ## The parts of canonical text -/

/-- The number as the text shows it. -/
def shown (version : Version) : Number :=
  match version.level with
  | .final => version.number
  | .dev _ =>
    if version.number.micro = .exactly 0 then { version.number with micro := .unset }
    else version.number

/-- The labels as the text shows them. -/
def labels (version : Version) : Labels where
  level := match version.level with
    | .final => []
    | .dev tag => tag.text.toList
  series := (version.series?.getD "").toList
  arch := (version.arch?.getD "").toList

theorem numberChars_eq (version : Version) : version.numberChars = version.shown.chars := by
  unfold numberChars shown
  cases version.level with
  | final => rfl
  | dev tag =>
      by_cases zero : version.number.micro = .exactly 0
      · simp only [if_pos zero]
        rfl
      · simp only [if_neg zero]

section

variable {version : Version}

theorem Canonical.minor_ne_wildcard (canonical : version.Canonical) :
    version.number.minor ≠ .wildcard := by
  intro wild
  have closed := canonical.closed
  simp [Number.isOpen, wild] at closed

theorem Canonical.micro_ne_unset (canonical : version.Canonical) :
    version.number.micro ≠ .unset := by
  intro absent
  have closed := canonical.closed
  simp [Number.isOpen, absent] at closed

/-- The number of a canonical version has all its fields, so that it lacks no micro. -/
theorem Canonical.not_lacksMicro (canonical : version.Canonical) (level : List Char) :
    ¬LacksMicro version.number level :=
  fun lacks => canonical.micro_ne_unset lacks.1

theorem labels_level_of_dev {tag : DevTag} (dev : version.level = .dev tag) :
    version.labels.level = tag.text.toList := by
  simp only [labels, dev]

/-- The text shows the number as it is, or without the zero micro that a dev tag makes up for. -/
theorem shown_eq_or (version : Version) :
    version.shown = version.number ∨
      (∃ tag, version.level = .dev tag) ∧ version.number.micro = .exactly 0 ∧
        version.shown = { version.number with micro := .unset } := by
  unfold shown
  cases version.level with
  | final => exact .inl rfl
  | dev tag =>
      by_cases zero : version.number.micro = .exactly 0
      · exact .inr ⟨⟨tag, rfl⟩, zero, if_pos zero⟩
      · exact .inl (if_neg zero)

/-- The number that the text shows becomes the number of the version when its micro is
supplied. -/
theorem Canonical.completes_shown (canonical : version.Canonical) :
    Completes version.shown version.labels.level version.number := by
  rcases version.shown_eq_or with whole | ⟨⟨tag, dev⟩, zero, cropped⟩
  · rw [whole]
    exact .kept (canonical.not_lacksMicro _)
  · have levelStored := canonical.level
    rw [dev] at levelStored
    have supplied := @Completes.supplied { version.number with micro := .unset }
      tag.text.toList ⟨rfl, tag, levelStored.1⟩ canonical.minor_ne_wildcard
    rw [← zero] at supplied
    rw [cropped, labels_level_of_dev dev]
    exact supplied

theorem Canonical.shown_wellFormed (canonical : version.Canonical) :
    version.shown.WellFormed := by
  rcases version.shown_eq_or with whole | ⟨-, zero, cropped⟩
  · rw [whole]
    exact canonical.wellFormed
  · rw [cropped]
    refine ⟨canonical.wellFormed.1, fun _ => rfl, ?_⟩
    rintro ⟨major, minor, -⟩
    exact canonical.wellFormed.2.2 ⟨major, minor, .inl zero⟩

theorem shown_atMost {limit : Nat} (within : version.number.AtMost limit) :
    version.shown.AtMost limit := by
  rcases version.shown_eq_or with whole | ⟨-, -, cropped⟩
  · rw [whole]
    exact within
  · rw [cropped]
    exact ⟨within.1, within.2.1, Component.atMost_unset limit⟩

/-- The number and the platform make up the version again with any text that its level is read
from. -/
theorem Canonical.ofParts_of_level (canonical : version.Canonical) {level : List Char}
    (levelRead : Level.read level = .ok version.level) :
    ofParts version.number { version.labels with level } = .ok version := by
  refine ofParts_eq_ok_iff.mpr ⟨canonical.closed, rfl, levelRead, ?_⟩
  unfold labels series? arch?
  cases held : version.platform with
  | none => rfl
  | some platform =>
      obtain ⟨⟨seriesGiven, seriesSmall⟩, archGiven, archSmall⟩ := canonical.platform _ held
      apply readPlatform_eq_ok_iff.mpr
      refine .inr ⟨seriesGiven, archGiven, ?_⟩
      simp [lower_eq_self seriesSmall, lower_eq_self archSmall]

/-- The parts that the text shows make up the version again. -/
theorem Canonical.ofParts_labels (canonical : version.Canonical) :
    ofParts version.number version.labels = .ok version := by
  have levelStored := canonical.level
  have levelRead : Level.read version.labels.level = .ok version.level := by
    unfold labels
    cases level : version.level with
    | final => rfl
    | dev tag =>
        rw [level] at levelStored
        exact Level.read_text_of_stored levelStored
  exact canonical.ofParts_of_level levelRead

/-- The labels of the version do not get in the way of the cut at three dashes. -/
def DashSafe (version : Version) : Prop :=
  (∀ series, version.series? = some series → '-' ∉ series.toList) ∧
    (version.level = .final → ∀ arch, version.arch? = some arch → '-' ∉ arch.toList)

/-- If dashes in the labels are safe, the text is cut into the parts that it shows. -/
theorem Canonical.divides_chars (canonical : version.Canonical) (safe : version.DashSafe) :
    Divides version.chars version.shown.chars version.labels := by
  have levelStored := canonical.level
  obtain ⟨seriesFree, archFree⟩ := safe
  have numberFree := version.shown.dash_not_mem_chars
  unfold chars levelChars platformChars labels series? arch?
  unfold series? at seriesFree
  unfold arch? at archFree
  rw [numberChars_eq]
  cases level : version.level with
  | final =>
      cases held : version.platform with
      | none => simpa [Labels.none] using Divides.bare numberFree
      | some platform =>
          rw [held] at seriesFree archFree
          simpa using Divides.platform numberFree (seriesFree _ rfl) (archFree level _ rfl)
  | dev tag =>
      rw [level] at levelStored
      have tagFree := levelStored.1.dash_not_mem
      cases held : version.platform with
      | none => simpa using Divides.level numberFree tagFree
      | some platform =>
          rw [held] at seriesFree
          simpa using Divides.full numberFree tagFree (seriesFree _ rfl)

/-- The text is read back when the number is within the signed words and dashes are safe. -/
theorem Canonical.read_chars (canonical : version.Canonical)
    (within : version.number.AtMost signedLimit) (safe : version.DashSafe) :
    read version.chars = .ok version := by
  have numberRead : Number.read version.shown.chars = .ok version.shown :=
    (Number.read_chars_eq_ok_iff canonical.shown_wellFormed).mpr (shown_atMost within)
  rw [read_eq_readParts (canonical.divides_chars safe)]
  exact readParts_eq_ok_iff.mpr
    ⟨version.number, ⟨version.shown, numberRead, canonical.completes_shown⟩,
      canonical.ofParts_labels⟩

/-- A final version with a dash in its arch is not read back: the arch that is read is shorter. -/
theorem Canonical.read_chars_ne_of_dash_mem_arch (canonical : version.Canonical)
    (final : version.level = .final) {platform : Platform}
    (held : version.platform = some platform) (seriesFree : '-' ∉ platform.series.toList)
    (dashed : '-' ∈ platform.arch.toList) : read version.chars ≠ .ok version := by
  intro back
  obtain ⟨front, rest, archEq, frontFree⟩ :
      ∃ front rest, platform.arch.toList = front ++ '-' :: rest ∧ '-' ∉ front := by
    cases divided : cut? '-' platform.arch.toList with
    | none => exact absurd dashed (cut?_eq_none_iff.mp divided)
    | some pieces => exact ⟨pieces.1, pieces.2, cut?_eq_some_iff.mp divided⟩
  have textEq : version.chars = version.shown.chars ++
      '-' :: (platform.series.toList ++ '-' :: (front ++ '-' :: rest)) := by
    rw [chars, numberChars_eq, levelChars, platformChars, final, held, ← archEq]
    simp
  -- The series is taken for the level, and the arch is only what follows its own first dash.
  have divides : Divides version.chars version.shown.chars
      ⟨platform.series.toList, front, rest⟩ := by
    rw [textEq]
    exact .full version.shown.dash_not_mem_chars seriesFree frontFree
  rw [read_eq_readParts divides] at back
  obtain ⟨completed, -, built⟩ := readParts_eq_ok_iff.mp back
  obtain ⟨-, -, -, platformRead⟩ := ofParts_eq_ok_iff.mp built
  rw [held] at platformRead
  rcases readPlatform_eq_ok_iff.mp platformRead with ⟨-, -, absent⟩ | ⟨-, -, same⟩
  · contradiction
  · have restSmall : ∀ c ∈ rest, IsSmall c := by
      intro c member
      apply (canonical.platform _ held).2.2 c
      rw [archEq]
      simp [member]
    have archRead : platform.arch.toList = rest := by
      rw [congrArg Platform.arch (Option.some.inj same), String.toList_ofList,
        lower_eq_self restSmall]
    have lengths := congrArg List.length (archEq.symm.trans archRead)
    simp at lengths
    omega

/-- The text of a version is read back exactly when the number is within the signed words and
dashes are safe. -/
theorem Canonical.read_chars_eq_ok_iff (canonical : version.Canonical) :
    read version.chars = .ok version ↔
      version.number.AtMost signedLimit ∧ version.DashSafe := by
  constructor
  · intro back
    obtain ⟨-, within, seriesFree⟩ := canonical_of_read back
    refine ⟨within, seriesFree, ?_⟩
    intro final arch archHeld dashed
    obtain ⟨platform, held, rfl⟩ := Option.map_eq_some_iff.mp archHeld
    have platformFree : '-' ∉ platform.series.toList :=
      seriesFree _ (Option.map_eq_some_iff.mpr ⟨platform, held, rfl⟩)
    exact canonical.read_chars_ne_of_dash_mem_arch final held platformFree dashed back
  · rintro ⟨within, safe⟩
    exact canonical.read_chars within safe

theorem parse_text_eq_read_chars (version : Version) :
    parse version.text = read version.chars := by
  rw [parse, text, String.toList_ofList]

/-! ## The round trip -/

/-- A version read from text is read back from its canonical text exactly when it is not final or
has no dash in its arch. -/
theorem parse_text_of_parse_iff {raw : String} (parsed : parse raw = .ok version) :
    parse version.text = .ok version ↔
      (version.level = .final → ∀ arch, version.arch? = some arch → '-' ∉ arch.toList) := by
  obtain ⟨canonical, within, seriesFree⟩ := canonical_of_read parsed
  rw [parse_text_eq_read_chars, canonical.read_chars_eq_ok_iff]
  constructor
  · rintro ⟨-, -, archFree⟩
    exact archFree
  · intro archFree
    exact ⟨within, seriesFree, archFree⟩

/-- A version whose level is written may have dashes in its arch. -/
theorem parse_text_of_parse_dashed_arch :
    parse "1.2.0-RC1-Xenial-arm-v7" =
        .ok ⟨⟨1, .exactly 2, .exactly 0⟩, .dev ⟨.candidate, 1, "rc1"⟩,
          some ⟨"xenial", "arm-v7"⟩⟩ ∧
      parse (text ⟨⟨1, .exactly 2, .exactly 0⟩, .dev ⟨.candidate, 1, "rc1"⟩,
          some ⟨"xenial", "arm-v7"⟩⟩) =
        .ok ⟨⟨1, .exactly 2, .exactly 0⟩, .dev ⟨.candidate, 1, "rc1"⟩,
          some ⟨"xenial", "arm-v7"⟩⟩ := by
  have parsed : parse "1.2.0-RC1-Xenial-arm-v7" =
      .ok ⟨⟨1, .exactly 2, .exactly 0⟩, .dev ⟨.candidate, 1, "rc1"⟩,
        some ⟨"xenial", "arm-v7"⟩⟩ := rfl
  exact ⟨parsed, (parse_text_of_parse_iff parsed).mpr fun final => nomatch final⟩

/-- The word for final is not written, and then the series of this version is taken for its
level. -/
theorem parse_text_of_parse_final_dashed_arch :
    parse "1.2.3-final-xenial-arm-v7" =
        .ok ⟨⟨1, .exactly 2, .exactly 3⟩, .final, some ⟨"xenial", "arm-v7"⟩⟩ ∧
      parse (text ⟨⟨1, .exactly 2, .exactly 3⟩, .final, some ⟨"xenial", "arm-v7"⟩⟩) =
        .error (.unknownLevel "xenial") :=
  ⟨rfl, rfl⟩

/-- A version from any constructor is read back from its canonical text exactly when no component
of its number exceeds the signed words, its series has no dash, and neither has its arch when it
is final. -/
theorem parse_text_eq_ok_iff (origin : version.Obtainable) :
    parse version.text = .ok version ↔
      version.number.AtMost signedLimit ∧
        (∀ series, version.series? = some series → '-' ∉ series.toList) ∧
        (version.level = .final → ∀ arch, version.arch? = some arch → '-' ∉ arch.toList) := by
  rw [parse_text_eq_read_chars]
  exact origin.canonical.read_chars_eq_ok_iff

/-- The number may come from components and the labels in any letters. -/
theorem parse_text_eq_ok_of_components :
    Obtainable ⟨⟨1, .exactly 2, .exactly 0⟩, .dev ⟨.beta, 2, "beta02"⟩,
        some ⟨"xenial", "arm-v7"⟩⟩ ∧
      parse (text ⟨⟨1, .exactly 2, .exactly 0⟩, .dev ⟨.beta, 2, "beta02"⟩,
          some ⟨"xenial", "arm-v7"⟩⟩) =
        .ok ⟨⟨1, .exactly 2, .exactly 0⟩, .dev ⟨.beta, 2, "beta02"⟩,
          some ⟨"xenial", "arm-v7"⟩⟩ := by
  have number : Number.Obtainable ⟨1, .exactly 2, .exactly 0⟩ :=
    Number.obtainable_iff.mpr (by decide)
  have built : ofParts ⟨1, .exactly 2, .exactly 0⟩
      (.ofOptions (some "BETA02") (some "Xenial") (some "ARM-v7")) =
        .ok ⟨⟨1, .exactly 2, .exactly 0⟩, .dev ⟨.beta, 2, "beta02"⟩,
          some ⟨"xenial", "arm-v7"⟩⟩ := rfl
  have origin := Obtainable.ofParts number built
  refine ⟨origin, (parse_text_eq_ok_iff origin).mpr ⟨by decide, ?_, fun final => nomatch final⟩⟩
  rintro series held
  cases held
  decide

end

end Version

end ReleaseVersion
