import ReleaseVersion.Proofs.Config.Decoding
import ReleaseVersion.Proofs.Version.RoundTrip

/-!
# What can be held

A caller builds numbers and versions, one from the other and in any order, and keeps all of them.
A call that is refused leaves what is held as it was.  Every constructor checks its own result, so
whatever has been called, each number that is held obeys the rules between fields, and each version
is coherent: it has a full number, labels in small letters that come in pairs, and a dev tag that
still spells its stage and serial.
-/

namespace ReleaseVersion

open Text

/-! ## Coherent versions -/

/-- The tag keeps the text that it was read from: the name of its stage, and then, white space
around it ignored, its serial, which counts from one and is an unsigned word. -/
def DevTag.Kept (tag : DevTag) : Prop :=
  ∃ rest, tag.text.toList = tag.stage.chars ++ rest ∧ IsUnsigned (trim rest) tag.serial ∧
    1 ≤ tag.serial ∧ tag.serial ≤ unsignedLimit ∧ '-' ∉ tag.text.toList

/-- The label is not empty, and it is the lower-case form of some text. -/
def IsLabel (label : String) : Prop :=
  label ≠ "" ∧ ∃ raw, label.toList = lower raw

/-- What all parts of the library rely on in a version. -/
structure Version.Coherent (version : Version) : Prop where
  wellFormed : version.number.WellFormed
  minor : ∃ n, version.number.minor = .exactly n
  micro : ∃ n, version.number.micro = .exactly n
  labels : (version.series? = none ∧ version.arch? = none) ∨
    ∃ series arch, version.series? = some series ∧ version.arch? = some arch ∧
      IsLabel series ∧ IsLabel arch
  tag : ∀ tag, version.level = .dev tag → tag.Kept

theorem DevTag.kept_of_stored {tag : DevTag} (stored : (Level.dev tag).Stored) : tag.Kept := by
  obtain ⟨spelt, -⟩ := stored
  obtain ⟨before, numeral, after, textEq, whiteBefore, serial, whiteAfter⟩ := spelt.form
  refine ⟨before ++ (numeral ++ after), textEq, ?_, spelt.serial_pos, spelt.serial_le,
    spelt.dash_not_mem⟩
  exact isUnsigned_trim_iff.mpr
    ⟨before, numeral, after, rfl, whiteBefore, serial, whiteAfter⟩

theorem isLabel_of_small {label : String} (given : label.toList ≠ [])
    (small : ∀ c ∈ label.toList, IsSmall c) : IsLabel label :=
  ⟨fun empty => given (by simp [empty]), label.toList, (lower_eq_self small).symm⟩

theorem Version.Canonical.coherent {version : Version} (canonical : version.Canonical) :
    version.Coherent where
  wellFormed := canonical.wellFormed
  minor := by
    cases minor : version.number.minor with
    | exactly n => exact ⟨n, rfl⟩
    | wildcard => exact absurd minor canonical.minor_ne_wildcard
    | unset => exact absurd minor canonical.wellFormed.1
  micro := by
    have closed := canonical.closed
    cases micro : version.number.micro with
    | exactly n => exact ⟨n, rfl⟩
    | wildcard => simp [Number.isOpen, micro] at closed
    | unset => exact absurd micro canonical.micro_ne_unset
  labels := by
    unfold Version.series? Version.arch?
    cases held : version.platform with
    | none => exact .inl ⟨rfl, rfl⟩
    | some platform =>
        obtain ⟨⟨seriesGiven, seriesSmall⟩, archGiven, archSmall⟩ := canonical.platform _ held
        exact .inr ⟨_, _, rfl, rfl, isLabel_of_small seriesGiven seriesSmall,
          isLabel_of_small archGiven archSmall⟩
  tag := by
    intro tag dev
    have stored := canonical.level
    rw [dev] at stored
    exact DevTag.kept_of_stored stored

/-! ## Calls -/

/-- The numbers and versions that are held, the oldest first. -/
structure Holdings where
  numbers : List Number
  versions : List Version
deriving DecidableEq, Repr

/-- The calls that build values.  What is already held is named by its place. -/
inductive Call where
  /-- A number from its text. -/
  | parseNumber (raw : String)
  /-- A number from one token for each field. -/
  | numberOfTokens (major minor micro : Token)
  /-- A number from components. -/
  | numberOfComponents (major : Nat) (minor micro : Component)
  /-- A held number with another micro. -/
  | withMicro (number : Nat) (micro : Component)
  /-- The number of a held version. -/
  | numberOfVersion (version : Nat)
  /-- A version from its text. -/
  | parseVersion (raw : String)
  /-- A version of a held number. -/
  | versionOfNumber (number : Nat) (level series arch : Option String)
  /-- A version of the number that a text gives. -/
  | versionOfText (number : String) (level series arch : Option String)
  /-- A version of a held number with the labels of a held version, except those given. -/
  | relabel (number version : Nat) (level series arch : Option String)
  /-- The number in a JSON document that is a single string. -/
  | decodeNumber (document : String)
  /-- The version in a JSON document that is a single string. -/
  | decodeVersion (document : String)
  /-- The number and the version in a configuration document. -/
  | configure (format : Config.Format) (document : String)
deriving Repr

namespace Holdings

/-- Nothing. -/
def empty : Holdings :=
  ⟨[], []⟩

/-- All that is in either. -/
def append (first second : Holdings) : Holdings :=
  ⟨first.numbers ++ second.numbers, first.versions ++ second.versions⟩

/-- A number, if there is one, and no version. -/
def ofNumber {ε : Type} : Except ε Number → Option Holdings
  | .ok number => some ⟨[number], []⟩
  | .error _ => none

/-- A version, if there is one, and no number. -/
def ofVersion {ε : Type} : Except ε Version → Option Holdings
  | .ok version => some ⟨[], [version]⟩
  | .error _ => none

/-- What a choice of client holds. -/
def ofChoice (choice : ClientChoice) : Holdings :=
  ⟨choice.version.toList, choice.agentVersion.toList⟩

/-- What a call builds, unless it is refused. -/
def build (held : Holdings) : Call → Option Holdings
  | .parseNumber raw => ofNumber (Number.parse raw)
  | .numberOfTokens major minor micro => ofNumber (Number.ofTokens major minor micro)
  | .numberOfComponents major minor micro => ofNumber (Number.ofComponents major minor micro)
  | .withMicro number micro => do
      let number ← held.numbers[number]?
      ofNumber (number.withMicro micro)
  | .numberOfVersion version => do
      let version ← held.versions[version]?
      some ⟨[version.number], []⟩
  | .parseVersion raw => ofVersion (Version.parse raw)
  | .versionOfNumber number level series arch => do
      let number ← held.numbers[number]?
      ofVersion (Version.ofParts number (.ofOptions level series arch))
  | .versionOfText number level series arch =>
      ofVersion (Version.ofText number (.ofOptions level series arch))
  | .relabel number version level series arch => do
      let number ← held.numbers[number]?
      let version ← held.versions[version]?
      ofVersion (Version.ofParts number
        (.ofOptions (level <|> some version.level.text) (series <|> version.series?)
          (arch <|> version.arch?)))
  | .decodeNumber document => ofNumber (Config.Json.decodeString Number.parse document)
  | .decodeVersion document => ofVersion (Config.Json.decodeString Version.parse document)
  | .configure format document =>
      match Config.parse format document with
      | .ok config => some (ofChoice config.client)
      | .error _ => none

/-- What is held after a call: all that was held before, and what the call built. -/
def after (held : Holdings) (call : Call) : Holdings :=
  match held.build call with
  | some built => held.append built
  | none => held

/-- What is held after calls that follow each other. -/
def run (held : Holdings) (calls : List Call) : Holdings :=
  calls.foldl after held

/-! ## What calls keep -/

/-- Every number obeys the rules between fields, and every version is as the constructors leave
it. -/
structure Sound (held : Holdings) : Prop where
  numbers : ∀ number ∈ held.numbers, number.WellFormed
  versions : ∀ version ∈ held.versions, version.Canonical

theorem sound_empty : empty.Sound where
  numbers _ member := nomatch member
  versions _ member := nomatch member

theorem Sound.append {first second : Holdings} (firstSound : first.Sound)
    (secondSound : second.Sound) : (first.append second).Sound where
  numbers number member :=
    (List.mem_append.mp member).elim (firstSound.numbers number) (secondSound.numbers number)
  versions version member :=
    (List.mem_append.mp member).elim (firstSound.versions version) (secondSound.versions version)

theorem sound_of_ofNumber {ε : Type} {result : Except ε Number} {built : Holdings}
    (wellFormed : ∀ number, result = .ok number → number.WellFormed)
    (done : ofNumber result = some built) : built.Sound := by
  cases result with
  | error _ => simp [ofNumber] at done
  | ok number =>
      cases done
      exact ⟨by simpa using wellFormed number rfl, fun _ member => nomatch member⟩

theorem sound_of_ofVersion {ε : Type} {result : Except ε Version} {built : Holdings}
    (canonical : ∀ version, result = .ok version → version.Canonical)
    (done : ofVersion result = some built) : built.Sound := by
  cases result with
  | error _ => simp [ofVersion] at done
  | ok version =>
      cases done
      exact ⟨fun _ member => (nomatch member), by simpa using canonical version rfl⟩

theorem sound_ofChoice {choice : ClientChoice} (parsed : choice.Parsed) :
    (ofChoice choice).Sound where
  numbers number member := by
    obtain ⟨raw, numberRead⟩ := parsed.version number (Option.mem_toList.mp member)
    exact Number.wellFormed_of_read numberRead
  versions version member := by
    obtain ⟨raw, versionRead⟩ := parsed.agentVersion version (Option.mem_toList.mp member)
    exact (Version.canonical_of_read versionRead).1

/-- Whatever is held, a call builds nothing but sound values. -/
theorem Sound.build {held built : Holdings} {call : Call} (sound : held.Sound)
    (done : held.build call = some built) : built.Sound := by
  cases call with
  | parseNumber raw => exact sound_of_ofNumber (fun _ => Number.wellFormed_of_read) done
  | numberOfTokens major minor micro =>
      exact sound_of_ofNumber (fun _ => Number.wellFormed_of_ofTokens) done
  | numberOfComponents major minor micro =>
      exact sound_of_ofNumber (fun _ made => (Number.ofComponents_eq_ok_iff.mp made).2) done
  | withMicro place micro =>
      obtain ⟨number, -, done⟩ := Option.bind_eq_some_iff.mp done
      exact sound_of_ofNumber (fun _ made => (Number.ofComponents_eq_ok_iff.mp made).2) done
  | numberOfVersion place =>
      obtain ⟨version, found, done⟩ := Option.bind_eq_some_iff.mp done
      cases done
      have canonical := sound.versions version (List.mem_of_getElem? found)
      exact ⟨by simpa using canonical.wellFormed, fun _ member => nomatch member⟩
  | parseVersion raw =>
      exact sound_of_ofVersion (fun _ versionRead => (Version.canonical_of_read versionRead).1) done
  | versionOfNumber place level series arch =>
      obtain ⟨number, found, done⟩ := Option.bind_eq_some_iff.mp done
      have wellFormed := sound.numbers number (List.mem_of_getElem? found)
      exact sound_of_ofVersion (fun _ => Version.canonical_of_ofParts wellFormed) done
  | versionOfText number level series arch =>
      exact sound_of_ofVersion (fun _ made => (Version.Obtainable.ofText made).canonical) done
  | relabel numberPlace versionPlace level series arch =>
      obtain ⟨number, found, done⟩ := Option.bind_eq_some_iff.mp done
      -- The labels are read again as any others are, so nothing is needed of the version.
      obtain ⟨version, -, done⟩ := Option.bind_eq_some_iff.mp done
      have wellFormed := sound.numbers number (List.mem_of_getElem? found)
      exact sound_of_ofVersion (fun _ => Version.canonical_of_ofParts wellFormed) done
  | decodeNumber document =>
      refine sound_of_ofNumber (fun _ decoded => ?_) done
      obtain ⟨raw, numberRead⟩ := Config.Json.exists_of_decodeString decoded
      exact Number.wellFormed_of_read numberRead
  | decodeVersion document =>
      refine sound_of_ofVersion (fun _ decoded => ?_) done
      obtain ⟨raw, versionRead⟩ := Config.Json.exists_of_decodeString decoded
      exact (Version.canonical_of_read versionRead).1
  | configure format document =>
      simp only [Holdings.build] at done
      split at done
      · rename_i decoded
        cases done
        exact sound_ofChoice (Config.parsed_of_parse decoded)
      · simp at done

theorem Sound.after {held : Holdings} (sound : held.Sound) (call : Call) :
    (held.after call).Sound := by
  unfold Holdings.after
  split
  · rename_i done
    exact sound.append (sound.build done)
  · exact sound

theorem Sound.run {held : Holdings} (sound : held.Sound) (calls : List Call) :
    (held.run calls).Sound := by
  induction calls generalizing held with
  | nil => exact sound
  | cons call rest inductionHypothesis => exact inductionHypothesis (sound.after call)

/-- Whatever calls follow each other, refused ones among them, every number that is then held
obeys the rules between fields, and every version is coherent. -/
theorem wellFormed_and_coherent_of_run (calls : List Call) :
    (∀ number ∈ (empty.run calls).numbers, number.WellFormed) ∧
      ∀ version ∈ (empty.run calls).versions, version.Coherent := by
  have sound := sound_empty.run calls
  exact ⟨sound.numbers, fun version member => (sound.versions version member).coherent⟩

/-- A version is read, its number taken out and left open, and, after a call that is refused
because of the open micro, the version is given another level. -/
theorem wellFormed_and_coherent_of_run_relabelled :
    empty.run [.parseVersion "1.2-beta+02-Xenial-ARM-v7", .numberOfVersion 0,
        .withMicro 0 .wildcard, .versionOfNumber 1 none none none,
        .relabel 0 0 (some "RC1") none none] =
      ⟨[⟨1, .exactly 2, .exactly 0⟩, ⟨1, .exactly 2, .wildcard⟩],
        [⟨⟨1, .exactly 2, .exactly 0⟩, .dev ⟨.beta, 2, "beta+02"⟩, some ⟨"xenial", "arm-v7"⟩⟩,
          ⟨⟨1, .exactly 2, .exactly 0⟩, .dev ⟨.candidate, 1, "rc1"⟩, some ⟨"xenial", "arm-v7"⟩⟩]⟩ ∧
      Number.WellFormed ⟨1, .exactly 2, .wildcard⟩ ∧
      Version.Coherent ⟨⟨1, .exactly 2, .exactly 0⟩, .dev ⟨.candidate, 1, "rc1"⟩,
        some ⟨"xenial", "arm-v7"⟩⟩ := by
  refine ⟨rfl, ?_, ?_⟩
  · exact (wellFormed_and_coherent_of_run [.parseVersion "1.2-beta+02-Xenial-ARM-v7",
      .numberOfVersion 0, .withMicro 0 .wildcard]).1 _ (.tail _ (.head _))
  · exact (wellFormed_and_coherent_of_run [.parseVersion "1.2-beta+02-Xenial-ARM-v7",
      .numberOfVersion 0, .relabel 0 0 (some "RC1") none none]).2 _ (.tail _ (.head _))

end Holdings

end ReleaseVersion
