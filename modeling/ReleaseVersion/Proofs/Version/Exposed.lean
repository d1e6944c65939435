import ReleaseVersion.Proofs.Version.RoundTrip

/-!
# Versions from the parts they expose

A version exposes its number, the text of its level, and its series and arch.  Every check and
every change of letters that builds a version leaves these parts as they are, so they make up the
same version again, be the word for final among them, dashes in the labels or padding in the dev
tag.  The text of the number does as well as the number itself within the signed words.
-/

namespace ReleaseVersion.Version

open Text

/-- The labels that a version exposes: the text of its level, also when that is final, and those of
its platform if there is one. -/
def exposed (version : Version) : Labels :=
  .ofOptions (some version.level.text) version.series? version.arch?

section

variable {version : Version}

theorem Canonical.ofParts_exposed (canonical : version.Canonical) :
    ofParts version.number version.exposed = .ok version :=
  canonical.ofParts_of_level (Level.read_chars_of_stored canonical.level)

/-- With the text of its number a version is built again exactly when that text is read back. -/
theorem Canonical.ofText_exposed_eq_ok_iff (canonical : version.Canonical) :
    ofText version.number.text version.exposed = .ok version ↔
      Number.parse version.number.text = .ok version.number := by
  rw [ofText, bind_eq_ok_iff]
  constructor
  · rintro ⟨number, numberRead, built⟩
    obtain ⟨-, same, -⟩ := ofParts_eq_ok_iff.mp built
    rw [numberRead, same]
  · intro numberRead
    exact ⟨version.number, numberRead, canonical.ofParts_exposed⟩

/-- A version from any constructor is recovered from its number and the labels that it exposes; with
the text of the number in its place, it is recovered exactly when no component exceeds the signed
words. -/
theorem ofParts_exposed_of_obtainable (origin : version.Obtainable) :
    ofParts version.number version.exposed = .ok version ∧
      (ofText version.number.text version.exposed = .ok version ↔
        version.number.AtMost signedLimit) := by
  have canonical := origin.canonical
  refine ⟨canonical.ofParts_exposed, ?_⟩
  rw [canonical.ofText_exposed_eq_ok_iff, Number.parse_text_eq_read_chars]
  exact Number.read_chars_eq_ok_iff canonical.wellFormed

/-- Labels with dashes and a padded tag are recovered, and so is a component that no text of a
number can have. -/
theorem ofParts_exposed_of_large_number :
    Obtainable ⟨⟨18446744073709551615, .exactly 0, .exactly 0⟩, .dev ⟨.beta, 2, "beta +02"⟩,
        some ⟨"x-σας", "arm-v7"⟩⟩ ∧
      ofParts ⟨18446744073709551615, .exactly 0, .exactly 0⟩
          (.ofOptions (some "beta +02") (some "x-σας") (some "arm-v7")) =
        .ok ⟨⟨18446744073709551615, .exactly 0, .exactly 0⟩, .dev ⟨.beta, 2, "beta +02"⟩,
          some ⟨"x-σας", "arm-v7"⟩⟩ := by
  have number : Number.Obtainable ⟨18446744073709551615, .exactly 0, .exactly 0⟩ :=
    Number.obtainable_iff.mpr (by decide)
  have built : ofParts ⟨18446744073709551615, .exactly 0, .exactly 0⟩
      (.ofOptions (some "BETA +02") (some "X-ΣΑΣ") (some "ARM-v7")) =
        .ok ⟨⟨18446744073709551615, .exactly 0, .exactly 0⟩, .dev ⟨.beta, 2, "beta +02"⟩,
          some ⟨"x-σας", "arm-v7"⟩⟩ := by decide +kernel
  have origin := Obtainable.ofParts number built
  exact ⟨origin, (ofParts_exposed_of_obtainable origin).1⟩

end

end ReleaseVersion.Version
