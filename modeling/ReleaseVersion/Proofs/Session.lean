import ReleaseVersion.Proofs.Holdings
import ReleaseVersion.Proofs.Number.Tokens
import ReleaseVersion.Session

/-!
# Sessions as sequences of calls

A session keeps one number and one version and forgets the others.  Each of its steps comes to at
most one call that builds a value, so all that a session ever holds can be held by calls, and what
holds of every value that calls can build holds in every session.
-/

namespace ReleaseVersion

open Holdings

namespace Holdings

theorem mem_numbers_after {held : Holdings} {number : Number} (call : Call)
    (member : number ∈ held.numbers) : number ∈ (held.after call).numbers := by
  unfold after
  split
  · exact List.mem_append_left _ member
  · exact member

theorem mem_versions_after {held : Holdings} {version : Version} (call : Call)
    (member : version ∈ held.versions) : version ∈ (held.after call).versions := by
  unfold after
  split
  · exact List.mem_append_left _ member
  · exact member

theorem after_of_build {held built : Holdings} {call : Call} (done : held.build call = some built) :
    held.after call = held.append built := by
  simp only [after, done]

end Holdings

namespace Session

/-- The session holds nothing that is not held. -/
structure Within (session : Session) (held : Holdings) : Prop where
  number : session.number ∈ held.numbers
  version : ∀ version, session.version = some version → version ∈ held.versions

section

variable {session : Session} {held : Holdings}

/-- A step that holds nothing else comes to no call. -/
theorem Within.after_same {α : Type} {result : Except Fault α} {tell : α → Outcome}
    (within : session.Within held) (next : Step)
    (step : session.step next = result.map fun found => (session, tell found)) :
    ∃ calls, (session.after next).Within (held.run calls) := by
  refine ⟨[], ?_⟩
  unfold after
  rw [step]
  cases result with
  | error fault => exact within
  | ok found => exact within

/-- A step that holds another number comes to a call that builds this number. -/
theorem Within.after_number {result : Except Fault Number} (within : session.Within held)
    (next : Step) (call : Call) (step : session.step next = result.map session.holdNumber)
    (builds : held.build call = ofNumber result) :
    ∃ calls, (session.after next).Within (held.run calls) := by
  unfold after
  rw [step]
  cases result with
  | error fault => exact ⟨[], within⟩
  | ok number =>
      refine ⟨[call], ?_, fun version same => mem_versions_after call (within.version version same)⟩
      change number ∈ (held.after call).numbers
      rw [after_of_build builds]
      exact List.mem_append_right _ (List.mem_singleton_self number)

/-- A step that holds another version comes to a call that builds this version. -/
theorem Within.after_version {result : Except Fault Version} {tell : Version → Outcome}
    (within : session.Within held) (next : Step) (call : Call)
    (step : session.step next =
      result.map fun version => ({ session with version := some version }, tell version))
    (builds : held.build call = ofVersion result) :
    ∃ calls, (session.after next).Within (held.run calls) := by
  unfold after
  rw [step]
  cases result with
  | error fault => exact ⟨[], within⟩
  | ok version =>
      refine ⟨[call], mem_numbers_after call within.number, ?_⟩
      rintro version ⟨⟩
      change version ∈ (held.after call).versions
      rw [after_of_build builds]
      exact List.mem_append_right _ (List.mem_singleton_self version)

/-- A step that needs a version comes to no call while there is none. -/
theorem Within.after_done (within : session.Within held) (next : Step)
    (step : session.step next = .ok (session, .done)) :
    ∃ calls, (session.after next).Within (held.run calls) := by
  refine ⟨[], ?_⟩
  unfold after
  rw [step]
  exact within

/-- Each step comes to at most one call. -/
theorem Within.after (within : session.Within held) (next : Step) :
    ∃ calls, (session.after next).Within (held.run calls) := by
  obtain ⟨place, found⟩ := List.mem_iff_getElem?.mp within.number
  cases next with
  | parse raw => exact within.after_number _ (.parseNumber raw) rfl rfl
  | reparse => exact within.after_number _ (.parseNumber session.number.text) rfl rfl
  | withMicro micro =>
      exact within.after_number _ (.withMicro place micro) rfl (by simp [build, found])
  | components major minor micro =>
      exact within.after_number _
        (.numberOfComponents (major.getD session.number.major) minor micro) rfl rfl
  | rebuild =>
      exact within.after_number _
        (.numberOfTokens (.ofComponent (.exactly session.number.major))
          (.ofComponent session.number.minor) (.ofComponent session.number.micro)) rfl rfl
  | accepts candidate => exact within.after_same (.accepts candidate) rfl
  | acceptedBy pattern => exact within.after_same (.acceptedBy pattern) rfl
  | version level series arch =>
      exact within.after_version _ (.versionOfNumber place level series arch) rfl
        (by simp [build, found])
  | versionOfText level series arch =>
      exact within.after_version _ (.versionOfText session.number.text level series arch) rfl rfl
  | parseVersion raw => exact within.after_version _ (.parseVersion raw) rfl rfl
  | relabel level series arch =>
      cases version : session.version with
      | none => exact within.after_done _ (by simp only [step, version])
      | some kept =>
          obtain ⟨versionPlace, versionFound⟩ :=
            List.mem_iff_getElem?.mp (within.version kept version)
          exact within.after_version _ (.relabel place versionPlace level series arch)
            (by simp only [step, version]; rfl) (by simp [build, found, versionFound])
  | reparseVersion =>
      cases version : session.version with
      | none => exact within.after_done _ (by simp only [step, version])
      | some kept =>
          exact within.after_version _ (.parseVersion kept.text)
            (by simp only [step, version]; rfl) rfl
  | takeNumber =>
      cases version : session.version with
      | none => exact within.after_done _ (by simp only [step, version])
      | some kept =>
          obtain ⟨versionPlace, versionFound⟩ :=
            List.mem_iff_getElem?.mp (within.version kept version)
          have taken : session.step .takeNumber =
              (Except.ok kept.number : Except Fault Number).map session.holdNumber := by
            simp only [step, version]
            rfl
          exact within.after_number _ (.numberOfVersion versionPlace) taken
            (by simp [build, versionFound, ofNumber])
  | compare raw => exact within.after_same (.compare raw) rfl

end

/-- All that a session holds along its steps can be held by calls. -/
theorem Within.run {session : Session} {held : Holdings} (within : session.Within held)
    (steps : List Step) {entry : Except Fault Outcome × Session}
    (member : entry ∈ session.run steps) : ∃ calls, entry.2.Within (held.run calls) := by
  induction steps generalizing session held with
  | nil => exact nomatch member
  | cons next rest inductionHypothesis =>
      obtain ⟨first, withinNext⟩ := within.after next
      rcases List.mem_cons.mp member with rfl | later
      · exact ⟨first, withinNext⟩
      · obtain ⟨calls, withinLater⟩ := inductionHypothesis withinNext later
        refine ⟨first ++ calls, ?_⟩
        rw [Holdings.run, List.foldl_append]
        exact withinLater

/-- Along all steps of a session its number obeys the rules between fields, and its version is
coherent. -/
theorem wellFormed_and_coherent_of_start {raw : String} {session : Session} {steps : List Step}
    {entry : Except Fault Outcome × Session} (started : start raw = .ok session)
    (member : entry ∈ session.run steps) :
    entry.2.number.WellFormed ∧
      ∀ version, entry.2.version = some version → version.Coherent := by
  obtain ⟨number, numberRead, rfl⟩ := map_eq_ok_iff.mp started
  have within : Within ⟨number, none⟩ (empty.run [.parseNumber raw]) := by
    have builds : empty.build (.parseNumber raw) = some ⟨[number], []⟩ := by
      simp only [build, numberRead, ofNumber]
    refine ⟨?_, fun version absent => absurd absent (Option.some_ne_none version).symm⟩
    change number ∈ (empty.after (.parseNumber raw)).numbers
    rw [after_of_build builds]
    exact List.mem_append_right _ (List.mem_singleton_self number)
  obtain ⟨calls, withinEntry⟩ := within.run steps member
  have sound := (sound_empty.run [.parseNumber raw]).run calls
  exact ⟨sound.numbers _ withinEntry.number,
    fun version same => (sound.versions version (withinEntry.version version same)).coherent⟩

/-- Building a number again from the tokens of its components comes to reading its canonical
text. -/
theorem rebuildNumber_eq_parse_text (number : Number) :
    rebuildNumber number = Number.parse number.text := by
  have divides := number.divides_chars
  rw [← number.trim_chars] at divides
  rw [rebuildNumber, Number.ofTokens_ofComponent, Number.parse_text_eq_read_chars,
    Number.read_of_divides divides]

end Session

end ReleaseVersion
