import ReleaseVersion.Client
import ReleaseVersion.Proofs.Executable.Running
import ReleaseVersion.Proofs.Number.Meaning
import ReleaseVersion.Proofs.Version.RoundTrip

/-!
# The client from end to end

Finding the client goes through three stages: an executable is looked up, it is asked for its
version, and the pattern is held against that version.  The first stage that fails gives the fault,
and a version is refused only by a pattern that does not stand for it.
-/

namespace ReleaseVersion.Client

open Host Text

variable {machine : Machine} {name : String} {requested : Option Number}
  {overrides : Option Variables}

/-- What comes of finding the client. -/
inductive Outcome (machine : Machine) (name : String) (requested : Option Number)
    (overrides : Option Variables) : Except ExecutableFault (Executable × Version) → Prop
  /-- No executable is found. -/
  | unfound {fault : ExecutableFault} :
      Executable.find machine name overrides = .error fault →
      Outcome machine name requested overrides (.error fault)
  /-- The executable tells no version. -/
  | untold {executable : Executable} {fault : ExecutableFault} :
      Executable.find machine name overrides = .ok executable →
      executable.Telling machine (.error fault) →
      Outcome machine name requested overrides (.error fault)
  /-- The pattern refuses the version. -/
  | mismatch {executable : Executable} {found : Version} {pattern : Number} :
      Executable.find machine name overrides = .ok executable →
      executable.Telling machine (.ok found) →
      requested = some pattern → pattern.accepts found.number = false →
      Outcome machine name requested overrides (.error (.mismatch pattern found))
  /-- There is no pattern, or it accepts the version. -/
  | usable {executable : Executable} {found : Version} :
      Executable.find machine name overrides = .ok executable →
      executable.Telling machine (.ok found) →
      (∀ pattern, requested = some pattern → pattern.accepts found.number = true) →
      Outcome machine name requested overrides (.ok (executable, found))

theorem find_of_located {executable : Executable}
    (located : Executable.find machine name overrides = .ok executable) :
    find machine name requested overrides =
      executable.version machine >>= fun found => (checking requested executable found).result := by
  rw [find_eq, located]
  rfl

theorem find_of_outcome {result : Except ExecutableFault (Executable × Version)}
    (outcome : Outcome machine name requested overrides result) :
    find machine name requested overrides = result := by
  cases outcome with
  | unfound refused =>
      rw [find_eq, refused]
      rfl
  | untold located telling =>
      rw [find_of_located located, Executable.version_of_telling telling]
      rfl
  | mismatch located telling asked refuses =>
      subst asked
      rw [find_of_located located, Executable.version_of_telling telling]
      exact result_checking_of_refuses refuses _
  | usable located telling accepts =>
      rw [find_of_located located, Executable.version_of_telling telling]
      cases requested with
      | none => exact result_checking_none _ _
      | some pattern => exact result_checking_of_accepts (accepts pattern rfl) _

/-- Finding the client comes to something. -/
theorem exists_outcome (machine : Machine) (name : String) (requested : Option Number)
    (overrides : Option Variables) :
    ∃ result, Outcome machine name requested overrides result := by
  cases located : Executable.find machine name overrides with
  | error fault => exact ⟨_, .unfound located⟩
  | ok executable =>
      obtain ⟨told, telling⟩ := Executable.exists_telling executable machine
      cases told with
      | error fault => exact ⟨_, .untold located telling⟩
      | ok found =>
          cases asked : requested with
          | none => exact ⟨_, .usable located telling fun pattern held => by simp at held⟩
          | some pattern =>
              cases accepted : pattern.accepts found.number with
              | false => exact ⟨_, .mismatch located telling rfl accepted⟩
              | true =>
                  refine ⟨_, .usable located telling fun other held => ?_⟩
                  rw [← Option.some.inj held]
                  exact accepted

theorem find_eq_iff (machine : Machine) (name : String) (requested : Option Number)
    (overrides : Option Variables) (result : Except ExecutableFault (Executable × Version)) :
    find machine name requested overrides = result ↔
      Outcome machine name requested overrides result :=
  eq_iff_of_outcomes (exists_outcome machine name requested overrides) find_of_outcome result

/-- A client is reported missing only when its name stands for nothing: what was found on a machine
can also be run there. -/
theorem find_eq_notFound_iff {place : Place} (works : machine.WorksAt place) {missing : String}
    {searched : Option String} :
    find machine name requested overrides = .error (.notFound missing searched) ↔
      Executable.find machine name overrides = .error (.notFound missing searched) := by
  constructor
  · intro reported
    cases (find_eq_iff machine name requested overrides _).mp reported with
    | unfound refused => exact refused
    | @untold executable _ located telling =>
        have given : name ≠ "" := by
          rintro rfl
          cases located
        have lookup := (Executable.find_eq_iff works given overrides _).mp located
        have runnable := (Executable.isAbsolute_and_runnable_of_lookup works lookup).2
        cases telling with
        | failed fails =>
            cases fails with
            | vanished _ blocked _ => exact absurd runnable blocked
  · exact fun refused => find_of_outcome (.unfound refused)

/-! ## Refused versions -/

/-- A pattern accepts the version of an executable exactly when it stands for its number. -/
theorem accepts_told_iff {executable : Executable} {found : Version} {pattern : Number}
    (telling : executable.Telling machine (.ok found)) :
    pattern.accepts found.number = true ↔ found.number.meaning ⊆ pattern.meaning := by
  cases telling with
  | told _ _ parsed =>
      obtain ⟨canonical, within, -⟩ := Version.canonical_of_read parsed
      exact Number.accepts_iff_subset_of_closed canonical.wellFormed
        (within.mono signedLimit_le_unsignedLimit) canonical.closed

/-- Only the pattern brings in a mismatch: looking up an executable never does. -/
theorem find_ne_mismatch {pattern : Number} {found : Version} :
    Executable.find machine name overrides ≠ .error (.mismatch pattern found) := by
  by_cases empty : name.isEmpty = true
  · simp [Executable.find_of_isEmpty empty]
  · rw [Executable.find_of_given empty]
    cases Executable.locate? machine name.toList (Executable.searchPath machine overrides) with
    | none => simp
    | some filename => grind [Executable.ofPath]

/-- And asking for its version never does. -/
theorem not_telling_mismatch {executable : Executable} {pattern : Number} {found : Version} :
    ¬executable.Telling machine (.error (.mismatch pattern found)) := by
  intro telling
  cases telling with
  | failed fails => cases fails

/-! ## From end to end -/

/-- Finding the client succeeds exactly when every stage does, and else gives the fault of the first
stage that fails.  A mismatch names the pattern that was asked for and the version that was told,
and it arises only when the pattern does not stand for that version. -/
theorem find_eq_iff_outcome (machine : Machine) (name : String) (requested : Option Number)
    (overrides : Option Variables) :
    (∀ result, find machine name requested overrides = result ↔
        Outcome machine name requested overrides result) ∧
      ∀ pattern found, find machine name requested overrides = .error (.mismatch pattern found) →
        requested = some pattern ∧ ¬found.number.meaning ⊆ pattern.meaning := by
  have exactly := find_eq_iff machine name requested overrides
  refine ⟨exactly, ?_⟩
  intro pattern found mismatched
  cases (exactly _).mp mismatched with
  | unfound refused => exact absurd refused find_ne_mismatch
  | untold _ telling => exact absurd telling not_telling_mismatch
  | mismatch _ telling asked refuses =>
      rw [← accepts_told_iff telling, refuses]
      exact ⟨asked, Bool.false_ne_true⟩

/-- A client that tells that it is version 2.9.42. -/
def oldClient : File :=
  ⟨ByteArray.empty, 0o755, .program fun _ => ⟨"2.9.42\n".toUTF8, ByteArray.empty, .exited 0⟩⟩

/-- A machine with this client alone. -/
def office : Machine where
  files := ⟨[(["juju".toList], .file oldClient)]⟩
  directory := ['/']
  environment := []

theorem pathLeads_office :
    office.files.PathLeads office.directory "/juju".toList (.file oldClient) :=
  FileTree.pathLeads_slash (by decide) (by decide) (by decide) rfl

theorem find_office : Executable.find office "/juju" none = .ok ⟨"/juju".toList, none⟩ :=
  Executable.find_of_lookup (Machine.worksAt_root rfl) (by decide)
    (.path (by decide) ⟨oldClient, pathLeads_office, by decide⟩)

theorem telling_office : Executable.Telling ⟨"/juju".toList, none⟩ office
    (.ok ⟨⟨2, .exactly 9, .exactly 42⟩, .final, none⟩) := by
  have zeroFree : Executable.ZeroFree ⟨"/juju".toList, none⟩ ["version"] :=
    Executable.givesZero_eq_false_iff.mp (by decide)
  have holds : Executable.Holds ⟨"/juju".toList, none⟩ office
      fun _ => ⟨"2.9.42\n".toUTF8, ByteArray.empty, .exited 0⟩ :=
    ⟨oldClient, pathLeads_office, by decide, rfl⟩
  have trimmed : Trimmed "2.9.42\n".toList "2.9.42".toList := trim_eq_iff.mp (by decide)
  exact .told (.program zeroFree holds) trimmed (by decide)

/-- The old client is refused where the next major version is asked for, and taken where its own
minor version is. -/
theorem find_eq_iff_outcome_of_old_client :
    find office "/juju" (some ⟨3, .wildcard, .unset⟩) none =
        .error (.mismatch ⟨3, .wildcard, .unset⟩ ⟨⟨2, .exactly 9, .exactly 42⟩, .final, none⟩) ∧
      find office "/juju" (some ⟨2, .exactly 9, .unset⟩) none =
        .ok (⟨"/juju".toList, none⟩, ⟨⟨2, .exactly 9, .exactly 42⟩, .final, none⟩) := by
  constructor
  · apply ((find_eq_iff_outcome office "/juju" _ none).1 _).mpr
    exact .mismatch find_office telling_office rfl (by decide)
  · apply ((find_eq_iff_outcome office "/juju" _ none).1 _).mpr
    apply Outcome.usable find_office telling_office
    intro pattern asked
    rw [← Option.some.inj asked]
    decide

end ReleaseVersion.Client
