import ReleaseVersion.Executable
import ReleaseVersion.Proofs.Host.Process
import ReleaseVersion.Proofs.Host.WorkingDirectory

/-!
# What a name stands for

Every outcome of looking an executable up, said by what the paths in question lead to: a name with
a slash is a path by itself, and any other stands for the first entry of the search path where it
can be run.  What is found is an absolute path, and it can be run under that path too.
-/

namespace ReleaseVersion

/-- Outcomes that leave no case out, and each of which fixes the value, are the outcomes of the
value. -/
theorem eq_iff_of_outcomes {α : Type} {value : α} {Outcome : α → Prop}
    (complete : ∃ result, Outcome result) (sound : ∀ {result}, Outcome result → value = result)
    (result : α) : value = result ↔ Outcome result := by
  constructor
  · rintro rfl
    obtain ⟨result, outcome⟩ := complete
    rw [sound outcome]
    exact outcome
  · exact sound

namespace Executable

open Host Text

variable {machine : Machine} {place : Place} {name : String} {overrides : Option Variables}

/-! ## The search path -/

/-- The search path of a lookup: the one that the overriding variables give, else that of the
environment when it is there and text. -/
inductive Searches (machine : Machine) (overrides : Option Variables) : Option String → Prop
  | overridden {values : Variables} {path : String} :
      overrides = some values → values.lookup "PATH" = some path →
      Searches machine overrides (some path)
  | inherited {path : String} :
      (∀ values, overrides = some values → values.lookup "PATH" = none) →
      machine.environment.value? "PATH" = some path.toUTF8 →
      Searches machine overrides (some path)
  | nowhere :
      (∀ values, overrides = some values → values.lookup "PATH" = none) →
      (∀ path : String, machine.environment.value? "PATH" ≠ some path.toUTF8) →
      Searches machine overrides none

theorem searchPath_of_lookup {values : Variables} {path : String}
    (held : values.lookup "PATH" = some path) :
    searchPath machine (some values) = some path := by
  rw [searchPath, Option.bind_some, held]
  rfl

theorem searchPath_of_absent
    (absent : ∀ values, overrides = some values → values.lookup "PATH" = none) :
    searchPath machine overrides = machine.environment.text? "PATH" := by
  rw [searchPath, Option.bind_eq_none_iff.mpr absent]
  rfl

theorem searchPath_eq_iff {searched : Option String} :
    searchPath machine overrides = searched ↔ Searches machine overrides searched := by
  constructor
  · rintro rfl
    cases given : overrides.bind fun values => values.lookup "PATH" with
    | some path =>
        obtain ⟨values, rfl, held⟩ := Option.bind_eq_some_iff.mp given
        rw [searchPath_of_lookup held]
        exact .overridden rfl held
    | none =>
        have absent := Option.bind_eq_none_iff.mp given
        rw [searchPath_of_absent absent]
        cases inherits : machine.environment.text? "PATH" with
        | some path => exact .inherited absent (Environment.text?_eq_some_iff.mp inherits)
        | none =>
            refine .nowhere absent fun path value => ?_
            rw [Environment.text?_eq_some_iff.mpr value] at inherits
            contradiction
  · rintro (⟨rfl, held⟩ | ⟨absent, value⟩ | ⟨absent, unset⟩)
    · exact searchPath_of_lookup held
    · rw [searchPath_of_absent absent]
      exact Environment.text?_eq_some_iff.mpr value
    · rw [searchPath_of_absent absent, Option.eq_none_iff_forall_ne_some]
      exact fun path inherits => unset path (Environment.text?_eq_some_iff.mp inherits)

theorem Searches.unique {first second : Option String} (one : Searches machine overrides first)
    (other : Searches machine overrides second) : first = second :=
  (searchPath_eq_iff.mpr one).symm.trans (searchPath_eq_iff.mpr other)

/-- The entries of a search path: what stands between its colons. -/
structure Entries (searched : String) (entries : List Path) : Prop where
  given : entries ≠ []
  free : ∀ entry ∈ entries, ':' ∉ entry
  joined : [':'].intercalate entries = searched.toList

theorem pieces_eq_iff_entries {searched : String} {entries : List Path} :
    pieces ':' searched.toList = entries ↔ Entries searched entries :=
  pieces_eq_iff.trans
    ⟨fun ⟨given, free, joined⟩ => ⟨given, free, joined⟩,
      fun ⟨given, free, joined⟩ => ⟨given, free, joined⟩⟩

/-- The file of a name in an entry of the search path.  The empty entry is the working
directory. -/
def candidate (machine : Machine) (entry : Path) (name : String) : Path :=
  Path.join (if entry = [] then machine.directory else entry) name.toList

/-! ## Runnable paths -/

theorem runnable?_eq_some_iff {path found : Path} :
    runnable? machine path = some found ↔
      machine.Runnable path ∧ machine.absolute path = found := by
  simp [runnable?, Machine.isRunnable_eq_true_iff]

theorem runnable?_eq_none_iff {path : Path} :
    runnable? machine path = none ↔ ¬machine.Runnable path := by
  simp [runnable?, ← Machine.isRunnable_eq_true_iff]

/-- In the empty entry a name is looked up by itself, and that is the working directory. -/
theorem runnable?_join_eq (works : machine.WorksAt place) (given : name ≠ "")
    (free : '/' ∉ name.toList) (entry : Path) :
    runnable? machine (Path.join entry name.toList) =
      runnable? machine (candidate machine entry name) := by
  by_cases empty : entry = []
  · have filled : name.toList ≠ [] := by simpa using given
    have alone : Path.join [] name.toList = name.toList := by simp [Path.join]
    have same := works.runnable_join_directory_iff filled free
    rw [empty, candidate, if_pos rfl, alone]
    by_cases runnable : machine.Runnable name.toList
    · rw [runnable?_eq_some_iff.mpr ⟨runnable, rfl⟩, eq_comm, runnable?_eq_some_iff]
      exact ⟨same.mpr runnable, works.absolute_join_directory filled free⟩
    · rw [runnable?_eq_none_iff.mpr runnable, eq_comm, runnable?_eq_none_iff]
      exact fun there => runnable (same.mp there)
  · rw [candidate, if_neg empty]

/-! ## Lookup -/

/-- What looking up a name comes to. -/
inductive Lookup (machine : Machine) (name : String) (overrides : Option Variables) :
    Except ExecutableFault Executable → Prop
  /-- A name with a slash that leads to something runnable. -/
  | path :
      '/' ∈ name.toList → machine.Runnable name.toList →
      Lookup machine name overrides
        (.ok ⟨machine.absolute name.toList, overrides.map given⟩)
  /-- Any other name with a slash. -/
  | badPath {searched : Option String} :
      '/' ∈ name.toList → ¬machine.Runnable name.toList →
      Searches machine overrides searched →
      Lookup machine name overrides (.error (.notFound name searched))
  /-- A name without a slash that can be run in an entry, and in none of those before it. -/
  | entry {searched : String} {before after : List Path} {first : Path} :
      '/' ∉ name.toList → Searches machine overrides (some searched) →
      Entries searched (before ++ first :: after) →
      (∀ earlier ∈ before, ¬machine.Runnable (candidate machine earlier name)) →
      machine.Runnable (candidate machine first name) →
      Lookup machine name overrides
        (.ok ⟨machine.absolute (candidate machine first name), overrides.map given⟩)
  /-- A name without a slash that can be run in no entry. -/
  | noEntry {searched : String} {entries : List Path} :
      '/' ∉ name.toList → Searches machine overrides (some searched) →
      Entries searched entries →
      (∀ entry ∈ entries, ¬machine.Runnable (candidate machine entry name)) →
      Lookup machine name overrides (.error (.notFound name (some searched)))
  /-- A name without a slash when there is no search path. -/
  | noPath :
      '/' ∉ name.toList → Searches machine overrides none →
      Lookup machine name overrides (.error (.notFound name none))

/-- A name is found in an entry and not in those before it. -/
theorem locate?_eq_some_iff (works : machine.WorksAt place) (given : name ≠ "")
    (free : '/' ∉ name.toList) {searched : Option String} {found : Path} :
    locate? machine name.toList searched = some found ↔
      ∃ path before first after, searched = some path ∧
        Entries path (before ++ first :: after) ∧
        (∀ earlier ∈ before, ¬machine.Runnable (candidate machine earlier name)) ∧
        machine.Runnable (candidate machine first name) ∧
        machine.absolute (candidate machine first name) = found := by
  rw [locate?, if_neg free, Option.bind_eq_some_iff]
  simp only [runnable?_join_eq works given free]
  constructor
  · rintro ⟨path, rfl, located⟩
    obtain ⟨before, first, after, divided, here, earlier⟩ := List.findSome?_eq_some_iff.mp located
    obtain ⟨runnable, absolute⟩ := runnable?_eq_some_iff.mp here
    exact ⟨path, before, first, after, rfl, pieces_eq_iff_entries.mp divided,
      fun entry member => runnable?_eq_none_iff.mp (earlier entry member), runnable, absolute⟩
  · rintro ⟨path, before, first, after, rfl, entries, earlier, runnable, absolute⟩
    refine ⟨path, rfl, List.findSome?_eq_some_iff.mpr ?_⟩
    exact ⟨before, first, after, pieces_eq_iff_entries.mpr entries,
      runnable?_eq_some_iff.mpr ⟨runnable, absolute⟩,
      fun entry member => runnable?_eq_none_iff.mpr (earlier entry member)⟩

theorem locate?_eq_none_iff (works : machine.WorksAt place) (given : name ≠ "")
    (free : '/' ∉ name.toList) {searched : Option String} :
    locate? machine name.toList searched = none ↔
      ∀ path entries, searched = some path → Entries path entries →
        ∀ entry ∈ entries, ¬machine.Runnable (candidate machine entry name) := by
  rw [locate?, if_neg free, Option.bind_eq_none_iff]
  simp only [runnable?_join_eq works given free, List.findSome?_eq_none_iff, runnable?_eq_none_iff,
    ← pieces_eq_iff_entries]
  constructor
  · rintro absent path entries held rfl
    exact absent path held
  · intro absent path held
    exact absent path _ held rfl

theorem ofPath_absolute (works : machine.WorksAt place) (path : Path) :
    ofPath (machine.absolute path) overrides =
      .ok ⟨machine.absolute path, overrides.map given⟩ := by
  have rooted := works.isAbsolute_absolute path
  have given : machine.absolute path ≠ [] := by
    intro none
    rw [none] at rooted
    contradiction
  rw [ofPath, if_neg given, if_neg (by simp [rooted])]

theorem find_eq_of_locate? (works : machine.WorksAt place) (given : name ≠ "") {path : Path}
    (located : locate? machine name.toList (searchPath machine overrides) =
      some (machine.absolute path)) :
    find machine name overrides = .ok ⟨machine.absolute path, overrides.map Executable.given⟩ := by
  have filled : ¬name.isEmpty = true := by simpa using given
  rw [find_of_given filled, located]
  exact ofPath_absolute works path

theorem find_eq_of_not_located (given : name ≠ "") {searched : Option String}
    (searches : Searches machine overrides searched)
    (absent : locate? machine name.toList searched = none) :
    find machine name overrides = .error (.notFound name searched) := by
  have filled : ¬name.isEmpty = true := by simpa using given
  rw [find_of_given filled, searchPath_eq_iff.mpr searches, absent]
  rfl

theorem ofPath_ne_notFound {filename : Path} {searched : Option String} :
    ofPath filename overrides ≠ .error (.notFound name searched) := by
  grind [ofPath]

theorem find_of_lookup (works : machine.WorksAt place) (given : name ≠ "")
    {result : Except ExecutableFault Executable} (lookup : Lookup machine name overrides result) :
    find machine name overrides = result := by
  cases lookup with
  | path slash runnable =>
      refine find_eq_of_locate? works given ?_
      rw [locate?, if_pos slash]
      exact runnable?_eq_some_iff.mpr ⟨runnable, rfl⟩
  | badPath slash blocked searches =>
      refine find_eq_of_not_located given searches ?_
      rw [locate?, if_pos slash]
      exact runnable?_eq_none_iff.mpr blocked
  | entry free searches entries earlier runnable =>
      refine find_eq_of_locate? works given ((locate?_eq_some_iff works given free).mpr ?_)
      exact ⟨_, _, _, _, searchPath_eq_iff.mpr searches, entries, earlier, runnable, rfl⟩
  | noEntry free searches entries blocked =>
      refine find_eq_of_not_located given searches ((locate?_eq_none_iff works given free).mpr ?_)
      intro path others same divided
      cases same
      rw [← pieces_eq_iff_entries] at entries divided
      rw [← divided, entries]
      exact blocked
  | noPath free searches =>
      refine find_eq_of_not_located given searches ((locate?_eq_none_iff works given free).mpr ?_)
      exact fun path entries held => absurd held (by simp)

/-- There is an outcome for every name. -/
theorem exists_lookup (works : machine.WorksAt place) (given : name ≠ "")
    (overrides : Option Variables) :
    ∃ result, Lookup machine name overrides result := by
  have searches := searchPath_eq_iff.mp (rfl : searchPath machine overrides = _)
  by_cases slash : '/' ∈ name.toList
  · by_cases runnable : machine.Runnable name.toList
    · exact ⟨_, .path slash runnable⟩
    · exact ⟨_, .badPath slash runnable searches⟩
  · cases held : searchPath machine overrides with
    | none =>
        rw [held] at searches
        exact ⟨_, .noPath slash searches⟩
    | some path =>
        rw [held] at searches
        cases located : locate? machine name.toList (some path) with
        | none =>
            have blocked := (locate?_eq_none_iff works given slash).mp located
            have entries := pieces_eq_iff_entries.mp (rfl : pieces ':' path.toList = _)
            exact ⟨_, .noEntry slash searches entries (blocked path _ rfl entries)⟩
        | some found =>
            obtain ⟨_, before, first, after, same, entries, earlier, runnable, -⟩ :=
              (locate?_eq_some_iff works given slash).mp located
            cases same
            exact ⟨_, .entry slash searches entries earlier runnable⟩

theorem find_eq_iff (works : machine.WorksAt place) (given : name ≠ "")
    (overrides : Option Variables) (result : Except ExecutableFault Executable) :
    find machine name overrides = result ↔ Lookup machine name overrides result :=
  eq_iff_of_outcomes (exists_lookup works given overrides) (find_of_lookup works given) result

theorem isAbsolute_and_runnable_of_lookup (works : machine.WorksAt place) {executable : Executable}
    (lookup : Lookup machine name overrides (.ok executable)) :
    executable.filename.isAbsolute = true ∧ machine.Runnable executable.filename := by
  cases lookup with
  | path _ runnable =>
      exact ⟨works.isAbsolute_absolute _, works.runnable_absolute runnable⟩
  | entry _ _ _ _ runnable =>
      exact ⟨works.isAbsolute_absolute _, works.runnable_absolute runnable⟩

/-- Lookup is sound and complete, takes the first entry that does, and what it finds is an absolute
path that can be run. -/
theorem find_eq_iff_lookup (works : machine.WorksAt place) (given : name ≠ "")
    (overrides : Option Variables) :
    (∀ result, find machine name overrides = result ↔ Lookup machine name overrides result) ∧
      (∀ path, find machine name overrides ≠ .error (.relativePath path)) ∧
      ∀ executable, find machine name overrides = .ok executable →
        executable.filename.isAbsolute = true ∧ machine.Runnable executable.filename := by
  have exactly := find_eq_iff works given overrides
  refine ⟨exactly, ?_, ?_⟩
  · intro path relative
    cases (exactly _).mp relative
  · intro executable found
    exact isAbsolute_and_runnable_of_lookup works ((exactly _).mp found)

/-- A machine with one program, in `/bin`, that works in `/work`. -/
def workshop : Machine where
  files := ⟨[(["work".toList], .directory), (["bin".toList], .directory),
    (["bin".toList, "juju".toList], .file ⟨ByteArray.empty, 0o755, .unknownFormat⟩)]⟩
  directory := "/work".toList
  environment := [("PATH", "/bin".toUTF8)]

theorem worksAt_workshop : workshop.WorksAt ["work".toList] where
  written := by decide
  named := by decide
  directories := by
    intro above below
    rcases List.prefix_cons_iff.mp below with rfl | ⟨rest, rfl, last⟩
    · rfl
    · rw [List.prefix_nil.mp last]
      rfl

theorem runnable_workshop : workshop.Runnable "/bin/juju".toList := by
  have bin : IsEntryName "bin".toList := by decide
  have juju : IsEntryName "juju".toList := by decide
  refine ⟨⟨ByteArray.empty, 0o755, .unknownFormat⟩, ⟨by decide, by decide, ?_⟩, by decide⟩
  refine .idle rfl rfl (.down rfl bin rfl (by simp) ?_)
  exact .down rfl juju rfl (by simp) (.arrive rfl)

theorem not_runnable_workshop : ¬workshop.Runnable (candidate workshop [] "juju") := by
  rw [candidate, if_pos rfl, worksAt_workshop.runnable_join_directory_iff (by decide) (by decide)]
  exact worksAt_workshop.not_runnable_of_vacant rfl rfl (by decide) rfl

/-- The program is found behind an entry that is not there and the working directory. -/
theorem find_eq_iff_lookup_past_entries :
    workshop.WorksAt ["work".toList] ∧ "juju" ≠ "" ∧
      find workshop "juju" (some [("PATH", "lib::/bin")]) =
        .ok ⟨"/bin/juju".toList, some [("PATH", "lib::/bin")]⟩ ∧
      workshop.Runnable "/bin/juju".toList := by
  have works := worksAt_workshop
  have given : "juju" ≠ "" := by decide
  obtain ⟨exactly, -, sound⟩ := find_eq_iff_lookup works given (some [("PATH", "lib::/bin")])
  have entries : Entries "lib::/bin" (["lib".toList, []] ++ "/bin".toList :: []) :=
    pieces_eq_iff_entries.mp (by decide)
  have missing : ∀ entry ∈ ["lib".toList, []],
      ¬workshop.Runnable (candidate workshop entry "juju") := by
    simp only [List.forall_mem_cons]
    refine ⟨?_, not_runnable_workshop, by simp⟩
    exact works.not_runnable_of_vacant rfl rfl (by decide) rfl
  have found := (exactly _).mpr
    (.entry (by decide) (.overridden rfl (by decide)) entries missing runnable_workshop)
  exact ⟨works, given, found, (sound _ found).2⟩

end Executable

end ReleaseVersion
