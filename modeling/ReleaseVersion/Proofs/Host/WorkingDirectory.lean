import ReleaseVersion.Proofs.Host.Following

/-!
# The working directory

A path that is read in the working directory leads to the same entry as its absolute form, provided
that the working directory is known under its own name: no directory down to it is a link, so the
names in front of the absolute form lead to the very place where the path is read.
-/

namespace ReleaseVersion.Host

open Text

namespace Machine

/-- The working directory is the directory at a place, written with the names that lead there. -/
structure WorksAt (machine : Machine) (place : Place) : Prop where
  written : machine.directory = '/' :: ['/'].intercalate place
  named : ∀ name ∈ place, IsEntryName name ∧ '/' ∉ name ∧ '\x00' ∉ name
  directories : ∀ above, above <+: place → machine.files.isDirectoryAt above = true

variable {machine : Machine} {place : Place}

/-- The root is always there to work in. -/
theorem worksAt_root (written : machine.directory = ['/']) : machine.WorksAt [] where
  written := written
  named := by simp
  directories := by
    intro above below
    rw [List.prefix_nil.mp below]
    rfl

theorem WorksAt.isAbsolute_directory (works : machine.WorksAt place) :
    machine.directory.isAbsolute = true := by
  rw [works.written]
  rfl

theorem WorksAt.filter_isStep (works : machine.WorksAt place) :
    place.filter Path.isStep = place :=
  List.filter_eq_self.mpr fun name member => (works.named name member).1.step

theorem WorksAt.proper (works : machine.WorksAt place) :
    ∀ name ∈ place, name ≠ [] ∧ '/' ∉ name := by
  intro name member
  obtain ⟨entryName, free, -⟩ := works.named name member
  refine ⟨fun empty => ?_, free⟩
  rw [empty] at entryName
  exact absurd entryName.step (by decide)

/-- The names of the working directory are those of its place, behind an empty one. -/
theorem WorksAt.names_directory (works : machine.WorksAt place) :
    Path.names machine.directory = [] :: if place = [] then [[]] else place := by
  rw [works.written]
  by_cases top : place = []
  · rw [if_pos top, top]
    rfl
  · rw [if_neg top]
    exact Path.names_slash_intercalate top fun name member => (works.proper name member).2

theorem WorksAt.steps_directory (works : machine.WorksAt place) :
    machine.directory.steps = place := by
  rw [Path.steps, works.names_directory]
  by_cases top : place = []
  · rw [if_pos top, top]
    rfl
  · rw [if_neg top, List.filter_cons_of_neg (by decide), works.filter_isStep]

/-- With an empty name at the end or without it, these are idle names and then the place. -/
theorem WorksAt.exists_idle (works : machine.WorksAt place) {lead : List Name}
    (heads : Path.Heads lead (Path.names machine.directory)) :
    ∃ idle, lead = idle ++ place ∧ ∀ name ∈ idle, Path.isStep name = false := by
  rw [works.names_directory] at heads
  by_cases top : place = []
  · refine ⟨lead, by simp [top], fun name member => ?_⟩
    have nameEq : name = [] := by simpa [top] using heads.mem member
    rw [nameEq]
    rfl
  · rw [if_neg top] at heads
    rcases heads with whole | cropped
    · exact ⟨[[]], whole.symm, by simp [Path.isStep]⟩
    · -- The last name of the place is a step, so it is not the empty one.
      obtain ⟨front, last, placeEq⟩ := (List.eq_nil_or_concat place).resolve_left top
      rw [List.concat_eq_append] at placeEq
      have ends := congrArg List.getLast? cropped
      rw [placeEq, ← List.cons_append] at ends
      simp only [List.getLast?_append, List.getLast?_singleton, Option.some_or,
        Option.some.injEq] at ends
      have step := (works.named last (by simp [placeEq])).1.step
      rw [ends] at step
      exact absurd step (by decide)

/-- Where names lead from the origin of a path, they lead behind the names of that origin. -/
theorem WorksAt.leads_lead (works : machine.WorksAt place) {path : Path} {lead names : List Name}
    {links : Nat} {entry : Entry}
    (heads : Path.Heads lead (Path.names (Path.origin machine.directory path)))
    (leads : machine.files.Leads links (if path.isAbsolute then [] else place) names entry) :
    machine.files.Leads links [] (lead ++ names) entry := by
  by_cases rooted : path.isAbsolute = true
  · rw [Path.origin, if_pos rooted] at heads
    rw [if_pos rooted] at leads
    exact .idle_append FileTree.isDirectoryAt_root
      (fun name member => Path.isStep_of_mem_names_root (heads.mem member)) leads
  · rw [Path.origin, if_neg rooted] at heads
    rw [if_neg rooted] at leads
    obtain ⟨idle, rfl, unmoved⟩ := works.exists_idle heads
    rw [List.append_assoc]
    refine .idle_append FileTree.isDirectoryAt_root unmoved ?_
    exact .down_append (fun name member => (works.named name member).1) works.directories leads

theorem WorksAt.zero_not_mem_directory (works : machine.WorksAt place) :
    '\x00' ∉ machine.directory := by
  intro member
  have other : '\x00' ≠ '/' := by decide
  obtain ⟨name, named, inside⟩ := exists_mem_piece member other
  rw [← Path.names, works.names_directory] at named
  by_cases top : place = []
  · have nameEq : name = [] := by simpa [top] using named
    rw [nameEq] at inside
    exact List.not_mem_nil inside
  · rw [if_neg top] at named
    rcases List.mem_cons.mp named with rfl | later
    · exact List.not_mem_nil inside
    · exact (works.named name later).2.2 inside

/-- The absolute form of a path leads where the path leads. -/
theorem WorksAt.pathLeads_absolute (works : machine.WorksAt place) {path : Path} {entry : Entry}
    (found : machine.files.PathLeads machine.directory path entry) :
    machine.files.PathLeads machine.directory (machine.absolute path) entry := by
  obtain ⟨-, zeroFree, leads⟩ := found
  rw [works.steps_directory] at leads
  obtain ⟨rooted, lead, tail, namesEq, heads, tailEq⟩ :=
    Path.exists_names_absolute works.isAbsolute_directory path
  have shortens : FileTree.Shortens path.names (path.steps ++ tail) := by
    rw [Path.steps]
    rcases tailEq with rfl | ⟨rfl, front, rfl⟩
    · simpa using FileTree.shortens_filter_append path.names []
    · have slash : Path.names (front ++ ['/']) = Path.names front ++ [[]] :=
        Path.names_append_slash front []
      rw [slash, List.filter_append]
      simpa [Path.isStep] using FileTree.shortens_filter_append (Path.names front) [[]]
  refine ⟨?_, ?_, ?_⟩
  · obtain ⟨rest, absoluteEq⟩ := Path.isAbsolute_eq_true_iff.mp rooted
    rw [absolute, absoluteEq]
    exact List.cons_ne_nil '/' rest
  · intro zero
    rcases Path.mem_or_mem_of_mem_absolute works.isAbsolute_directory zero (by decide) with
      inDirectory | inPath
    · exact works.zero_not_mem_directory inDirectory
    · exact zeroFree inPath
  · rw [absolute, if_pos rooted, namesEq]
    exact works.leads_lead heads (leads.of_shortens shortens)

/-- So the absolute form of what can be run can be run. -/
theorem WorksAt.runnable_absolute (works : machine.WorksAt place) {path : Path}
    (runnable : machine.Runnable path) : machine.Runnable (machine.absolute path) := by
  obtain ⟨file, leads, executable⟩ := runnable
  exact ⟨file, works.pathLeads_absolute leads, executable⟩

theorem WorksAt.isAbsolute_absolute (works : machine.WorksAt place) (path : Path) :
    (machine.absolute path).isAbsolute = true :=
  (Path.exists_names_absolute works.isAbsolute_directory path).1

/-- A path that starts with a name that the working directory does not have cannot be run. -/
theorem WorksAt.not_runnable_of_vacant (works : machine.WorksAt place) {path : Path} {name : Name}
    {rest : List Name} (relative : path.isAbsolute = false) (divided : path.names = name :: rest)
    (named : IsEntryName name) (vacant : machine.files.entry? (place ++ [name]) = none) :
    ¬machine.Runnable path := by
  rintro ⟨file, ⟨-, -, leads⟩, -⟩
  rw [relative, if_neg Bool.false_ne_true, works.steps_directory, divided] at leads
  exact FileTree.not_leads_of_vacant named vacant leads

/-! ## Names in the working directory -/

theorem WorksAt.directory_eq_foldl (works : machine.WorksAt place) :
    machine.directory = place.foldl Path.join ['/'] :=
  works.written.trans (Path.foldl_join_root works.proper).symm

section

variable {name : Name}

theorem WorksAt.proper_concat (works : machine.WorksAt place) (filled : name ≠ [])
    (free : '/' ∉ name) : ∀ other ∈ place ++ [name], other ≠ [] ∧ '/' ∉ other := by
  intro other member
  rcases List.mem_append.mp member with above | last
  · exact works.proper other above
  · rw [List.mem_singleton.mp last]
    exact ⟨filled, free⟩

theorem WorksAt.join_directory (works : machine.WorksAt place) (filled : name ≠ [])
    (free : '/' ∉ name) :
    Path.join machine.directory name = '/' :: ['/'].intercalate (place ++ [name]) := by
  rw [works.directory_eq_foldl, ← Path.foldl_join_root (works.proper_concat filled free),
    List.foldl_append]
  rfl

/-- Seen from the root, a name in the working directory has the names of that directory in front. -/
theorem WorksAt.names_join_directory (works : machine.WorksAt place) (filled : name ≠ [])
    (free : '/' ∉ name) :
    Path.names (Path.join machine.directory name) = [] :: (place ++ [name]) := by
  rw [works.join_directory filled free]
  exact Path.names_slash_intercalate (by simp) fun other member =>
    (works.proper_concat filled free other member).2

/-- A name leads to the same entry by itself as behind the name of the working directory. -/
theorem WorksAt.pathLeads_join_directory_iff (works : machine.WorksAt place)
    (filled : name ≠ []) (free : '/' ∉ name) {entry : Entry} :
    machine.files.PathLeads machine.directory (Path.join machine.directory name) entry ↔
      machine.files.PathLeads machine.directory name entry := by
  have relative := Path.isAbsolute_of_not_mem free
  have rooted := Path.isAbsolute_join works.isAbsolute_directory relative
  have entries := fun other member => (works.named other member).1
  have zeroFree : '\x00' ∉ Path.join machine.directory name ↔ '\x00' ∉ name := by
    obtain ⟨front, frontEq, joined⟩ := Path.exists_join_eq works.isAbsolute_directory relative
    have absent := works.zero_not_mem_directory
    rw [joined]
    rcases frontEq with same | same
    · rw [same, List.mem_append, not_or] at absent
      simp [absent.1]
    · rw [same] at absent
      simp [absent]
  constructor
  · rintro ⟨-, zero, leads⟩
    rw [if_pos rooted, works.names_join_directory filled free] at leads
    refine ⟨filled, zeroFree.mp zero, ?_⟩
    rw [relative, if_neg Bool.false_ne_true, works.steps_directory, Path.names_of_not_mem free]
    exact .of_down_append entries works.directories
      (leads.of_shortens (.drop rfl (FileTree.shortens_refl _)))
  · rintro ⟨-, zero, leads⟩
    rw [relative, if_neg Bool.false_ne_true, works.steps_directory,
      Path.names_of_not_mem free] at leads
    refine ⟨?_, zeroFree.mpr zero, ?_⟩
    · intro none
      rw [none] at rooted
      contradiction
    · rw [if_pos rooted, works.names_join_directory filled free]
      exact .idle FileTree.isDirectoryAt_root rfl (.down_append entries works.directories leads)

theorem WorksAt.runnable_join_directory_iff (works : machine.WorksAt place)
    (filled : name ≠ []) (free : '/' ∉ name) :
    machine.Runnable (Path.join machine.directory name) ↔ machine.Runnable name := by
  simp only [Runnable, works.pathLeads_join_directory_iff filled free]

theorem WorksAt.absolute_join_directory (works : machine.WorksAt place)
    (filled : name ≠ []) (free : '/' ∉ name) :
    machine.absolute (Path.join machine.directory name) = machine.absolute name := by
  have relative := Path.isAbsolute_of_not_mem free
  have rooted := Path.isAbsolute_join works.isAbsolute_directory relative
  have still : (Path.join machine.directory name).getLast? ≠ some '/' := by
    obtain ⟨front, -, joined⟩ := Path.exists_join_eq works.isAbsolute_directory relative
    rw [joined]
    exact Path.getLast?_append_slash_ne front filled free
  have unclosed : name.getLast? ≠ some '/' := fun last => free (List.mem_of_getLast? last)
  have root : (Path.join machine.directory name).root = ['/'] := by
    rw [works.join_directory filled free]
    exact Path.root_of_proper (works.proper_concat filled free)
  have steps : (Path.join machine.directory name).steps = place ++ Path.steps name := by
    rw [Path.steps, works.names_join_directory filled free, List.filter_cons_of_neg (by decide),
      List.filter_append, works.filter_isStep, Path.steps, Path.names_of_not_mem free]
  simp only [absolute, Path.absolute, rooted, relative, if_neg still, if_neg unclosed, root, steps,
    List.foldl_append, if_true]
  rw [← works.directory_eq_foldl]
  rfl

end

end Machine

end ReleaseVersion.Host
