import ReleaseVersion.Proofs.Executable.Lookup

/-!
# Variables without a value

An executable keeps only those of its overriding variables that have a value, but it is looked up
before they are dropped.  That makes a difference for one variable only: an empty search path is
not replaced by that of the environment, it stands for the working directory.
-/

namespace ReleaseVersion.Executable

open Host Text

variable {machine : Machine} {name : String} {values : Variables}

/-! ## Dropping variables -/

/-- Among variables of different names, dropping those without a value only hides their values. -/
theorem lookup_given (keyed : (values.map Prod.fst).Nodup) (key : String) :
    (given values).lookup key = (values.lookup key).filter fun value => !value.isEmpty := by
  induction values with
  | nil => rfl
  | cons entry rest inductionHypothesis =>
      obtain ⟨first, value⟩ := entry
      obtain ⟨fresh, distinct⟩ := List.nodup_cons.mp keyed
      have later := inductionHypothesis distinct
      by_cases here : key = first
      · subst here
        have absent : rest.lookup key = none := by
          rw [List.lookup_eq_none_iff]
          intro other member
          apply bne_iff_ne.mpr
          intro same
          exact fresh (List.mem_map.mpr ⟨other, member, same.symm⟩)
        rw [List.lookup_cons_self]
        cases empty : value.isEmpty with
        | true =>
            have dropped : given ((key, value) :: rest) = given rest :=
              List.filter_cons_of_neg (by simp [empty])
            rw [dropped, later, absent, Option.filter_some, empty]
            rfl
        | false =>
            have kept : given ((key, value) :: rest) = (key, value) :: given rest :=
              List.filter_cons_of_pos (by simp [empty])
            rw [kept, List.lookup_cons_self, Option.filter_some, empty]
            rfl
      · have skips (others : Variables) :
            ((first, value) :: others).lookup key = others.lookup key := by
          rw [List.lookup_cons, beq_eq_false_iff_ne.mpr here]
        rw [skips, ← later, given, List.filter_cons]
        split
        · exact skips _
        · rfl

theorem given_given (values : Variables) : given (given values) = given values := by
  simp [given, List.filter_filter]

/-- An executable is the same with and without the variables that have no value. -/
theorem ofPath_given (filename : Path) (values : Variables) :
    ofPath filename (some (given values)) = ofPath filename (some values) := by
  simp only [ofPath, Option.map_some, given_given]

/-- Different paths are different executables, or different faults. -/
theorem ofPath_injective {overrides : Option Variables} {first second : Path}
    (same : ofPath first overrides = ofPath second overrides) : first = second := by
  grind [ofPath]

/-! ## The search path -/

theorem searchPath_given_of_filled (keyed : (values.map Prod.fst).Nodup)
    (filled : values.lookup "PATH" ≠ some "") :
    searchPath machine (some (given values)) = searchPath machine (some values) := by
  have held : (given values).lookup "PATH" = values.lookup "PATH" := by
    rw [lookup_given keyed]
    cases given : values.lookup "PATH" with
    | none => rfl
    | some path =>
        rw [given] at filled
        rw [Option.filter_some, if_pos (by simpa using filled)]
  simp only [searchPath, Option.bind_some, held]

theorem searchPath_given_of_empty (keyed : (values.map Prod.fst).Nodup)
    (empty : values.lookup "PATH" = some "") :
    searchPath machine (some (given values)) = machine.environment.text? "PATH" := by
  apply searchPath_of_absent
  intro kept same
  rw [← Option.some.inj same, lookup_given keyed, empty]
  rfl

/-! ## Lookup -/

/-- Without the variables that have no value the outcome is the same when the search path is, or
when the file that is found is. -/
theorem find_given_eq_iff_of_named (named : name ≠ "") :
    find machine name (some (given values)) = find machine name (some values) ↔
      searchPath machine (some (given values)) = searchPath machine (some values) ∨
        ∃ filename,
          locate? machine name.toList (searchPath machine (some values)) = some filename ∧
          locate? machine name.toList (searchPath machine (some (given values))) =
            some filename := by
  have filled : ¬name.isEmpty = true := by simpa using named
  simp only [find_of_given filled]
  generalize searchPath machine (some (given values)) = kept
  generalize searchPath machine (some values) = whole
  by_cases same : kept = whole
  · rw [same]
    cases locate? machine name.toList whole with
    | none => simp
    | some filename => simp [ofPath_given]
  · cases byKept : locate? machine name.toList kept with
    | none =>
        cases byWhole : locate? machine name.toList whole with
        | none => simp [same]
        | some filename => simpa [same] using ofPath_ne_notFound.symm
    | some filename =>
        cases byWhole : locate? machine name.toList whole with
        | none => simpa [same] using ofPath_ne_notFound
        | some other =>
            simp only [ofPath_given, same, false_or, Option.some.injEq, exists_eq_left',
              Option.elim_some]
            exact ⟨fun equal => ofPath_injective equal, fun equal => by rw [equal]⟩

/-- Dropping the variables without a value changes the outcome of a lookup exactly when they hold
an empty search path, and when that finds something else than the search path of the
environment. -/
theorem find_given_eq_iff (keyed : (values.map Prod.fst).Nodup) :
    find machine name (some (given values)) = find machine name (some values) ↔
      (values.lookup "PATH" = some "" →
        name = "" ∨ machine.environment.text? "PATH" = some "" ∨
          ∃ filename, locate? machine name.toList (some "") = some filename ∧
            locate? machine name.toList (machine.environment.text? "PATH") = some filename) := by
  by_cases named : name = ""
  · subst named
    exact iff_of_true rfl fun _ => .inl rfl
  · rw [find_given_eq_iff_of_named named]
    by_cases empty : values.lookup "PATH" = some ""
    · rw [searchPath_given_of_empty keyed empty, searchPath_of_lookup empty]
      simp [named, empty]
    · rw [searchPath_given_of_filled keyed empty]
      simp [empty]

/-- A name with a slash needs no search path. -/
theorem find_given_eq_iff_at_slash :
    ([("PATH", ""), ("LANG", "C")].map Prod.fst).Nodup ∧
      find workshop "/bin/juju" (some (given [("PATH", ""), ("LANG", "C")])) =
        find workshop "/bin/juju" (some [("PATH", ""), ("LANG", "C")]) := by
  have keyed : ([("PATH", ""), ("LANG", "C")].map Prod.fst).Nodup := by decide
  have located (searched : Option String) :
      locate? workshop "/bin/juju".toList searched = some "/bin/juju".toList := by
    rw [locate?, if_pos (by decide)]
    exact runnable?_eq_some_iff.mpr ⟨runnable_workshop, by decide⟩
  exact ⟨keyed, (find_given_eq_iff keyed).mpr fun _ => .inr (.inr ⟨_, located _, located _⟩)⟩

/-- An empty search path hides a program that the environment would find. -/
theorem find_of_empty_path :
    find workshop "juju" (some [("PATH", "")]) = .error (.notFound "juju" (some "")) ∧
      given [("PATH", "")] = [] ∧
      find workshop "juju" (some []) = .ok ⟨"/bin/juju".toList, some []⟩ := by
  have works := worksAt_workshop
  have named : "juju" ≠ "" := by decide
  refine ⟨?_, by decide, ?_⟩
  · have entries : Entries "" [[]] := pieces_eq_iff_entries.mp (by decide)
    have missing : ∀ entry ∈ [[]], ¬workshop.Runnable (candidate workshop entry "juju") := by
      intro entry member
      rw [List.mem_singleton.mp member]
      exact not_runnable_workshop
    exact find_of_lookup works named
      (.noEntry (by decide) (.overridden rfl (by decide)) entries missing)
  · have entries : Entries "/bin" ([] ++ "/bin".toList :: []) :=
      pieces_eq_iff_entries.mp (by decide)
    have searches : Searches workshop (some []) (some "/bin") := by
      refine .inherited ?_ rfl
      intro values same
      rw [← Option.some.inj same]
      rfl
    exact find_of_lookup works named
      (.entry (by decide) searches entries (by simp) runnable_workshop)

end ReleaseVersion.Executable
