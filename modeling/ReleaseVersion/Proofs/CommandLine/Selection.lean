import ReleaseVersion.CommandLine.Run
import ReleaseVersion.Proofs.Deeds
import ReleaseVersion.Proofs.Host.Likeness

/-!
# Which configuration is loaded

A configuration file that is named is loaded in any case, and a failure to do so is told.  The usual
file is loaded when something is where its path leads; else there are the defaults.  Where the usual
file is depends on the environment, and on the home directory when the environment does not tell.
-/

namespace ReleaseVersion

open Host

variable {first second machine : Machine}

namespace Directories

/-- The configuration file of this program among the configurations of all. -/
def usualIn (base : Path) : Path :=
  Path.join (Path.join base "juju-version".toList) "config.toml".toList

/-- The usual file is where a variable says that configurations are, else below the home directory,
else below the working directory. -/
inductive Usual (environment : Environment) (home : HomeLookup) : Path → Prop
  | told {text : String} :
      environment.value? "XDG_CONFIG_HOME" = some text.toUTF8 →
      Usual environment home (usualIn text.toList)
  | atHome {directory : Path} :
      (∀ text : String, environment.value? "XDG_CONFIG_HOME" ≠ some text.toUTF8) →
      home environment = some directory →
      Usual environment home (usualIn (Path.join directory ".config".toList))
  | here :
      (∀ text : String, environment.value? "XDG_CONFIG_HOME" ≠ some text.toUTF8) →
      home environment = none → Usual environment home (usualIn ['.'])

theorem configFile_of_usual {environment : Environment} {home : HomeLookup} {path : Path}
    (usual : Usual environment home path) : configFile environment home = path := by
  have untold (unset : ∀ text : String, environment.value? "XDG_CONFIG_HOME" ≠ some text.toUTF8) :
      environment.text? "XDG_CONFIG_HOME" = none :=
    Option.eq_none_iff_forall_ne_some.mpr fun text told =>
      unset text (Environment.text?_eq_some_iff.mp told)
  cases usual with
  | told value =>
      simp only [configFile, config, directory, Environment.text?_eq_some_iff.mpr value]
      rfl
  | atHome unset lives =>
      simp only [configFile, config, directory, untold unset, lives]
      rfl
  | here unset homeless =>
      simp only [configFile, config, directory, untold unset, homeless]
      rfl

theorem exists_usual (environment : Environment) (home : HomeLookup) :
    ∃ path, Usual environment home path := by
  by_cases told : ∃ text : String, environment.value? "XDG_CONFIG_HOME" = some text.toUTF8
  · obtain ⟨text, value⟩ := told
    exact ⟨_, .told value⟩
  · rw [not_exists] at told
    cases lives : home environment with
    | some directory => exact ⟨_, .atHome told lives⟩
    | none => exact ⟨_, .here told lives⟩

theorem configFile_eq_iff_usual {environment : Environment} {home : HomeLookup} {path : Path} :
    configFile environment home = path ↔ Usual environment home path :=
  eq_iff_of_outcomes (exists_usual environment home) configFile_of_usual path

end Directories

namespace CommandLine

variable {libraries : Libraries} {path? : Option Path} {course : Traced Failure Config}

/-! ## Selection -/

/-- Where the configuration comes from. -/
inductive Selection where
  | file (path : Path)
  /-- Nothing is where the usual file would be. -/
  | defaults (usual : Path)

/-- The selection: a file that is named, or the usual file when there is one. -/
inductive Selects (home : Directories.HomeLookup) (machine : Machine) :
    Option Path → Selection → Prop
  | named {path : Path} : Selects home machine (some path) (.file path)
  | usual {path : Path} {entry : Entry} :
      Directories.Usual machine.environment home path →
      machine.files.PathLeads machine.directory path entry →
      Selects home machine none (.file path)
  | defaults {path : Path} :
      Directories.Usual machine.environment home path →
      (∀ entry, ¬machine.files.PathLeads machine.directory path entry) →
      Selects home machine none (.defaults path)

theorem Selects.unique {home : Directories.HomeLookup} {one other : Selection}
    (selects : Selects home machine path? one) (selectsToo : Selects home machine path? other) :
    one = other := by
  have same {path another : Path} (usual : Directories.Usual machine.environment home path)
      (usualToo : Directories.Usual machine.environment home another) : path = another := by
    rw [← Directories.configFile_eq_iff_usual] at usual usualToo
    exact usual.symm.trans usualToo
  cases selects with
  | named =>
      cases selectsToo
      rfl
  | usual usual leads =>
      cases selectsToo with
      | usual usualToo _ => rw [same usual usualToo]
      | defaults usualToo absent => exact absurd (same usual usualToo ▸ leads) (absent _)
  | defaults usual absent =>
      cases selectsToo with
      | usual usualToo leads => exact absurd (same usualToo usual ▸ leads) (absent _)
      | defaults usualToo _ => rw [same usual usualToo]

end CommandLine

end ReleaseVersion
