import ReleaseVersion.Host.Machine

/-!
# Directories

Where the program keeps its configuration and its log.  Each kind has a variable that names the
directory of all programs; without it a directory below the home is taken, and without a home the
working directory.  Which directory is the home is up to the system, whose users have homes even
when no variable names them.
-/

namespace ReleaseVersion.Directories

open Host

/-- The name under which the program keeps its files. -/
def programName : Path :=
  "juju-version".toList

/-- The name of the configuration file. -/
def configName : Path :=
  "config.toml".toList

/-- The name of the log file. -/
def logName : Path :=
  programName ++ ".log".toList

/-- How the home directory is found in an environment, where there is one. -/
abbrev HomeLookup :=
  Environment → Option Path

/-- The variable that names the home directory. -/
def homeName : String :=
  "HOME"

/-- The home directory that the environment names; no other is known. -/
def home? : HomeLookup := fun environment =>
  match environment.text? homeName with
  | some text => if text.isEmpty then none else some text.toList
  | none => none

/-- The directory of the program below the one that a variable names, or below `fallback` in the
home directory. -/
def directory (environment : Environment) (home : HomeLookup) (variableName : String)
    (fallback : Path) : Path :=
  let base :=
    match environment.text? variableName with
    | some text => text.toList
    | none =>
      match home environment with
      | some directory => Path.join directory fallback
      | none => ['.']
  Path.join base programName

/-- The directory of the configuration. -/
def config (environment : Environment) (home : HomeLookup := home?) : Path :=
  directory environment home "XDG_CONFIG_HOME" ".config".toList

/-- The configuration file that is used when none is named. -/
def configFile (environment : Environment) (home : HomeLookup := home?) : Path :=
  Path.join (config environment home) configName

/-- The directory of the log. -/
def data (environment : Environment) (home : HomeLookup := home?) : Path :=
  directory environment home "XDG_DATA_HOME" ".local/share".toList

/-- The log file that is used when none is named. -/
def logFile (environment : Environment) (home : HomeLookup := home?) : Path :=
  Path.join (data environment home) logName

end ReleaseVersion.Directories
