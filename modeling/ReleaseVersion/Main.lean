import ReleaseVersion.CommandLine.Run

/-!
# The program

The command line on the computer itself.  A command sees a machine that holds the environment and
the configuration file; programs are not started from here, so a client is never found.  The
directories and the log that a run leaves behind are made when it is over.
-/

namespace ReleaseVersion.CommandLine

open Host

/-- The variables that a command looks at. -/
def variableNames : List String :=
  ["HOME", "PATH", "XDG_CONFIG_HOME", "XDG_DATA_HOME"]

/-- The environment, as far as a command looks at it. -/
def readEnvironment : IO Environment :=
  variableNames.filterMapM fun name => do
    return (← IO.getEnv name).map fun value => (name, value.toUTF8)

/-- The files at some paths, as far as they can be read. -/
def readFiles (directory : Path) (paths : List Path) : IO FileTree :=
  paths.foldlM
    (fun tree path => do
      try
        let content ← IO.FS.readBinFile (String.ofList path)
        let place := Path.steps (Path.absolute directory path)
        return tree.put place (.file ⟨content, 0o644, .unknownFormat⟩)
      catch _ => return tree)
    (FileTree.empty.put (Path.steps directory) .directory)

/-- The configuration files that a command may read. -/
def configFiles (environment : Environment) (arguments : List String) : List Path :=
  match Request.ofArguments arguments with
  | .ok ⟨_, .find _ _ (some path)⟩ => [path]
  | .ok ⟨_, .find _ _ none⟩ => [Directories.configFile environment]
  | _ => []

/-- Makes what is in a tree and was not there before. -/
def makeFiles (before after : FileTree) : IO Unit :=
  let made := after.entries.take (after.entries.length - before.entries.length)
  made.reverse.forM fun (place, entry) => do
    let path := String.ofList (['/'] ++ ['/'].intercalate place)
    match entry with
    | .directory => IO.FS.createDirAll path
    | .file _ => discard <| IO.FS.Handle.mk path .append
    | .link _ => pure ()

end ReleaseVersion.CommandLine

open ReleaseVersion.CommandLine

/-- Runs the command line. -/
def main (arguments : List String) : IO UInt32 := do
  let environment ← readEnvironment
  let directory := (← IO.currentDir).toString.toList
  let files ← readFiles directory (configFiles environment arguments)
  let machine : ReleaseVersion.Host.Machine := { files, directory, environment }
  let (ending, left) := run machine arguments
  makeFiles files left
  (← IO.getStdout).putStr ending.output
  (← IO.getStderr).write (errorStream machine arguments)
  return ending.code.toUInt32
