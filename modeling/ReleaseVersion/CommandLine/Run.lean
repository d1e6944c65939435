import ReleaseVersion.Client
import ReleaseVersion.CommandLine.Report
import ReleaseVersion.CommandLine.Request
import ReleaseVersion.Directories
import ReleaseVersion.Document.Json.Literal

/-!
# Carrying out requests

A request is carried out on a machine: the log is opened first and the command comes after it, so a
command that fails still leaves a log behind.  What a run prints, how it ends, what it does on the
way, and the files it leaves are a value.
-/

namespace ReleaseVersion.CommandLine

open Host Document.Json

/-! ## Libraries -/

/-- What is left to libraries: how documents are read, where the home directory is, and what is
written of a line for the log in some environment, when it comes with the `n`th deed of a run.
Nothing is taken for granted about any of it. -/
structure Libraries where
  readers : Config.Readers
  home : Directories.HomeLookup
  line : Environment → Nat → Severity → String → ByteArray

/-- The readers of this library, the home directory that the environment names, and a log that is
switched off. -/
def Libraries.standard : Libraries :=
  ⟨.standard, Directories.home?, fun _ _ _ _ => ByteArray.empty⟩

/-! ## Endings -/

/-- How a run ends. -/
structure Ending where
  code : Nat
  /-- What the run itself prints. -/
  output : String
  /-- The report of its failure. -/
  errors : String
  /-- What it has done before. -/
  deeds : List Deed

namespace Ending

/-- The end of a run that prints a line. -/
def printed (code : Nat) (line : String) : Ending :=
  ⟨code, line ++ "\n", "", []⟩

/-- The end of a run that fails. -/
def failed (failure : Failure) : Ending :=
  ⟨1, "", failure.report, []⟩

/-- The end of a run with other deeds before it. -/
def after (ending : Ending) (deeds : List Deed) : Ending :=
  { ending with deeds := deeds }

/-- The end of a run that is broken off because the log cannot be opened. -/
def crashed : Ending :=
  ⟨101, "", "", []⟩

/-- What the program says of itself. -/
def programVersion : String :=
  "juju-version 0.1.0"

/-- The end of a run without a request. -/
def halted : Halt → Ending
  | .help => ⟨0, "", "", []⟩
  | .version => printed 0 programVersion
  | .misuse => ⟨2, "", "", []⟩

end Ending

/-! ## JSON output -/

/-- A text as a JSON value, or null. -/
def jsonText (text? : Option String) : String :=
  match text? with
  | some text => writeString text
  | none => "null"

/-- Fields as a JSON object. -/
def jsonObject (fields : List (String × String)) : String :=
  "\x7b" ++ ",".intercalate (fields.map fun (name, value) => writeString name ++ ":" ++ value) ++
    "\x7d"

/-- The components of a number as JSON. -/
def numberJson (number : Number) : String :=
  let micro? := if number.micro = .unset then none else some number.micro.text
  jsonObject
    [("major", String.ofList (Text.decimal number.major)), ("micro", jsonText micro?),
      ("minor", writeString number.minor.text),
      ("wildcard", if number.isOpen then "true" else "false")]

/-- The components of a version as JSON. -/
def versionJson (version : Version) : String :=
  jsonObject
    [("arch", jsonText version.arch?), ("number", writeString version.number.text),
      ("releaselevel", writeString version.level.text), ("series", jsonText version.series?)]

/-! ## Commands -/

/-- A result, or the fault in the text it was to be read from. -/
def inContext {α : Type} (what : String) (text : String) :
    Except Fault α → Except Failure α
  | .ok value => .ok value
  | .error fault => .error ((Failure.ofFault fault).under (what ++ " " ++ Text.quoted text))

/-- Parses a version and prints it in its own form. -/
def runParse (raw : String) (asNumber asJson : Bool) : Except Failure Ending :=
  if asNumber then do
    let number ← inContext "invalid version" raw (Number.parse raw)
    .ok (.printed 0 (if asJson then numberJson number else number.text))
  else do
    let version ← inContext "invalid version" raw (Version.parse raw)
    .ok (.printed 0 (if asJson then versionJson version else version.text))

/-- Tells whether a pattern accepts a candidate, also by the exit code. -/
def runAccepts (pattern candidate : String) : Except Failure Ending := do
  let number ← inContext "invalid pattern" pattern (Number.parse pattern)
  let accepted ← inContext "invalid candidate" candidate (number.acceptsText candidate)
  .ok (if accepted then .printed 0 "true" else .printed 1 "false")

/-- What was loaded from a path, or why nothing was. -/
def underPath (path : Path) : Except ConfigFault Config → Except Failure Config
  | .ok config => .ok config
  | .error fault =>
    .error ((Failure.ofConfigFault fault).under ("failed to load config " ++ path.shown))

/-- Loads the configuration in a file. -/
def loadingFrom (libraries : Libraries) (machine : Machine) (path : Path) :
    Traced Failure Config := do
  .log .debug ("Loading config from " ++ path.shown)
  .deed (.read path)
  .ofExcept (underPath path (Config.load machine path libraries.readers))

/-- Loads the configuration in a file that is named, or in the usual file if there is one. -/
def loadingConfig (libraries : Libraries) (machine : Machine) (path? : Option Path) :
    Traced Failure Config :=
  match path? with
  | some path => loadingFrom libraries machine path
  | none =>
    let usual := Directories.configFile machine.environment libraries.home
    if machine.leadsSomewhere usual then loadingFrom libraries machine usual
    else do
      .log .debug ("No config at " ++ usual.shown ++ ", using defaults")
      return Config.default

/-- The pattern for the version: the one among the arguments, else that of the configuration. -/
def choosePattern (pattern : Option String) (config : Config) : Except Failure (Option Number) :=
  match pattern with
  | some raw => (inContext "invalid pattern" raw (Number.parse raw)).map some
  | none => .ok config.client.version

/-- Finds the client and prints its path and version. -/
def finding (libraries : Libraries) (machine : Machine) (name pattern : Option String)
    (path? : Option Path) : Traced Failure Ending := do
  let config ← loadingConfig libraries machine path?
  let requested ← .ofExcept (choosePattern pattern config)
  let (executable, version) ←
    (Client.finding machine (name.getD config.client.executable) requested none).mapFault
      Failure.ofExecutableFault
  return .printed 0 (String.ofList executable.filename ++ "\t" ++ version.text)

/-- Carries out a command. -/
def carryingOut (libraries : Libraries) (machine : Machine) : Command → Traced Failure Ending
  | .parse raw asNumber asJson => .ofExcept (runParse raw asNumber asJson)
  | .accepts pattern candidate => .ofExcept (runAccepts pattern candidate)
  | .find name pattern path? => finding libraries machine name pattern path?

/-- How a command ends. -/
def runCommand (libraries : Libraries) (machine : Machine) (command : Command) : Ending :=
  let course := carryingOut libraries machine command
  match course.result with
  | .ok ending => ending.after course.deeds
  | .error failure => (Ending.failed failure).after course.deeds

/-! ## The log -/

/-- The file in which a log is kept, if one is. -/
def logPath? (environment : Environment) (home : Directories.HomeLookup) :
    LogChoice → Option Path
  | .nowhere => none
  | .usual => some (Directories.logFile environment home)
  | .file path => some path

/-- The directory of a log file. -/
def logDirectory (path : Path) : Path :=
  match path.parent? with
  | none | some [] => ['.']
  | some directory => directory

/-- The machine with a log opened at a path, or the end of the run.  The directories above the log
are made; a log that then cannot be opened breaks the run off. -/
def openLog (machine : Machine) (path : Path) : Except Ending Machine :=
  let directory := logDirectory path
  match path.name? with
  | none => .error (.failed (.ofMessage ("invalid log file " ++ path.shown)))
  | some name =>
    match machine.files.makeDirectories machine.directory directory with
    | .error cause =>
      .error (.failed ((Failure.ofMessage cause.message).under
        ("failed to create " ++ directory.shown)))
    | .ok files =>
      match files.openForAppend machine.directory (Path.join directory name) with
      | .error _ => .error .crashed
      | .ok files => .ok { machine with files := files }

/-! ## Runs -/

/-- Runs the program: how it ends, and the files as it leaves them.  Directories made for a log
that then cannot be opened are not looked at again. -/
def run (machine : Machine) (arguments : List String) (libraries : Libraries := .standard) :
    Ending × FileTree :=
  match Request.ofArguments arguments with
  | .error halt => (.halted halt, machine.files)
  | .ok request =>
    match logPath? machine.environment libraries.home request.log with
    | none => (runCommand libraries machine request.command, machine.files)
    | some path =>
      match openLog machine path with
      | .error ending => (ending, machine.files)
      | .ok machine => (runCommand libraries machine request.command, machine.files)

/-! ## The stream of errors -/

/-- Whether the lines of the log are shown among the errors: they are unless a file is kept. -/
def showsLog (arguments : List String) : Bool :=
  match Request.ofArguments arguments with
  | .ok ⟨.nowhere, _⟩ => true
  | _ => false

/-- What a deed, the `n`th of a run, writes to the stream of errors. -/
def written (line : Nat → Severity → String → ByteArray) (n : Nat) : Deed → ByteArray
  | .logged severity message => line n severity message
  | .wroteErrors bytes => bytes
  | _ => ByteArray.empty

/-- All that a run writes to the stream of errors: the lines of the log, between them the errors of
the programs that it starts, and at last the report of its own failure. -/
def errorStream (machine : Machine) (arguments : List String)
    (libraries : Libraries := .standard) : ByteArray :=
  let ending := (run machine arguments libraries).1
  let line :=
    if showsLog arguments then libraries.line machine.environment
    else fun _ _ _ => ByteArray.empty
  let shown := ending.deeds.mapIdx (written line)
  shown.foldr (· ++ ·) ending.errors.toUTF8

end ReleaseVersion.CommandLine
