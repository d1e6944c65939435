import ReleaseVersion.Host.Machine
import ReleaseVersion.Text.White
import ReleaseVersion.Version

/-!
# Executables

An executable is an absolute path, perhaps with variables that replace the environment of every
process it is run as.  It is found by name on a search path, run with arguments, and asked for its
version.  A name in `-ing` stands for a computation with its deeds; what such a computation comes
to has a plain name.
-/

namespace ReleaseVersion

open Host Text

/-- Variables given in place of the environment. -/
abbrev Variables :=
  List (String × String)

/-- The file to run and the variables to run it with. -/
structure Executable where
  filename : Path
  overrides : Option Variables
deriving DecidableEq, Repr

/-- Why an executable could not be found, run, or trusted. -/
inductive ExecutableFault where
  | missingFilename
  | relativePath (path : Path)
  /-- Nothing runnable of this name; `searched` is the search path, if there was one. -/
  | notFound (name : String) (searched : Option String)
  | notStarted (filename : Path) (cause : SystemError)
  | failed (filename : Path) (status : Status)
  | outputNotText (filename : Path)
  | badVersion (filename : Path) (fault : Fault)
  | mismatch (requested : Number) (found : Version)
deriving DecidableEq, Repr

namespace ExecutableFault

/-- The wording of each cause. -/
def message : ExecutableFault → String
  | missingFilename => "missing filename"
  | relativePath path => "filename must be an absolute path, got " ++ path.shown
  | notFound name _ => "executable " ++ quoted name ++ " not found"
  | notStarted filename cause => "failed to run " ++ filename.shown ++ ": " ++ cause.message
  | failed filename status => filename.shown ++ " exited with " ++ status.message
  | outputNotText filename => "output of " ++ filename.shown ++ " is not valid UTF-8"
  | badVersion filename fault =>
      "unexpected version reported by " ++ filename.shown ++ ": " ++ fault.message
  | mismatch requested found =>
      "installed version " ++ found.text ++ " does not match requested " ++ requested.text

/-- The message of the cause behind a cause, when it has one. -/
def source? : ExecutableFault → Option String
  | notStarted _ cause => some cause.message
  | badVersion _ fault => some fault.message
  | _ => none

end ExecutableFault

namespace Executable

/-! ## Construction -/

/-- The variables that have a value. -/
def given (overrides : Variables) : Variables :=
  overrides.filter fun entry => !entry.2.isEmpty

/-- The executable at an absolute path.  Variables with an empty value are dropped. -/
def ofPath (filename : Path) (overrides : Option Variables) :
    Except ExecutableFault Executable :=
  if filename = [] then .error .missingFilename
  else if !Path.isAbsolute filename then .error (.relativePath filename)
  else .ok ⟨filename, overrides.map given⟩

/-- The search path: that of the overriding variables if they name one, else that of the
machine. -/
def searchPath (machine : Machine) (overrides : Option Variables) : Option String :=
  (overrides.bind fun given => given.lookup "PATH") <|>
    machine.environment.text? "PATH"

/-- The absolute form of a path that leads to something runnable. -/
def runnable? (machine : Machine) (path : Path) : Option Path :=
  if machine.isRunnable path then some (machine.absolute path) else none

/-- The file that a name stands for: a name with a slash is a path by itself, any other is looked
up in the directories of the search path, one after the other. -/
def locate? (machine : Machine) (name : Path) (searched : Option String) : Option Path :=
  if '/' ∈ name then runnable? machine name
  else
    searched.bind fun directories =>
      (pieces ':' directories.toList).findSome? fun directory =>
        runnable? machine (Path.join directory name)

/-- A search path as the log shows it. -/
def shownPath (searched : Option String) : String :=
  match searched with
  | some path => "Some(" ++ quoted path ++ ")"
  | none => "None"

/-- Looks up the executable that a name stands for. -/
def finding (machine : Machine) (name : String) (overrides : Option Variables) :
    Traced ExecutableFault Executable :=
  if name.isEmpty then .fail .missingFilename
  else do
    let searched := searchPath machine overrides
    .log .debug ("Looking up " ++ quoted name ++ " on PATH " ++ shownPath searched)
    .deed (.lookedUp name searched)
    match locate? machine name.toList searched with
    | none => .fail (.notFound name searched)
    | some filename => do
      .log .debug ("Found " ++ quoted name ++ " at " ++ filename.shown)
      .ofExcept (ofPath filename overrides)

/-- The executable that a name stands for. -/
def find (machine : Machine) (name : String) (overrides : Option Variables) :
    Except ExecutableFault Executable :=
  (finding machine name overrides).result

theorem find_of_isEmpty {name : String} (empty : name.isEmpty = true) (machine : Machine)
    (overrides : Option Variables) : find machine name overrides = .error .missingFilename := by
  rw [find, finding, if_pos empty]
  rfl

theorem find_of_given {name : String} (given : ¬name.isEmpty = true) (machine : Machine)
    (overrides : Option Variables) :
    find machine name overrides =
      (locate? machine name.toList (searchPath machine overrides)).elim
        (.error (.notFound name (searchPath machine overrides)))
        fun filename => ofPath filename overrides := by
  simp only [find, finding, if_neg given]
  cases locate? machine name.toList (searchPath machine overrides) <;> rfl

/-! ## Starting -/

/-- The full argument list: the file itself and then the arguments. -/
def argumentList (executable : Executable) (arguments : List String) : List String :=
  String.ofList executable.filename :: arguments

/-- The environment of the process: the overriding variables alone if there are any given, else
the environment of the machine. -/
def environment (executable : Executable) (machine : Machine) : Environment :=
  match executable.overrides with
  | none => machine.environment
  | some given => given.map fun entry => (entry.1, entry.2.toUTF8)

/-- Whether a text holds the zero character, which no process can be given. -/
def holdsZero (text : String) : Bool :=
  text.toList.contains '\x00'

/-- Whether anything that the process would be given holds the zero character. -/
def givesZero (executable : Executable) (arguments : List String) : Bool :=
  (executable.argumentList arguments).any holdsZero ||
    (executable.overrides.getD []).any fun entry =>
      holdsZero entry.1 || holdsZero entry.2

/-- The streams of a process: its output is collected, or else it has those of the program. -/
def streams (machine : Machine) (capture : Bool) : Streams :=
  if capture then .captured else .inherited machine.input

/-- What the process is started with. -/
def invocation (executable : Executable) (machine : Machine) (streams : Streams)
    (arguments : List String) : Invocation :=
  ⟨arguments, executable.environment machine, streams⟩

/-- Starts the executable and waits for its end. -/
def starting (executable : Executable) (machine : Machine) (streams : Streams)
    (arguments : List String) : Traced SystemError Completion :=
  if executable.givesZero arguments then .fail .zeroCharacter
  else
    machine.starting executable.filename (executable.invocation machine streams arguments)

/-- What comes of starting the executable. -/
def start (executable : Executable) (machine : Machine) (streams : Streams)
    (arguments : List String) : Except SystemError Completion :=
  (executable.starting machine streams arguments).result

theorem start_eq (executable : Executable) (machine : Machine) (streams : Streams)
    (arguments : List String) :
    executable.start machine streams arguments =
      if executable.givesZero arguments then .error .zeroCharacter
      else
        machine.start executable.filename (executable.invocation machine streams arguments) := by
  rw [start, starting]
  split
  · rfl
  · exact Machine.result_starting _ _ _

/-- The cause for which a start failed: a file that is not runnable any more counts as not
found. -/
def startFault (executable : Executable) (machine : Machine) (cause : SystemError) :
    ExecutableFault :=
  if machine.isRunnable executable.filename then .notStarted executable.filename cause
  else
    .notFound (String.ofList executable.filename) (searchPath machine executable.overrides)

/-! ## Running -/

/-- An argument as the log shows it. -/
def shownArgument (argument : String) : String :=
  quoted (if holdsZero argument then "<string-with-nul>" else argument)

/-- A command as the log shows it: the overriding variables if there are any given, and then the
file and the arguments. -/
def shown (executable : Executable) (arguments : List String) : String :=
  let before := match executable.overrides with
    | none => ""
    | some given =>
      "env -i " ++ String.join (given.map fun entry => entry.1 ++ "=" ++ quoted entry.2 ++ " ")
  before ++ " ".intercalate ((executable.argumentList arguments).map shownArgument)

/-- Reports a start that has failed. -/
def reporting (executable : Executable) (machine : Machine) (cause : SystemError) :
    Traced ExecutableFault Completion := do
  .log .warn ("Failed to run " ++ executable.filename.shown ++ ": " ++ cause.message)
  .fail (executable.startFault machine cause)

/-- Takes the output from a process that has ended well, if it was to be collected. -/
def collecting (executable : Executable) (capture : Bool) (completion : Completion) :
    Traced ExecutableFault ByteArray :=
  if completion.status.isSuccess then
    return if capture then completion.output else ByteArray.empty
  else do
    .log .warn (executable.filename.shown ++ " exited with " ++ completion.status.message)
    .fail (.failed executable.filename completion.status)

/-- Runs the executable, which has to end well, and collects its output if that is asked for. -/
def invoking (executable : Executable) (machine : Machine) (arguments : List String)
    (capture : Bool) : Traced ExecutableFault ByteArray := do
  .log .debug ("Running " ++ executable.shown arguments)
  let completion ← (executable.starting machine (streams machine capture) arguments).recover
    (executable.reporting machine)
  executable.collecting capture completion

/-- The output that is collected from a run. -/
def invoke (executable : Executable) (machine : Machine) (arguments : List String)
    (capture : Bool) : Except ExecutableFault ByteArray :=
  (executable.invoking machine arguments capture).result

theorem result_collecting (executable : Executable) (capture : Bool) (completion : Completion) :
    (executable.collecting capture completion).result =
      if completion.status.isSuccess then
        .ok (if capture then completion.output else ByteArray.empty)
      else .error (.failed executable.filename completion.status) := by
  rw [collecting]
  split <;> rfl

section

variable {executable : Executable} {machine : Machine} {arguments : List String} {capture : Bool}

theorem invoke_of_unstarted {cause : SystemError}
    (unstarted : executable.start machine (streams machine capture) arguments = .error cause) :
    executable.invoke machine arguments capture = .error (executable.startFault machine cause) := by
  rw [start] at unstarted
  simp only [invoke, invoking, Traced.recover, unstarted]
  rfl

theorem invoke_of_started {completion : Completion}
    (started : executable.start machine (streams machine capture) arguments = .ok completion) :
    executable.invoke machine arguments capture =
      (executable.collecting capture completion).result := by
  rw [start] at started
  simp only [invoke, invoking, Traced.recover, started, Traced.result_bind]
  rfl

end

/-- Runs the executable for its effect. -/
def running (executable : Executable) (machine : Machine) (arguments : List String) :
    Traced ExecutableFault Unit := do
  let _ ← executable.invoking machine arguments false

/-- What a run for its effect comes to. -/
def run (executable : Executable) (machine : Machine) (arguments : List String) :
    Except ExecutableFault Unit :=
  (executable.running machine arguments).result

theorem run_eq (executable : Executable) (machine : Machine) (arguments : List String) :
    executable.run machine arguments =
      (executable.invoke machine arguments false).map fun _ => () := by
  simp only [run, running, Traced.result_bind, invoke]
  cases (executable.invoking machine arguments false).result <;> rfl

/-- What was collected, as text. -/
def textOf (executable : Executable) (collected : ByteArray) : Except ExecutableFault String :=
  match String.fromUTF8? collected with
  | some text => .ok text
  | none => .error (.outputNotText executable.filename)

/-- Runs the executable for the text it prints. -/
def printing (executable : Executable) (machine : Machine) (arguments : List String) :
    Traced ExecutableFault String := do
  let collected ← executable.invoking machine arguments true
  .ofExcept (executable.textOf collected)

/-- The text that a run prints. -/
def output (executable : Executable) (machine : Machine) (arguments : List String) :
    Except ExecutableFault String :=
  (executable.printing machine arguments).result

theorem output_eq (executable : Executable) (machine : Machine) (arguments : List String) :
    executable.output machine arguments =
      executable.invoke machine arguments true >>= executable.textOf := by
  simp only [output, printing, Traced.result_bind, Traced.result_ofExcept]
  rfl

/-- The version in an answer, white space around it ignored. -/
def versionOf (executable : Executable) (answer : String) : Except ExecutableFault Version :=
  match Version.read (trim answer.toList) with
  | .ok version => .ok version
  | .error fault => .error (.badVersion executable.filename fault)

/-- Asks the executable for its version. -/
def asking (executable : Executable) (machine : Machine) : Traced ExecutableFault Version := do
  let answer ← executable.printing machine ["version"]
  .ofExcept (executable.versionOf answer)

/-- The version that the executable tells when it is asked for it. -/
def version (executable : Executable) (machine : Machine) : Except ExecutableFault Version :=
  (executable.asking machine).result

theorem version_eq (executable : Executable) (machine : Machine) :
    executable.version machine =
      executable.output machine ["version"] >>= executable.versionOf := by
  simp only [version, asking, Traced.result_bind, Traced.result_ofExcept]
  rfl

end Executable

end ReleaseVersion
