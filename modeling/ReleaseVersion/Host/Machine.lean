import ReleaseVersion.Host.FileTree
import ReleaseVersion.Host.Trace

/-!
# Machines

A machine is a file tree with the directory and the environment in which commands run on it, and
with what there is for them to read.
-/

namespace ReleaseVersion.Host

/-- Where commands run. -/
structure Machine where
  files : FileTree
  /-- The working directory. -/
  directory : Path
  environment : Environment
  /-- What can be read from the standard input. -/
  input : ByteArray := ByteArray.empty

namespace Machine

/-- Whether a path leads to a regular file with an executable bit. -/
def isRunnable (machine : Machine) (path : Path) : Bool :=
  machine.files.isRunnable machine.directory path

/-- Whether anything is where a path leads. -/
def leadsSomewhere (machine : Machine) (path : Path) : Bool :=
  match machine.files.find machine.directory path with
  | .ok _ => true
  | .error _ => false

/-- The absolute form of a path that is read in the working directory. -/
def absolute (machine : Machine) (path : Path) : Path :=
  Path.absolute machine.directory path

/-- What comes of starting the file at a path, once it has ended. -/
def start (machine : Machine) (path : Path) (invocation : Invocation) :
    Except SystemError Completion :=
  match machine.files.find machine.directory path with
  | .error error => .error error
  | .ok (.file file) =>
    if file.isRunnable then file.start.result invocation else .error .permissionDenied
  | .ok _ => .error .permissionDenied

/-- Where a program writes to what it has inherited, its output and its errors can be seen. -/
def showing (streams : Streams) (completion : Completion) : Traced SystemError Unit := do
  if streams.output = .inherited then .deed (.wroteOutput completion.output)
  if streams.errors = .inherited then .deed (.wroteErrors completion.errors)

/-- Starts the file at a path and waits for its end. -/
def starting (machine : Machine) (path : Path) (invocation : Invocation) :
    Traced SystemError Completion := do
  .deed (.started path invocation)
  let completion ← .ofExcept (machine.start path invocation)
  showing invocation.streams completion
  return completion

@[simp]
theorem result_starting (machine : Machine) (path : Path) (invocation : Invocation) :
    (machine.starting path invocation).result = machine.start path invocation := by
  have shown (completion : Completion) :
      (showing invocation.streams completion).result = .ok () := by
    unfold showing
    split <;> split <;> rfl
  simp only [starting, Traced.result_bind, Traced.result_deed, Traced.result_ofExcept, shown,
    Traced.result_pure]
  cases machine.start path invocation <;> rfl

end Machine

end ReleaseVersion.Host
