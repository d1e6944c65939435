/-!
# Processes

What a program is given when it is started, and what it leaves behind when it has ended.  A
program is any function from the one to the other.  Among what it is given are its standard
streams, so it may behave in one way when it has something to read and in another when it has not.
-/

namespace ReleaseVersion.Host

/-- Variables with their values, which need not be text. -/
abbrev Environment :=
  List (String × ByteArray)

namespace Environment

/-- The value of a variable. -/
def value? (environment : Environment) (name : String) : Option ByteArray :=
  environment.lookup name

/-- The value of a variable, when it is set and text. -/
def text? (environment : Environment) (name : String) : Option String :=
  (environment.value? name).bind String.fromUTF8?

end Environment

/-- How a process ended. -/
inductive Status where
  | exited (code : Nat)
  | killed (signal : Nat)
deriving DecidableEq, Repr

namespace Status

/-- Whether the process ended well. -/
def isSuccess (status : Status) : Bool :=
  status = exited 0

/-- The names of the signals, by number from one on. -/
def signalNames : List String :=
  ["SIGHUP", "SIGINT", "SIGQUIT", "SIGILL", "SIGTRAP", "SIGABRT", "SIGBUS", "SIGFPE", "SIGKILL",
    "SIGUSR1", "SIGSEGV", "SIGUSR2", "SIGPIPE", "SIGALRM", "SIGTERM", "SIGSTKFLT", "SIGCHLD",
    "SIGCONT", "SIGSTOP", "SIGTSTP", "SIGTTIN", "SIGTTOU", "SIGURG", "SIGXCPU", "SIGXFSZ",
    "SIGVTALRM", "SIGPROF", "SIGWINCH", "SIGIO", "SIGPWR", "SIGSYS"]

/-- The status as messages show it. -/
def message : Status → String
  | exited code => "exit status: " ++ toString code
  | killed signal =>
    match signal with
    | 0 => "signal: 0"
    | n + 1 =>
      match signalNames[n]? with
      | some name => "signal: " ++ toString signal ++ " (" ++ name ++ ")"
      | none => "signal: " ++ toString signal

end Status

/-! ## Streams -/

/-- What a process reads from. -/
inductive Source where
  /-- What there is to read for the process that starts it. -/
  | inherited (content : ByteArray)
  /-- Nothing: reading ends at once. -/
  | null

/-- Where a process writes to. -/
inductive Sink where
  /-- Where the process that starts it writes to. -/
  | inherited
  /-- A pipe, from which the process that starts it collects everything. -/
  | pipe
deriving DecidableEq

/-- The standard streams of a process. -/
structure Streams where
  input : Source
  output : Sink
  errors : Sink

namespace Streams

/-- The streams of the process that starts another, of which `content` is left to read. -/
def inherited (content : ByteArray) : Streams :=
  ⟨.inherited content, .inherited, .inherited⟩

/-- The output is collected and nothing can be read; errors are shown where those of the process
that starts the other are. -/
def captured : Streams :=
  ⟨.null, .pipe, .inherited⟩

end Streams

/-! ## Programs -/

/-- What a program is started with. -/
structure Invocation where
  arguments : List String
  environment : Environment
  streams : Streams

/-- What a program leaves behind. -/
structure Completion where
  output : ByteArray
  errors : ByteArray
  status : Status

/-- The behaviour of a program. -/
abbrev Program :=
  Invocation → Completion

end ReleaseVersion.Host
