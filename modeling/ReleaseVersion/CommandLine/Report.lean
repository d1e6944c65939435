import ReleaseVersion.Config.Load
import ReleaseVersion.Executable
import ReleaseVersion.Text.Cut

/-!
# Reports of failures

A failure is a chain of messages, each the cause of the one before it.  The report shows the first
message and then the causes, indented and, when there are several, numbered from zero.
-/

namespace ReleaseVersion.CommandLine

/-- A message and its causes, the nearest cause first. -/
structure Failure where
  message : String
  causes : List String
deriving DecidableEq, Repr

namespace Failure

/-- A failure as the cause of another. -/
def under (failure : Failure) (context : String) : Failure :=
  ⟨context, failure.message :: failure.causes⟩

/-- A failure without a cause. -/
def ofMessage (message : String) : Failure :=
  ⟨message, []⟩

/-- A version fault as a failure. -/
def ofFault (fault : Fault) : Failure :=
  ofMessage fault.message

/-- A fault of an executable as a failure. -/
def ofExecutableFault (fault : ExecutableFault) : Failure :=
  ⟨fault.message, fault.source?.toList⟩

/-- A fault of a configuration as a failure. -/
def ofConfigFault (fault : ConfigFault) : Failure :=
  ⟨fault.message, fault.source?.toList⟩

/-! ## Reports -/

/-- A number that takes up at least five columns. -/
def wideNumber (n : Nat) : String :=
  let digits := Text.decimal n
  String.ofList (List.replicate (5 - digits.length) ' ' ++ digits)

/-- A text with `lead` before its first line and `indent` before every other. -/
def hang (lead indent text : String) : String :=
  let lines := (Text.pieces '\n' text.toList).map String.ofList
  lead ++ ("\n" ++ indent).intercalate lines

/-- The causes from the `n`th on, each on lines of its own. -/
def numbered (n : Nat) : List String → String
  | [] => ""
  | cause :: rest => "\n" ++ hang (wideNumber n ++ ": ") "       " cause ++ numbered (n + 1) rest

/-- The report of a failure. -/
def report (failure : Failure) : String :=
  let causes := match failure.causes with
    | [] => ""
    | [cause] => "\n\nCaused by:\n" ++ hang "    " "    " cause
    | several => "\n\nCaused by:" ++ numbered 0 several
  "Error: " ++ failure.message ++ causes ++ "\n"

end Failure

end ReleaseVersion.CommandLine
