import ReleaseVersion.Host.Process

/-!
# Scripts

A script is a program given by what it prints and how it ends: its arguments line by line, some of
its variables, a fixed output, and then an exit code or a signal.  It reads nothing, and it does not
look at where its streams lead.
-/

namespace ReleaseVersion.Host

/-- A description of a program. -/
structure Script where
  /-- Whether the arguments are printed, each on a line. -/
  printsArguments : Bool
  /-- The variables that are printed with their values, each on a line. -/
  printsVariables : List String
  /-- What is printed after that. -/
  output : ByteArray
  /-- The signal that the program sends itself, if any. -/
  signal : Option Nat
  /-- The exit code. -/
  code : Nat

namespace Script

/-- A line of text. -/
def line (text : String) : ByteArray :=
  (text ++ "\n").toUTF8

/-- The line for a variable. -/
def variableLine (environment : Environment) (name : String) : ByteArray :=
  let value := (environment.value? name).getD "<unset>".toUTF8
  (name ++ "=").toUTF8 ++ value ++ "\n".toUTF8

/-- The program that the script describes. -/
def program (script : Script) : Program := fun invocation =>
  let arguments := if script.printsArguments then invocation.arguments.map line else []
  let values := script.printsVariables.map (variableLine invocation.environment)
  { output := (arguments ++ values).foldl (· ++ ·) ByteArray.empty ++ script.output
    errors := ByteArray.empty
    status :=
      match script.signal with
      | some signal => .killed signal
      | none => .exited script.code }

end Script

end ReleaseVersion.Host
