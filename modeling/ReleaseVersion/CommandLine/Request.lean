import ReleaseVersion.CommandLine.Grammar
import ReleaseVersion.Host.Path

/-!
# Requests

What the program is asked to do: one of three commands, and where the log is kept if there is to be
one.  The log may be chosen before the command and after it, and the choice after it counts.
-/

namespace ReleaseVersion.CommandLine

open Host

/-- A command. -/
inductive Command where
  /-- Parse a version or, with `asNumber`, a bare number. -/
  | parse (version : String) (asNumber asJson : Bool)
  /-- Ask whether a pattern accepts a candidate. -/
  | accepts (pattern candidate : String)
  /-- Find the client of a name, whose version a pattern has to accept. -/
  | find (name pattern : Option String) (config : Option Path)
deriving DecidableEq, Repr

/-- Where a log is kept. -/
inductive LogChoice where
  | nowhere
  /-- In the file that the environment suggests. -/
  | usual
  | file (path : Path)
deriving DecidableEq, Repr

/-- A request. -/
structure Request where
  log : LogChoice
  command : Command
deriving DecidableEq, Repr

/-! ## Grammars -/

/-- The option for the log, which the program and every command understand. -/
def logOption : OptionRule :=
  ⟨"log-file", .maybe, false⟩

/-- The arguments in front of the command. -/
def topGrammar : Grammar :=
  { options := [logOption]
    positions := 0
    commands := ["parse", "match", "find", "help"]
    tellsVersion := true }

/-- The arguments of a command without names of further commands. -/
def commandGrammar (options : List OptionRule) (positions : Nat) : Grammar :=
  { options := logOption :: options
    positions := positions
    commands := []
    tellsVersion := false }

/-- The arguments of `parse`. -/
def parseGrammar : Grammar :=
  commandGrammar [⟨"number", .never, true⟩, ⟨"json", .never, true⟩] 1

/-- The arguments of `match`. -/
def matchGrammar : Grammar :=
  commandGrammar [] 2

/-- The arguments of `find`. -/
def findGrammar : Grammar :=
  commandGrammar
    [⟨"name", .always, true⟩, ⟨"version", .always, true⟩, ⟨"config", .always, false⟩] 0

/-! ## Reading -/

namespace LogChoice

/-- The choice that options make. -/
def ofGiven (given : Given) : LogChoice :=
  if !given.has logOption.name then nowhere
  else
    match given.value? logOption.name with
    | none => usual
    | some path => file path.toList

/-- The choice that counts, where one is made before the command and one after it. -/
def deeper (before after : LogChoice) : LogChoice :=
  if after = nowhere then before else after

end LogChoice

namespace Command

/-- The command that the arguments of `parse` describe. -/
def ofParse? (given : Given) : Option Command :=
  match given.positions with
  | [version] => some (parse version (given.has "number") (given.has "json"))
  | _ => none

/-- The command that the arguments of `match` describe. -/
def ofMatch? (given : Given) : Option Command :=
  match given.positions with
  | [pattern, candidate] => some (accepts pattern candidate)
  | _ => none

/-- The command that the arguments of `find` describe. -/
def ofFind? (given : Given) : Option Command :=
  some (find (given.value? "name") (given.value? "version")
    ((given.value? "config").map String.toList))

/-- The arguments of a command, and the command they describe. -/
def kind? (name : String) : Option (Grammar × (Given → Option Command)) :=
  match name with
  | "parse" => some (parseGrammar, ofParse?)
  | "match" => some (matchGrammar, ofMatch?)
  | "find" => some (findGrammar, ofFind?)
  | _ => none

end Command

namespace Request

/-- The answer to a request for help, which may name one command. -/
def help (names : List String) : Halt :=
  match names with
  | [] => .help
  | [name] => if name ∈ topGrammar.commands then .help else .misuse
  | _ => .misuse

/-- The request that arguments make. -/
def ofArguments (arguments : List String) : Except Halt Request := do
  let division ← topGrammar.divide Given.none arguments
  match division.command? with
  | none => .error .misuse
  | some (name, rest) =>
    match Command.kind? name with
    | none => .error (help rest)
    | some (grammar, describe) => do
      let inner ← grammar.divide Given.none rest
      match describe inner.given with
      | none => .error .misuse
      | some command =>
        let log := (LogChoice.ofGiven division.given).deeper (LogChoice.ofGiven inner.given)
        .ok ⟨log, command⟩

end Request

end ReleaseVersion.CommandLine
