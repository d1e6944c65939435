import ReleaseVersion.Client
import ReleaseVersion.Proofs.Executable.Running

/-!
# What is done to find a client

Lines for the log apart, a name is looked up, the file that it stands for is started so that its
output is collected, and what that program writes to its stream of errors is seen.  Every deed is
told by what has to come before it.
-/

namespace ReleaseVersion

open Host

namespace Executable

/-! ## Looking up -/

variable {executable : Executable} {machine : Machine} {name : String}
  {overrides : Option Variables} {arguments : List String} {done : Deed}

end Executable

/-! ## The client -/

namespace Client

variable {executable : Executable} {machine : Machine} {name : String}
  {requested : Option Number} {overrides : Option Variables} {done : Deed}

end Client

end ReleaseVersion
