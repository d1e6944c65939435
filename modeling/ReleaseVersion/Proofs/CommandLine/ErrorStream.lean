import ReleaseVersion.CommandLine.Run

/-!
# The stream of errors

What a run writes to its stream of errors: something for every deed that is shown, in the order of
the deeds, and at last the report.  It depends on nothing but the end of the run and the
environment.
-/

namespace ReleaseVersion.CommandLine

open Host

variable {libraries : Libraries} {arguments : List String} {first second machine : Machine}
  {command : Command}

/-! ## Joined bytes -/

end ReleaseVersion.CommandLine
