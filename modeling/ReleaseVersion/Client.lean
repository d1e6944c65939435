import ReleaseVersion.Executable

/-!
# The client

The client is an executable that tells its version.  It is usable when that version is one that
the caller asked for; a caller without a pattern takes any.
-/

namespace ReleaseVersion

open Host

namespace Client

/-- The name of the client when none is given. -/
def defaultName : String :=
  "juju"

/-- Accepts the version that an executable tells, unless there is a pattern that does not. -/
def checking (requested : Option Number) (executable : Executable) (found : Version) :
    Traced ExecutableFault (Executable × Version) :=
  match requested.filter fun pattern => !pattern.accepts found.number with
  | some pattern => do
    .log .warn (executable.filename.shown ++ " reports " ++ found.text ++
      " which does not match " ++ pattern.text)
    .fail (.mismatch pattern found)
  | none => do
    .log .debug ("Using " ++ executable.filename.shown ++ " (" ++ found.text ++ ")")
    return (executable, found)

/-- Finds the client of a name and the version it tells, which the pattern must accept. -/
def finding (machine : Machine) (name : String) (requested : Option Number)
    (overrides : Option Variables) : Traced ExecutableFault (Executable × Version) := do
  let executable ← Executable.finding machine name overrides
  let found ← executable.asking machine
  checking requested executable found

/-- The client of a name and the version it tells. -/
def find (machine : Machine) (name : String) (requested : Option Number)
    (overrides : Option Variables) : Except ExecutableFault (Executable × Version) :=
  (finding machine name requested overrides).result

theorem result_checking_none (executable : Executable) (found : Version) :
    (checking none executable found).result = .ok (executable, found) :=
  rfl

theorem result_checking_of_accepts {pattern : Number} {found : Version}
    (accepts : pattern.accepts found.number = true) (executable : Executable) :
    (checking (some pattern) executable found).result = .ok (executable, found) := by
  simp only [checking, Option.filter, accepts]
  rfl

theorem result_checking_of_refuses {pattern : Number} {found : Version}
    (refuses : pattern.accepts found.number = false) (executable : Executable) :
    (checking (some pattern) executable found).result = .error (.mismatch pattern found) := by
  simp only [checking, Option.filter, refuses]
  rfl

theorem find_eq (machine : Machine) (name : String) (requested : Option Number)
    (overrides : Option Variables) :
    find machine name requested overrides =
      Executable.find machine name overrides >>= fun executable =>
        executable.version machine >>= fun found =>
          (checking requested executable found).result := by
  simp only [find, finding, Traced.result_bind]
  rfl

end Client

end ReleaseVersion
