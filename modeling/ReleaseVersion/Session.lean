import ReleaseVersion.Version

/-!
# Sessions

A session holds a number and, once one has been built, a version, and changes them by steps.  A
step either yields an outcome and the new holdings, or is refused with a fault; a refused step
leaves the holdings as they were.
-/

namespace ReleaseVersion

/-- What a session holds. -/
structure Session where
  number : Number
  version : Option Version
deriving DecidableEq, Repr

namespace Session

/-- The steps that a session can take. -/
inductive Step where
  /-- Hold the number that a text gives. -/
  | parse (raw : String)
  /-- Hold the number that the canonical text of the held number gives. -/
  | reparse
  /-- Replace the micro of the held number. -/
  | withMicro (micro : Component)
  /-- Hold a number of these components; the major may be that of the held number. -/
  | components (major : Option Nat) (minor micro : Component)
  /-- Build the held number again from the tokens that spell its components. -/
  | rebuild
  /-- Whether the held number accepts a candidate. -/
  | accepts (candidate : String)
  /-- Whether a pattern accepts the held number. -/
  | acceptedBy (pattern : String)
  /-- Hold the version of the held number with these labels. -/
  | version (level series arch : Option String)
  /-- The same, from the canonical text of the held number. -/
  | versionOfText (level series arch : Option String)
  /-- Hold the version that a text gives. -/
  | parseVersion (raw : String)
  /-- Hold the version of the held number with the held labels, except those given. -/
  | relabel (level series arch : Option String)
  /-- Hold the version that the canonical text of the held version gives. -/
  | reparseVersion
  /-- Hold the number of the held version. -/
  | takeNumber
  /-- Compare the held version with the one that a text gives. -/
  | compare (raw : String)
deriving Repr

/-- What a step tells beside the new holdings. -/
inductive Outcome where
  | done
  /-- Whether a pattern accepted a candidate. -/
  | matched (accepted : Bool)
  /-- Whether the held version came back the same. -/
  | same (equal : Bool)
  /-- Whether the held version and its level are those of the text. -/
  | compared (equal : Bool) (levelEqual : Option Bool)
deriving DecidableEq, Repr

/-- The session at its start: the number of a text, and no version. -/
def start (raw : String) : Except Fault Session :=
  (Number.parse raw).map fun number => ⟨number, none⟩

/-- The session with another number. -/
def holdNumber (session : Session) (number : Number) : Session × Outcome :=
  ({ session with number := number }, .done)

/-- The session with another version. -/
def holdVersion (session : Session) (version : Version) : Session × Outcome :=
  ({ session with version := some version }, .done)

/-- Builds a number again from the tokens that spell its components. -/
def rebuildNumber (number : Number) : Except Fault Number :=
  Number.ofTokens (.ofComponent (.exactly number.major)) (.ofComponent number.minor)
    (.ofComponent number.micro)

/-- One step. -/
def step (session : Session) : Step → Except Fault (Session × Outcome)
  | .parse raw => (Number.parse raw).map session.holdNumber
  | .reparse => (Number.parse session.number.text).map session.holdNumber
  | .withMicro micro => (session.number.withMicro micro).map session.holdNumber
  | .components major minor micro =>
      (Number.ofComponents (major.getD session.number.major) minor micro).map session.holdNumber
  | .rebuild => (rebuildNumber session.number).map session.holdNumber
  | .accepts candidate =>
      (session.number.acceptsText candidate).map fun accepted => (session, .matched accepted)
  | .acceptedBy pattern =>
      (Number.parse pattern).map fun pattern =>
        (session, .matched (pattern.accepts session.number))
  | .version level series arch =>
      (Version.ofParts session.number (.ofOptions level series arch)).map session.holdVersion
  | .versionOfText level series arch =>
      (Version.ofText session.number.text (.ofOptions level series arch)).map session.holdVersion
  | .parseVersion raw => (Version.parse raw).map session.holdVersion
  | .relabel level series arch =>
      match session.version with
      | none => .ok (session, .done)
      | some held =>
        (Version.ofParts session.number
          (.ofOptions (level <|> some held.level.text) (series <|> held.series?)
            (arch <|> held.arch?))).map session.holdVersion
  | .reparseVersion =>
      match session.version with
      | none => .ok (session, .done)
      | some held =>
        (Version.parse held.text).map fun version =>
          ({ session with version := some version }, .same (version = held))
  | .takeNumber =>
      match session.version with
      | none => .ok (session, .done)
      | some held => .ok (session.holdNumber held.number)
  | .compare raw =>
      (Version.parse raw).map fun version =>
        (session, .compared (session.version = some version)
          (session.version.map fun held => held.level = version.level))

/-- What the session holds after a step, taken or refused. -/
def after (session : Session) (next : Step) : Session :=
  match session.step next with
  | .ok (changed, _) => changed
  | .error _ => session

/-- Every step with its result and the holdings after it. -/
def run (session : Session) : List Step → List (Except Fault Outcome × Session)
  | [] => []
  | next :: rest =>
    ((session.step next).map Prod.snd, session.after next) :: run (session.after next) rest

end Session

end ReleaseVersion
