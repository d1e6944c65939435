import ReleaseVersion.Client

/-!
# Configurations

A configuration chooses the client: the name or path of its executable, the versions that are
accepted, and the version of the agents to deploy.  Whatever a document leaves out has a default.
-/

namespace ReleaseVersion

/-- The choice of a client. -/
structure ClientChoice where
  executable : String
  version : Option Number
  agentVersion : Option Version
deriving DecidableEq, Repr

/-- The choice that is made when nothing is said. -/
def ClientChoice.default : ClientChoice :=
  ⟨Client.defaultName, none, none⟩

/-- A configuration. -/
structure Config where
  client : ClientChoice
deriving DecidableEq, Repr

/-- The configuration of an empty document. -/
def Config.default : Config :=
  ⟨ClientChoice.default⟩

end ReleaseVersion
