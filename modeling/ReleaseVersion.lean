import ReleaseVersion.Main
import ReleaseVersion.Session
import ReleaseVersion.Host.Script
import ReleaseVersion.Proofs.Session
import ReleaseVersion.Proofs.Level
import ReleaseVersion.Proofs.Number.Meaning
import ReleaseVersion.Proofs.Number.RoundTrip
import ReleaseVersion.Proofs.Number.Tokens
import ReleaseVersion.Proofs.Version.Grammar
import ReleaseVersion.Proofs.Version.RoundTrip
import ReleaseVersion.Proofs.Version.Abbreviation
import ReleaseVersion.Proofs.Version.Capitals
import ReleaseVersion.Proofs.Version.Exposed
import ReleaseVersion.Proofs.Config.Loading
import ReleaseVersion.Proofs.Host.Likeness
import ReleaseVersion.Proofs.Executable.Lookup
import ReleaseVersion.Proofs.Executable.Overrides
import ReleaseVersion.Proofs.Executable.Endings
import ReleaseVersion.Proofs.Executable.Isolation
import ReleaseVersion.Proofs.Client
import ReleaseVersion.Proofs.CommandLine.Find
