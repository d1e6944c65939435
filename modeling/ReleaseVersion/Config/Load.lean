import ReleaseVersion.Config.Json
import ReleaseVersion.Config.Toml
import ReleaseVersion.Config.Yaml
import ReleaseVersion.Host.Machine

/-!
# Loading configurations

A configuration file tells its notation by its extension.  The file is read before the extension is
looked at, so a file that cannot be read is never called unsupported.
-/

namespace ReleaseVersion

open Host

namespace Config

/-! ## Notations -/

/-- The notations of configurations. -/
inductive Format where
  | toml
  | json
  | yaml
deriving DecidableEq, Repr

namespace Format

/-- The name of a notation. -/
def name : Format → String
  | toml => "TOML"
  | json => "JSON"
  | yaml => "YAML"

/-- The notation of files with an extension. -/
def ofExtension? (extension : List Char) : Option Format :=
  match String.ofList extension with
  | "toml" => some toml
  | "json" => some json
  | "yaml" | "yml" => some yaml
  | _ => none

end Format

/-- How documents of each notation are read.  Reading is the work of libraries, so nothing is taken
for granted about it. -/
structure Readers where
  toml : List Char → Option (Document.Node Document.Span)
  json : List Char → Option Document.Json.Part
  yaml : List Char → Option Document.Yaml.Linked

namespace Readers

/-- The readers that come with the library. -/
def standard : Readers :=
  ⟨Document.Toml.read, Document.Json.read, Document.Yaml.Linked.ofText?⟩

/-- The configuration that a document of some notation describes. -/
def decode (readers : Readers) : Format → String → Except Document.Fault Config
  | .toml => Toml.decode readers.toml
  | .json => Json.decode readers.json
  | .yaml => Yaml.decode readers.yaml

end Readers

end Config

/-! ## Faults -/

/-- Why a configuration could not be loaded. -/
inductive ConfigFault where
  | notRead (path : Path) (cause : SystemError)
  | invalid (format : Config.Format) (fault : Document.Fault)
  | unsupported (path : Path)
deriving DecidableEq, Repr

namespace ConfigFault

/-- The wording of each cause. -/
def message : ConfigFault → String
  | notRead path cause => "Failed to read " ++ path.shown ++ ": " ++ cause.message
  | invalid format fault => "Invalid " ++ format.name ++ ": " ++ fault.message
  | unsupported path => "Unsupported config format: " ++ path.shown

/-- The message of the cause behind a cause, when it has one. -/
def source? : ConfigFault → Option String
  | notRead _ cause => some cause.message
  | invalid _ fault => some fault.message
  | unsupported _ => none

end ConfigFault

namespace Config

/-! ## Files -/

/-- The configuration that a text of some notation describes. -/
def parse (format : Format) (text : String) (readers : Readers := .standard) :
    Except ConfigFault Config :=
  match readers.decode format text with
  | .ok config => .ok config
  | .error fault => .error (.invalid format fault)

/-- The configuration in a file. -/
def load (machine : Machine) (path : Path) (readers : Readers := .standard) :
    Except ConfigFault Config :=
  match machine.files.readText machine.directory path with
  | .error cause => .error (.notRead path cause)
  | .ok text =>
    match path.extension?.bind Format.ofExtension? with
    | some format => parse format text readers
    | none => .error (.unsupported path)

end Config

end ReleaseVersion
