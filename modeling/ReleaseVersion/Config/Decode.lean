import ReleaseVersion.Config.Basic
import ReleaseVersion.Document.Node

/-!
# Configurations from document trees

The same decoder serves every notation.  It goes through the entries of a table in the order in
which they stand and stops at the first that does not fit; entries with other names are passed
over.  What the notations disagree about is a record of customs, and where a refusal stands is
told by marks, so that each notation can word it in its own way.
-/

namespace ReleaseVersion.Config

open Document

variable {Mark : Type}

/-! ## Refusals -/

/-- What is wrong with a node. -/
inductive Problem where
  /-- It is one kind of thing where another is wanted. -/
  | wrongKind (found wanted : String)
  /-- Its text is no version. -/
  | fault (fault : Fault)
  /-- Its key has been there before. -/
  | repeated (key : String)
  /-- It is one item too many in a row. -/
  | surplus
deriving DecidableEq, Repr

/-- A problem and where it stands. -/
structure Refusal (Mark : Type) where
  problem : Problem
  /-- The labels of the keys that lead to the node. -/
  path : List String
  /-- The mark of the node or, for a problem of a key, of that key. -/
  mark : Mark
  /-- The mark of the table or row around the node, which is the node itself at the root. -/
  owner : Mark
deriving Repr

/-- The wording of a problem. -/
def Problem.message : Problem → String
  | .wrongKind found wanted => "invalid type: " ++ found ++ ", expected " ++ wanted
  | .fault cause => cause.message
  | .repeated key => "duplicate field " ++ "`" ++ key ++ "`"
  | .surplus => "trailing characters"

/-- What the notations disagree about. -/
structure Customs where
  /-- Whether a row may stand for a table, its items taken in the order of the fields. -/
  rowsAreTables : Bool
  /-- Whether such a row may not have more items than there are fields. -/
  surplusRefused : Bool
  /-- Whether a field may not be given twice. -/
  repeatsRefused : Bool

/-! ## Fields -/

/-- The field of a configuration that chooses the client. -/
def clientKey : String :=
  "juju"

/-- The fields of a choice of client, in order. -/
inductive ChoiceField where
  | executable
  | version
  | agentVersion
deriving DecidableEq, Repr

/-- All fields in order. -/
def ChoiceField.all : List ChoiceField :=
  [executable, version, agentVersion]

/-- The key of a field. -/
def ChoiceField.key : ChoiceField → String
  | executable => "executable"
  | version => "version"
  | agentVersion => "agent_version"

/-- The field of a key. -/
def ChoiceField.ofKey? (key : String) : Option ChoiceField :=
  all.find? fun field => field.key = key

/-- A text. -/
def decodeText (path : List String) (owner : Mark) (node : Node Mark) :
    Except (Refusal Mark) String :=
  match node.text? with
  | some text => .ok text
  | none => .error ⟨.wrongKind node.kind "a string", path, node.mark, owner⟩

/-- Nothing, or what a reader makes of a text. -/
def decodeOptional {α : Type} (reader : String → Except Fault α) (path : List String)
    (owner : Mark) (node : Node Mark) : Except (Refusal Mark) (Option α) :=
  match node.presence with
  | .absent => .ok none
  | .contradictory => .error ⟨.wrongKind node.kind "null", path, node.mark, owner⟩
  | .given =>
    match decodeText path owner node with
    | .error refusal => .error refusal
    | .ok text =>
      match reader text with
      | .ok value => .ok (some value)
      | .error fault => .error ⟨.fault fault, path, node.mark, owner⟩

/-- The choice with one field taken from a node. -/
def decodeField (choice : ClientChoice) (field : ChoiceField) (path : List String) (owner : Mark)
    (node : Node Mark) : Except (Refusal Mark) ClientChoice :=
  match field with
  | .executable =>
    (decodeText path owner node).map fun text => { choice with executable := text }
  | .version =>
    (decodeOptional Number.parse path owner node).map fun number =>
      { choice with version := number }
  | .agentVersion =>
    (decodeOptional Version.parse path owner node).map fun version =>
      { choice with agentVersion := version }

/-! ## Tables and rows -/

/-- The name of a key, which has to be a text. -/
def keyName (path : List String) (owner : Mark) (key : Key Mark) :
    Except (Refusal Mark) String :=
  match key.name? with
  | some name => .ok name
  | none => .error ⟨.wrongKind key.kind "field identifier", path, key.mark, owner⟩

/-- Goes through the entries of a choice; `seen` are the fields given so far. -/
def decodeEntries (customs : Customs) (path : List String) (owner : Mark)
    (seen : List ChoiceField) (choice : ClientChoice) :
    List (Key Mark × Node Mark) → Except (Refusal Mark) ClientChoice
  | [] => .ok choice
  | (key, node) :: rest =>
    match keyName path owner key with
    | .error refusal => .error refusal
    | .ok name =>
      match ChoiceField.ofKey? name with
      | none => decodeEntries customs path owner seen choice rest
      | some field =>
        if customs.repeatsRefused && seen.contains field then
          .error ⟨.repeated name, path, key.mark, owner⟩
        else
          match decodeField choice field (path ++ [key.label]) owner node with
          | .error refusal => .error refusal
          | .ok changed => decodeEntries customs path owner (field :: seen) changed rest

/-- Goes through the items of a row, each for the next of `fields`. -/
def decodeItems (customs : Customs) (path : List String) (owner : Mark) (choice : ClientChoice) :
    List ChoiceField → List (Node Mark) → Except (Refusal Mark) ClientChoice
  | _, [] => .ok choice
  | [], node :: _ =>
    if customs.surplusRefused then .error ⟨.surplus, path, node.mark, owner⟩ else .ok choice
  | field :: fields, node :: rest =>
    match decodeField choice field path owner node with
    | .error refusal => .error refusal
    | .ok changed => decodeItems customs path owner changed fields rest

/-- The choice that a node makes. -/
def decodeChoice (customs : Customs) (path : List String) (owner : Mark) (node : Node Mark) :
    Except (Refusal Mark) ClientChoice :=
  let wrong : Except (Refusal Mark) ClientChoice :=
    .error ⟨.wrongKind node.kind "struct JujuConfig", path, node.mark, owner⟩
  match node with
  | .scalar _ content => if content.isBlank then .ok ClientChoice.default else wrong
  | .row mark items =>
    if customs.rowsAreTables then
      decodeItems customs path mark ClientChoice.default ChoiceField.all items
    else wrong
  | .table mark entries => decodeEntries customs path mark [] ClientChoice.default entries

/-- Goes through the entries of a configuration. -/
def decodeTop (customs : Customs) (owner : Mark) (seen : Bool) (config : Config) :
    List (Key Mark × Node Mark) → Except (Refusal Mark) Config
  | [] => .ok config
  | (key, node) :: rest =>
    match keyName [] owner key with
    | .error refusal => .error refusal
    | .ok name =>
      if name ≠ clientKey then decodeTop customs owner seen config rest
      else if customs.repeatsRefused && seen then .error ⟨.repeated name, [], key.mark, owner⟩
      else
        match decodeChoice customs [key.label] owner node with
        | .error refusal => .error refusal
        | .ok choice => decodeTop customs owner true ⟨choice⟩ rest

/-- The configuration that a document tree describes. -/
def decode (customs : Customs) (root : Node Mark) : Except (Refusal Mark) Config :=
  let wrong : Except (Refusal Mark) Config :=
    .error ⟨.wrongKind root.kind "struct Config", [], root.mark, root.mark⟩
  match root with
  | .scalar _ content => if content.isBlank then .ok Config.default else wrong
  | .row mark items =>
    if customs.rowsAreTables then
      match items with
      | [] => .ok Config.default
      | first :: others =>
        match decodeChoice customs [] mark first, others with
        | .error refusal, _ => .error refusal
        | .ok choice, [] => .ok ⟨choice⟩
        | .ok choice, second :: _ =>
          if customs.surplusRefused then .error ⟨.surplus, [], second.mark, mark⟩
          else .ok ⟨choice⟩
    else wrong
  | .table mark entries => decodeTop customs mark false Config.default entries

end ReleaseVersion.Config
