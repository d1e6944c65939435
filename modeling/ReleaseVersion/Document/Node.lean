import ReleaseVersion.Document.Scalar

/-!
# Document trees

A document of any notation, once read, is a tree of scalars, rows and tables.  Every node carries a
mark that says where it stands; what a mark is depends on the notation.
-/

namespace ReleaseVersion.Document

/-- The key of an entry. -/
structure Key (Mark : Type) where
  mark : Mark
  /-- The text of the key, when it is one. -/
  name? : Option String
  /-- What a path of keys shows for it. -/
  label : String
  /-- What messages call it. -/
  kind : String
deriving DecidableEq, Repr

/-- A node of a document tree. -/
inductive Node (Mark : Type) where
  | scalar (mark : Mark) (content : Scalar)
  | row (mark : Mark) (items : List (Node Mark))
  | table (mark : Mark) (entries : List (Key Mark × Node Mark))

namespace Node

variable {Mark : Type}

/-- Where a node stands. -/
def mark : Node Mark → Mark
  | scalar mark _ => mark
  | row mark _ => mark
  | table mark _ => mark

/-- What messages call a node. -/
def kind : Node Mark → String
  | scalar _ content => content.kind
  | row _ _ => "sequence"
  | table _ _ => "map"

/-- The text that a node gives where a text is wanted. -/
def text? : Node Mark → Option String
  | scalar _ content => content.text?
  | _ => none

/-- Whether a node says that something is there. -/
def presence : Node Mark → Presence
  | scalar _ content => content.presence
  | _ => .given

end Node

end ReleaseVersion.Document
