import ReleaseVersion.Document.Yaml.Tag

/-!
# Tokens of YAML documents

The words of the notation, each with the place where it starts.  Collections without brackets have
no characters of their own that open and close them; their tokens stand where the indentation
grows and shrinks.
-/

namespace ReleaseVersion.Document.Yaml

/-- A token. -/
inductive Token where
  | directive (directive : Directive)
  | documentStart
  | documentEnd
  /-- The start of a row without brackets. -/
  | blockRow
  /-- The start of a table without brackets. -/
  | blockTable
  /-- The end of a collection without brackets. -/
  | blockEnd
  | openRow
  | closeRow
  | openTable
  | closeTable
  /-- A comma between the items of a collection in brackets. -/
  | comma
  /-- The dash before an item. -/
  | dash
  /-- What follows is a key. -/
  | key
  /-- What follows is the value of a key. -/
  | value
  | anchor (name : String)
  | aliasTo (name : String)
  | tag (tag : Tag)
  | scalar (isPlain : Bool) (text : String)
deriving DecidableEq, Repr

/-- A token and where it starts. -/
structure Lexeme where
  mark : Mark
  token : Token
deriving DecidableEq, Repr

end ReleaseVersion.Document.Yaml
