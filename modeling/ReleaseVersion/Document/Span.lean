/-!
# Spans

Where a part of a document stands: the number of characters before its start and before its end.
Lines and columns are counted from the characters before a place, in whatever unit a notation
counts its columns.
-/

namespace ReleaseVersion.Document

/-- A part of a document, by the number of characters before its two ends. -/
structure Span where
  start : Nat
  stop : Nat
deriving DecidableEq, Repr

/-- How far a line has come, and how many lines came before it. -/
structure Place where
  line : Nat
  column : Nat
deriving DecidableEq, Repr

/-- The place after one more character, whose size in columns is `size`. -/
def Place.next (size : Char → Nat) (place : Place) (c : Char) : Place :=
  if c = '\n' then ⟨place.line + 1, 0⟩ else ⟨place.line, place.column + size c⟩

/-- The place after some characters: full lines before it, and columns on its own line. -/
def Place.after (size : Char → Nat) (before : List Char) : Place :=
  before.foldl (Place.next size) ⟨0, 0⟩

end ReleaseVersion.Document
