/-!
# Faults of documents

A document can fail in two ways.  It may not be a document of its notation at all, or it may be one
that does not describe what is wanted; only the second failure is worded in detail.
-/

namespace ReleaseVersion.Document

/-- Why nothing could be taken from a document. -/
inductive Fault where
  /-- The text is not a document of the notation. -/
  | malformed
  /-- The document does not describe what is wanted. -/
  | refused (message : String)
deriving DecidableEq, Repr

/-- The wording of a fault. -/
def Fault.message : Fault → String
  | malformed => "malformed document"
  | refused message => message

end ReleaseVersion.Document
