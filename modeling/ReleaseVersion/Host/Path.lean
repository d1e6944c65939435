import ReleaseVersion.Text.Cut
import ReleaseVersion.Text.Quoted

/-!
# Paths

Paths are texts whose names are divided by slashes.  The functions here look at the text only: no
file is consulted, and `..` is never resolved.  An empty name and the name `.` stand for staying
where one is, so they do not count as steps.
-/

namespace ReleaseVersion.Host

open Text

/-- A path, absolute when it starts with a slash. -/
abbrev Path :=
  List Char

/-- One name of a path, without slashes. -/
abbrev Name :=
  List Char

namespace Path

/-- A path between quotes, as messages show it. -/
def shown (path : Path) : String :=
  quoted (String.ofList path)

/-- Whether the path starts at the root. -/
def isAbsolute : Path → Bool
  | '/' :: _ => true
  | _ => false

/-- Whether a name leads somewhere else than where one is. -/
def isStep (name : Name) : Bool :=
  name ≠ [] && name ≠ ['.']

/-- The names between slashes, empty ones included. -/
def names (path : Path) : List Name :=
  pieces '/' path

/-- The names that lead somewhere. -/
def steps (path : Path) : List Name :=
  path.names.filter isStep

/-- `rest` as seen from `base`: itself when it is absolute or the base is empty. -/
def join (base rest : Path) : Path :=
  if rest.isAbsolute || base.isEmpty then rest
  else if base.getLast? = some '/' then base ++ rest
  else base ++ '/' :: rest

/-- Where an absolute path starts: exactly two slashes in front are kept apart from one. -/
def root : Path → Path
  | '/' :: '/' :: '/' :: _ => ['/']
  | '/' :: '/' :: _ => ['/', '/']
  | _ => ['/']

/-- The absolute form of a path that is read in `directory`.  Names that lead nowhere are dropped,
and a slash at the end is kept. -/
def absolute (directory path : Path) : Path :=
  let start := if path.isAbsolute then path.root else directory
  let full := path.steps.foldl join start
  if path.getLast? = some '/' then join full [] else full

/-- Names without those at the end that lead nowhere; the first name always stays. -/
def dropIdle : List Name → List Name
  | [] => []
  | first :: rest =>
    first :: (rest.reverse.dropWhile fun name => !isStep name).reverse

/-- Names between slashes again; the single empty name is the root. -/
def ofNames : List Name → Path
  | [[]] => ['/']
  | all => ['/'].intercalate all

/-- The last name of a path, unless it leads to a place that has no name of its own in it. -/
def name? (path : Path) : Option Name :=
  match (dropIdle path.names).getLast? with
  | none => none
  | some name => if isStep name && name ≠ ['.', '.'] then some name else none

/-- The path without its last name: nothing for the root and for the empty path. -/
def parent? (path : Path) : Option Path :=
  match dropIdle path.names with
  | [] => none
  | [only] => if only = [] then none else some []
  | several => some (ofNames (dropIdle several.dropLast))

/-- What follows the last dot of a name, when something comes before that dot. -/
def extension? (path : Path) : Option (List Char) :=
  match path.name? with
  | none => none
  | some name =>
    match cut? '.' name.reverse with
    | some (extension, _ :: _) => some extension.reverse
    | _ => none

/-- A path that is absolute stays what it is when it is joined. -/
theorem join_of_isAbsolute {base rest : Path} (absolute : rest.isAbsolute = true) :
    join base rest = rest := by
  simp [join, absolute]

end Path

end ReleaseVersion.Host
