import ReleaseVersion.Host.Path
import ReleaseVersion.Host.Process
import ReleaseVersion.Host.SystemError

/-!
# File trees

Files, directories and symbolic links at absolute places.  A path is followed name by name from
the directory in which it is read; a link on the way is replaced by the names of its target.  The
reader is privileged: only execution asks for a permission, namely one executable bit.
-/

namespace ReleaseVersion.Host

/-- What happens when a file is started. -/
inductive Start where
  /-- The system does not know the format. -/
  | unknownFormat
  /-- The interpreter that the file names is not there. -/
  | noInterpreter
  /-- The system refuses for another cause, as it does while the file is being written. -/
  | refused (cause : SystemError)
  /-- The program runs. -/
  | program (behaviour : Program)

/-- What comes of starting a file that may be run. -/
def Start.result (start : Start) (invocation : Invocation) : Except SystemError Completion :=
  match start with
  | unknownFormat => .error .badFormat
  | noInterpreter => .error .noEntry
  | refused cause => .error cause
  | program behaviour => .ok (behaviour invocation)

/-- A regular file. -/
structure File where
  content : ByteArray
  /-- The permission bits. -/
  mode : Nat
  start : Start

/-- Whether the file has at least one executable bit. -/
def File.isRunnable (file : File) : Bool :=
  file.mode.testBit 0 || file.mode.testBit 3 || file.mode.testBit 6

/-- An entry of a directory. -/
inductive Entry where
  | directory
  | file (file : File)
  | link (target : Path)

/-- An absolute place: the names from the root down. -/
abbrev Place :=
  List Name

/-- The places on the way to a place, the root and the place itself left out. -/
def Place.above : Place → List Place
  | [] => []
  | [_] => []
  | name :: rest => [name] :: (Place.above rest).map (name :: ·)

/-- The entries of a tree by place.  The root is always a directory. -/
structure FileTree where
  entries : List (Place × Entry)

namespace FileTree

/-- The tree that holds nothing. -/
def empty : FileTree :=
  ⟨[]⟩

/-- The entry at a place, links not followed. -/
def entry? (tree : FileTree) (place : Place) : Option Entry :=
  if place = [] then some .directory else tree.entries.lookup place

/-- Whether a directory is at the place itself. -/
def isDirectoryAt (tree : FileTree) (place : Place) : Bool :=
  match tree.entry? place with
  | some .directory => true
  | _ => false

/-- The tree with this entry at a place, and directories above it where nothing was. -/
def put (tree : FileTree) (place : Place) (entry : Entry) : FileTree :=
  let missing := place.above.filter fun higher => (tree.entry? higher).isNone
  ⟨(place, entry) :: missing.map (fun higher => (higher, .directory)) ++ tree.entries⟩

/-! ## Following paths -/

/-- Where a path leads: to an entry, or to a place in a directory where nothing is. -/
inductive Target where
  | entry (entry : Entry)
  | vacant (place : Place)

/-- As many links are followed for one path, and no more. -/
def linkLimit : Nat :=
  40

/-- No name may have more bytes than this. -/
def nameLimit : Nat :=
  255

/-- The entry at the end of a path. -/
def arrive (tree : FileTree) (here : Place) : Except SystemError Target :=
  match tree.entry? here with
  | some entry => .ok (.entry entry)
  | none => .error .noEntry

/-- Follows names from a place.  A link in last position is followed only when `through` is set,
and each link uses up one of `links`. -/
def follow (tree : FileTree) (through : Bool) (links : Nat) (here : Place) :
    List Name → Except SystemError Target
  | [] => tree.arrive here
  | name :: rest =>
    if !tree.isDirectoryAt here then .error .notDirectory
    else if !Path.isStep name then follow tree through links here rest
    else if name = ['.', '.'] then follow tree through links here.dropLast rest
    else if nameLimit < (String.ofList name).utf8ByteSize then .error .nameTooLong
    else
      match tree.entry? (here ++ [name]) with
      | none => if rest = [] then .ok (.vacant (here ++ [name])) else .error .noEntry
      | some (.link target) =>
        if rest = [] ∧ !through then .ok (.entry (.link target))
        else
          match links with
          | 0 => .error .linkLoop
          | fewer + 1 =>
            follow tree through fewer (if target.isAbsolute then [] else here)
              (target.names ++ rest)
      | some _ => follow tree through links (here ++ [name]) rest
termination_by names => (links, names.length)

/-- Follows a path that is read in `directory`. -/
def target (tree : FileTree) (through : Bool) (directory path : Path) :
    Except SystemError Target :=
  if path = [] then .error .noEntry
  else if '\x00' ∈ path then .error .zeroInFileName
  else
    tree.follow through linkLimit (if path.isAbsolute then [] else directory.steps) path.names

/-- The entry that a path leads to, links followed to the end. -/
def find (tree : FileTree) (directory path : Path) : Except SystemError Entry :=
  match tree.target true directory path with
  | .error error => .error error
  | .ok (.entry entry) => .ok entry
  | .ok (.vacant _) => .error .noEntry

/-- The regular file that a path leads to. -/
def file? (tree : FileTree) (directory path : Path) : Option File :=
  match tree.find directory path with
  | .ok (.file file) => some file
  | _ => none

/-- Whether a path leads to a directory. -/
def isDirectory (tree : FileTree) (directory path : Path) : Bool :=
  match tree.find directory path with
  | .ok .directory => true
  | _ => false

/-- Whether a path leads to a regular file with an executable bit. -/
def isRunnable (tree : FileTree) (directory path : Path) : Bool :=
  match tree.file? directory path with
  | some file => file.isRunnable
  | none => false

/-! ## Reading and writing -/

/-- The content of the file that a path leads to. -/
def read (tree : FileTree) (directory path : Path) : Except SystemError ByteArray :=
  match tree.find directory path with
  | .error error => .error error
  | .ok (.file file) => .ok file.content
  | .ok _ => .error .isDirectory

/-- The content of a file as text. -/
def readText (tree : FileTree) (directory path : Path) : Except SystemError String :=
  match tree.read directory path with
  | .error error => .error error
  | .ok bytes =>
    match String.fromUTF8? bytes with
    | some text => .ok text
    | none => .error .notText

/-- Makes one directory, in a directory that is there. -/
def makeDirectory (tree : FileTree) (directory path : Path) : Except SystemError FileTree :=
  match tree.target false directory (Path.ofNames (Path.dropIdle path.names)) with
  | .error error => .error error
  | .ok (.entry _) => .error .exists
  | .ok (.vacant place) => .ok (tree.put place .directory)

/-- The paths of the names up to each one that leads somewhere, after those in `before`. -/
def levelsAfter (before : List Name) : List Name → List Path
  | [] => []
  | name :: rest =>
    let here := before ++ [name]
    let below := levelsAfter here rest
    if Path.isStep name ∨ (before = [] ∧ name ≠ []) then Path.ofNames here :: below else below

/-- A path and the paths above it, from the lowest up. -/
def levels (path : Path) : List Path :=
  (levelsAfter [] (Path.dropIdle path.names)).reverse

/-- Makes the directories from the lowest that can be made on, given from the lowest up. -/
def makeLevels (tree : FileTree) (directory : Path) : List Path → Except SystemError FileTree
  | [] => .ok tree
  | path :: above =>
    match tree.makeDirectory directory path with
    | .ok made => .ok made
    | .error error =>
      if error = .noEntry then do
        let tree ← makeLevels tree directory above
        match tree.makeDirectory directory path with
        | .ok made => .ok made
        | .error error => if tree.isDirectory directory path then .ok tree else .error error
      else if tree.isDirectory directory path then .ok tree
      else .error error

/-- Makes a directory and those above it; one that is there already is left alone. -/
def makeDirectories (tree : FileTree) (directory path : Path) : Except SystemError FileTree :=
  tree.makeLevels directory (levels path)

/-- Opens a file for adding to it, and makes an empty one where nothing is. -/
def openForAppend (tree : FileTree) (directory path : Path) : Except SystemError FileTree :=
  match tree.target true directory path with
  | .error error => .error error
  | .ok (.entry (.file _)) => .ok tree
  | .ok (.entry _) => .error .isDirectory
  | .ok (.vacant place) =>
    .ok (tree.put place (.file ⟨ByteArray.empty, 0o644, .unknownFormat⟩))

end FileTree

end ReleaseVersion.Host
