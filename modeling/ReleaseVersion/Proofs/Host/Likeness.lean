import ReleaseVersion.Proofs.Host.Following
import Mathlib.Data.Option.Defs

/-!
# Trees of one shape

Two trees are of one shape when the same places hold directories, links to the same targets, and
files.  Following a path never looks into a file, so in both trees it comes to the same place or
fails for the same reason, and whatever else is done with the path depends only on what the two
files at that place have in common.
-/

namespace ReleaseVersion.Host

/-- Two entries of one kind: directories, links to one target, or files that are alike. -/
inductive Entry.Alike (alike : File → File → Prop) : Entry → Entry → Prop
  | directory : Alike alike .directory .directory
  | link {target : Path} : Alike alike (.link target) (.link target)
  | file {one other : File} : alike one other → Alike alike (.file one) (.file other)

namespace FileTree

/-- At every place both trees hold nothing, or entries of one kind. -/
def Resembles (alike : Place → File → File → Prop) (first second : FileTree) : Prop :=
  ∀ place, Option.Rel (Entry.Alike (alike place)) (first.entry? place) (second.entry? place)

/-- Followed from a place, with as many links as allowed, the names end at the place `last`. -/
inductive Reaches (tree : FileTree) : Nat → Place → List Name → Place → Prop
  /-- No name is left. -/
  | arrive {links : Nat} {here : Place} : Reaches tree links here [] here
  /-- An empty name and the name `.` only ask for a directory. -/
  | idle {links : Nat} {here last : Place} {name : Name} {rest : List Name} :
      tree.isDirectoryAt here = true → Path.isStep name = false →
      Reaches tree links here rest last → Reaches tree links here (name :: rest) last
  /-- The name `..` leads one place up. -/
  | up {links : Nat} {here last : Place} {rest : List Name} :
      tree.isDirectoryAt here = true → Reaches tree links here.dropLast rest last →
      Reaches tree links here (['.', '.'] :: rest) last
  /-- A link is replaced by its target. -/
  | link {links : Nat} {here last : Place} {name : Name} {rest : List Name} {target : Path} :
      tree.isDirectoryAt here = true → IsEntryName name →
      tree.entry? (here ++ [name]) = some (.link target) →
      Reaches tree links (if target.isAbsolute then [] else here) (target.names ++ rest) last →
      Reaches tree (links + 1) here (name :: rest) last
  /-- Anything else is entered. -/
  | down {links : Nat} {here last : Place} {name : Name} {rest : List Name} {found : Entry} :
      tree.isDirectoryAt here = true → IsEntryName name →
      tree.entry? (here ++ [name]) = some found → (∀ target, found ≠ .link target) →
      Reaches tree links (here ++ [name]) rest last → Reaches tree links here (name :: rest) last

/-- The path, read in a directory, ends at the place, links followed to the end. -/
structure PathReaches (tree : FileTree) (directory path : Path) (place : Place) : Prop where
  given : path ≠ []
  zeroFree : '\x00' ∉ path
  reaches :
    tree.Reaches linkLimit (if path.isAbsolute then [] else directory.steps) path.names place

/-- What following names comes to in two trees: the same fault, the same vacant place, or one place
and what either tree holds there. -/
inductive Concurs (first second : FileTree) (links : Nat) (here : Place) (names : List Name) :
    Except SystemError Target → Except SystemError Target → Prop
  | error {cause : SystemError} :
      Concurs first second links here names (.error cause) (.error cause)
  | vacant {place : Place} :
      Concurs first second links here names (.ok (.vacant place)) (.ok (.vacant place))
  | entry {place : Place} {one other : Entry} :
      first.Reaches links here names place →
      first.entry? place = some one → second.entry? place = some other →
      Concurs first second links here names (.ok (.entry one)) (.ok (.entry other))

section

variable {alike : Place → File → File → Prop} {first second : FileTree} {links : Nat}
  {here : Place} {names : List Name}

/-- Where the way from here on leads over other names, what comes of these comes of all. -/
theorem Concurs.imp {fewer : Nat} {next : Place} {others : List Name}
    {one other : Except SystemError Target}
    (onward : ∀ place, first.Reaches fewer next others place →
      first.Reaches links here names place)
    (concurs : Concurs first second fewer next others one other) :
    Concurs first second links here names one other := by
  cases concurs with
  | error => exact .error
  | vacant => exact .vacant
  | entry reaches held heldToo => exact .entry (onward _ reaches) held heldToo

theorem Resembles.isDirectoryAt_eq (resembles : Resembles alike first second) (here : Place) :
    first.isDirectoryAt here = second.isDirectoryAt here := by
  have same := resembles here
  unfold isDirectoryAt
  generalize first.entry? here = one at same ⊢
  generalize second.entry? here = other at same ⊢
  cases same with
  | none => rfl
  | some alike => cases alike <;> rfl

theorem Resembles.entry?_eq_none (resembles : Resembles alike first second) {place : Place}
    (vacant : first.entry? place = none) : second.entry? place = none := by
  have same := resembles place
  rw [vacant] at same
  generalize second.entry? place = other at same ⊢
  cases same
  rfl

theorem Resembles.exists_entry?_eq_some (resembles : Resembles alike first second)
    {place : Place} {one : Entry} (held : first.entry? place = some one) :
    ∃ other, second.entry? place = some other ∧ Entry.Alike (alike place) one other := by
  have same := resembles place
  rw [held] at same
  generalize second.entry? place = held at same ⊢
  cases same with
  | some alike => exact ⟨_, rfl, alike⟩

/-- The walk meets the same directories and links in both trees. -/
theorem Resembles.follow_concurs (resembles : Resembles alike first second) (links : Nat)
    (here : Place) (names : List Name) :
    Concurs first second links here names (first.follow true links here names)
      (second.follow true links here names) := by
  have alsoOpen {here : Place} (isOpen : first.isDirectoryAt here = true) :
      second.isDirectoryAt here = true := resembles.isDirectoryAt_eq here ▸ isOpen
  induction links, here, names using walk_induction first with
  | arrive links here =>
      rw [follow, follow, FileTree.arrive, FileTree.arrive]
      cases held : first.entry? here with
      | none =>
          rw [resembles.entry?_eq_none held]
          exact .error
      | some one =>
          obtain ⟨other, heldToo, -⟩ := resembles.exists_entry?_eq_some held
          rw [heldToo]
          exact .entry .arrive held heldToo
  | blocked links here name rest closed =>
      have closedToo := resembles.isDirectoryAt_eq here ▸ closed
      rw [follow_cons_of_blocked closed, follow_cons_of_blocked closedToo]
      exact .error
  | idle links here name rest isOpen idle inductionHypothesis =>
      rw [follow_cons_of_idle isOpen idle, follow_cons_of_idle (alsoOpen isOpen) idle]
      exact inductionHypothesis.imp fun _ => .idle isOpen idle
  | parent links here rest isOpen inductionHypothesis =>
      rw [follow_cons_parent isOpen, follow_cons_parent (alsoOpen isOpen)]
      exact inductionHypothesis.imp fun _ => .up isOpen
  | long links here name rest isOpen step notParent long =>
      rw [follow_cons_of_long isOpen step notParent long,
        follow_cons_of_long (alsoOpen isOpen) step notParent long]
      exact .error
  | vacant links here name rest isOpen named vacant =>
      rw [follow_cons_of_vacant isOpen named vacant,
        follow_cons_of_vacant (alsoOpen isOpen) named (resembles.entry?_eq_none vacant)]
      by_cases last : rest = []
      · rw [if_pos last]
        exact .vacant
      · rw [if_neg last]
        exact .error
  | exhausted here name rest target isOpen named linked =>
      obtain ⟨other, linkedToo, alike⟩ := resembles.exists_entry?_eq_some linked
      cases alike
      rw [follow_cons_of_exhausted isOpen named linked,
        follow_cons_of_exhausted (alsoOpen isOpen) named linkedToo]
      exact .error
  | link fewer here name rest target isOpen named linked inductionHypothesis =>
      obtain ⟨other, linkedToo, alike⟩ := resembles.exists_entry?_eq_some linked
      cases alike
      rw [follow_cons_of_link isOpen named linked,
        follow_cons_of_link (alsoOpen isOpen) named linkedToo]
      exact inductionHypothesis.imp fun _ => .link isOpen named linked
  | entered links here name rest found isOpen named there notLink inductionHypothesis =>
      obtain ⟨other, thereToo, alike⟩ := resembles.exists_entry?_eq_some there
      have notLinkToo : ∀ target, other ≠ .link target := by
        rintro target rfl
        cases alike
        exact notLink target rfl
      rw [follow_cons_of_entered isOpen named there notLink,
        follow_cons_of_entered (alsoOpen isOpen) named thereToo notLinkToo]
      exact inductionHypothesis.imp fun _ => .down isOpen named there notLink

/-- A path leads nowhere in both trees for the same reason, or in both to one place. -/
theorem Resembles.find_eq_or (resembles : Resembles alike first second) (directory path : Path) :
    (∃ cause, first.find directory path = .error cause ∧
        second.find directory path = .error cause) ∨
      ∃ place one other, first.PathReaches directory path place ∧
        Entry.Alike (alike place) one other ∧
        first.find directory path = .ok one ∧ second.find directory path = .ok other := by
  unfold find target
  by_cases empty : path = []
  · rw [if_pos empty, if_pos empty]
    exact .inl ⟨_, rfl, rfl⟩
  · by_cases zero : '\x00' ∈ path
    · rw [if_neg empty, if_neg empty, if_pos zero, if_pos zero]
      exact .inl ⟨_, rfl, rfl⟩
    · rw [if_neg empty, if_neg empty, if_neg zero, if_neg zero]
      have concurs := resembles.follow_concurs linkLimit
        (if path.isAbsolute then [] else directory.steps) path.names
      generalize first.follow _ _ _ _ = one at concurs ⊢
      generalize second.follow _ _ _ _ = other at concurs ⊢
      cases concurs with
      | error => exact .inl ⟨_, rfl, rfl⟩
      | vacant => exact .inl ⟨_, rfl, rfl⟩
      | entry reaches held heldToo =>
          obtain ⟨alikeOther, again, alike⟩ := resembles.exists_entry?_eq_some held
          cases heldToo.symm.trans again
          exact .inr ⟨_, _, _, ⟨empty, zero, reaches⟩, alike, rfl, rfl⟩

end

end FileTree

namespace Machine

variable {alike : Place → File → File → Prop} {first second : Machine}

/-- A start is the same on both machines when the file at the end of the path is. -/
theorem start_eq (sameDirectory : first.directory = second.directory)
    (resembles : FileTree.Resembles alike first.files second.files) {path : Path}
    (sameFile : ∀ place, first.files.PathReaches first.directory path place →
      ∀ one other, alike place one other → one = other) (invocation : Invocation) :
    first.start path invocation = second.start path invocation := by
  unfold start
  rw [← sameDirectory]
  rcases resembles.find_eq_or first.directory path with
    ⟨cause, found, foundToo⟩ | ⟨place, one, other, reaches, alike, found, foundToo⟩
  · rw [found, foundToo]
  · rw [found, foundToo]
    cases alike with
    | directory => rfl
    | link => rfl
    | file alike => rw [sameFile place reaches _ _ alike]

/-! ## Machines that are alike -/

/-- Two machines that differ at most in the bytes of the file at one place, and so in what the file
does when it is run. -/
structure DifferAt (place : Place) (first second : Machine) : Prop where
  directory : first.directory = second.directory
  environment : first.environment = second.environment
  files : FileTree.Resembles
    (fun other one two => one.mode = two.mode ∧ (other ≠ place → one = two))
    first.files second.files

theorem DifferAt.start_eq {place : Place} (differ : DifferAt place first second) {path : Path}
    (elsewhere : ¬first.files.PathReaches first.directory path place) (invocation : Invocation) :
    first.start path invocation = second.start path invocation := by
  apply Machine.start_eq differ.directory differ.files
  intro other reaches one two alike
  apply alike.2
  rintro rfl
  exact elsewhere reaches

end Machine

end ReleaseVersion.Host
