import Mathlib.Data.List.Basic
import ReleaseVersion.Host.Path
import ReleaseVersion.Proofs.Text.Cut

/-!
# The names of an absolute form

The absolute form of a path is the path itself with the directory in front and the idle names left
out.  It is built as text, one name after the other; here it is taken apart again into the names
that following it will meet.
-/

namespace ReleaseVersion.Host.Path

open Text

theorem isAbsolute_eq_true_iff {path : Path} :
    path.isAbsolute = true ↔ ∃ rest, path = '/' :: rest := by
  unfold isAbsolute
  split
  · simp
  · rename_i relative
    simpa using relative

theorem isAbsolute_of_not_mem {path : Path} (free : '/' ∉ path) : path.isAbsolute = false := by
  rw [Bool.eq_false_iff]
  intro absolute
  obtain ⟨rest, rfl⟩ := isAbsolute_eq_true_iff.mp absolute
  exact free List.mem_cons_self

theorem names_append_slash (front back : Path) :
    names (front ++ '/' :: back) = names front ++ names back :=
  pieces_append_cons front back

theorem names_of_not_mem {path : Path} (free : '/' ∉ path) : names path = [path] :=
  pieces_of_not_mem free

theorem names_slash_of_not_mem {name : Name} (free : '/' ∉ name) :
    names ('/' :: name) = [[], name] := by
  have divided := names_append_slash [] name
  rw [names_of_not_mem free] at divided
  exact divided

/-- The steps of a path are names of it that lead somewhere. -/
theorem isStep_and_not_mem_of_mem_steps {path : Path} {name : Name} (member : name ∈ path.steps) :
    isStep name = true ∧ '/' ∉ name := by
  obtain ⟨named, step⟩ := List.mem_filter.mp member
  exact ⟨step, not_mem_of_mem_pieces named⟩

theorem mem_of_mem_step {path : Path} {name : Name} {c : Char} (member : name ∈ path.steps)
    (inside : c ∈ name) : c ∈ path :=
  (mem_and_ne_of_mem_piece (List.mem_filter.mp member).1 inside).1

/-- The names of a path that is made of names, from the root on. -/
theorem names_slash_intercalate {all : List Name} (given : all ≠ [])
    (free : ∀ name ∈ all, '/' ∉ name) : names ('/' :: ['/'].intercalate all) = [] :: all := by
  have divided := names_append_slash [] (['/'].intercalate all)
  exact divided.trans (congrArg _ (pieces_eq_iff.mpr ⟨given, free, rfl⟩))

/-! ## Joining -/

/-- The second list is the first, perhaps with an empty name behind it. -/
def Heads (lead names : List Name) : Prop :=
  names = lead ∨ names = lead ++ [[]]

theorem Heads.mem {lead names : List Name} (heads : Heads lead names) {name : Name}
    (member : name ∈ lead) : name ∈ names := by
  rcases heads with rfl | rfl
  · exact member
  · exact List.mem_append_left _ member

section

variable {base rest : Path}

/-- What is joined to an absolute path comes behind a slash, which may be there already. -/
theorem exists_join_eq (absolute : base.isAbsolute = true) (relative : rest.isAbsolute = false) :
    ∃ front, (base = front ++ ['/'] ∨ base = front) ∧ join base rest = front ++ '/' :: rest := by
  obtain ⟨tail, rfl⟩ := isAbsolute_eq_true_iff.mp absolute
  by_cases closed : ('/' :: tail).getLast? = some '/'
  · obtain ⟨front, frontEq⟩ := List.getLast?_eq_some_iff.mp closed
    exact ⟨front, .inl frontEq, by simp [join, relative, frontEq]⟩
  · exact ⟨_, .inr rfl, by simp [join, relative, closed]⟩

theorem isAbsolute_join (absolute : base.isAbsolute = true) (relative : rest.isAbsolute = false) :
    (join base rest).isAbsolute = true := by
  obtain ⟨front, frontEq, joined⟩ := exists_join_eq absolute relative
  rw [joined]
  cases front with
  | nil => rfl
  | cons c front =>
      obtain ⟨tail, baseEq⟩ := isAbsolute_eq_true_iff.mp absolute
      rcases frontEq with rfl | rfl
      · rw [(List.cons.inj baseEq).1]
        rfl
      · rw [(List.cons.inj baseEq).1]
        rfl

/-- Joining adds names behind those of the base, of which an empty one at the end may go. -/
theorem exists_names_join (absolute : base.isAbsolute = true)
    (relative : rest.isAbsolute = false) :
    ∃ lead, names (join base rest) = lead ++ names rest ∧ Heads lead (names base) := by
  obtain ⟨front, frontEq, joined⟩ := exists_join_eq absolute relative
  refine ⟨names front, by rw [joined, names_append_slash], ?_⟩
  rcases frontEq with rfl | rfl
  · exact .inr (names_append_slash front [])
  · exact .inl rfl

/-- So does joining one step after the other. -/
theorem exists_names_foldl_join {steps : List Name} (absolute : base.isAbsolute = true)
    (proper : ∀ name ∈ steps, isStep name = true ∧ '/' ∉ name) :
    (steps.foldl join base).isAbsolute = true ∧
      ∃ lead, names (steps.foldl join base) = lead ++ steps ∧ Heads lead (names base) := by
  induction steps generalizing base with
  | nil => exact ⟨absolute, names base, by simp, .inl rfl⟩
  | cons name steps inductionHypothesis =>
      obtain ⟨step, free⟩ := proper name List.mem_cons_self
      have relative := isAbsolute_of_not_mem free
      obtain ⟨lead, joined, leadEq⟩ := exists_names_join absolute relative
      rw [names_of_not_mem free] at joined
      obtain ⟨folded, later, laterEq, joinedEq⟩ :=
        inductionHypothesis (isAbsolute_join absolute relative)
          fun other member => proper other (List.mem_cons_of_mem name member)
      refine ⟨folded, lead, ?_, leadEq⟩
      rcases joinedEq with same | cropped
      · rw [List.foldl_cons, laterEq, ← same, joined, List.append_assoc, List.singleton_append]
      · -- The last name so far is a step, so no empty name is dropped here.
        have last := congrArg List.getLast? (joined.symm.trans cropped)
        simp only [List.getLast?_append, List.getLast?_singleton, Option.some_or,
          Option.some.injEq] at last
        subst last
        exact absurd step (by decide)

end

/-! ## Joining from the root -/

theorem getLast?_append_slash_ne (front : Path) {name : Name} (filled : name ≠ [])
    (free : '/' ∉ name) : (front ++ '/' :: name).getLast? ≠ some '/' := by
  rw [List.getLast?_append_cons, List.getLast?_cons_of_ne_nil filled]
  exact fun last => free (List.mem_of_getLast? last)

/-- Joined one after the other, names come with one slash before each. -/
theorem foldl_join_eq_intercalate {names : List Name} {base : Path} (given : base ≠ [])
    (unclosed : base.getLast? ≠ some '/') (proper : ∀ name ∈ names, name ≠ [] ∧ '/' ∉ name) :
    names.foldl join base = ['/'].intercalate (base :: names) := by
  induction names generalizing base with
  | nil => simp
  | cons name names inductionHypothesis =>
      obtain ⟨filled, free⟩ := proper name List.mem_cons_self
      have joined : join base name = base ++ '/' :: name := by
        simp [join, isAbsolute_of_not_mem free, given, unclosed]
      rw [List.foldl_cons, joined,
        inductionHypothesis (by simp) (getLast?_append_slash_ne base filled free)
          fun other member => proper other (List.mem_cons_of_mem name member)]
      cases names with
      | nil => simp
      | cons next names => simp

theorem foldl_join_root {names : List Name} (proper : ∀ name ∈ names, name ≠ [] ∧ '/' ∉ name) :
    names.foldl join ['/'] = '/' :: ['/'].intercalate names := by
  cases names with
  | nil => rfl
  | cons first rest =>
      obtain ⟨filled, free⟩ := proper first List.mem_cons_self
      have joined : join ['/'] first = '/' :: first := by
        simp [join, isAbsolute_of_not_mem free]
      have unclosed : ('/' :: first).getLast? ≠ some '/' :=
        getLast?_append_slash_ne [] filled free
      rw [List.foldl_cons, joined, foldl_join_eq_intercalate (List.cons_ne_nil '/' first) unclosed
        fun other member => proper other (List.mem_cons_of_mem first member)]
      cases rest with
      | nil => simp
      | cons next rest => simp

/-- Only one slash is in front of proper names. -/
theorem root_of_proper {names : List Name} (proper : ∀ name ∈ names, name ≠ [] ∧ '/' ∉ name) :
    root ('/' :: ['/'].intercalate names) = ['/'] := by
  cases names with
  | nil => rfl
  | cons first rest =>
      obtain ⟨filled, free⟩ := proper first List.mem_cons_self
      obtain ⟨c, tail, rfl⟩ := List.exists_cons_of_ne_nil filled
      have other : c ≠ '/' := fun same => free (by simp [same])
      cases rest with
      | nil => simp [root, other]
      | cons next rest => simp [root, other]

/-! ## The absolute form -/

/-- The place where the absolute form of a path starts. -/
def origin (directory path : Path) : Path :=
  if path.isAbsolute then path.root else directory

theorem isAbsolute_origin {directory : Path} (absolute : directory.isAbsolute = true)
    (path : Path) : (origin directory path).isAbsolute = true := by
  unfold origin
  by_cases rooted : path.isAbsolute = true
  · rw [if_pos rooted, root.eq_def]
    split
    · rfl
    · rfl
    · rfl
  · rw [if_neg rooted]
    exact absolute

/-- A root is made of slashes. -/
theorem root_eq_or (path : Path) : path.root = ['/'] ∨ path.root = ['/', '/'] := by
  unfold root
  split
  · exact .inl rfl
  · exact .inr rfl
  · exact .inl rfl

theorem isStep_of_mem_names_root {path : Path} {name : Name} (member : name ∈ names path.root) :
    isStep name = false := by
  have empty : ∀ root ∈ [['/'], ['/', '/']], ∀ name ∈ names root, isStep name = false := by decide
  exact empty path.root (by simpa using path.root_eq_or) name member

/-- The absolute form is absolute, and its names are those of its origin, of which an empty one at
the end may go, then the steps of the path, and an empty one only when the path ends in a slash. -/
theorem exists_names_absolute {directory : Path} (rooted : directory.isAbsolute = true)
    (path : Path) :
    (absolute directory path).isAbsolute = true ∧
      ∃ lead tail, names (absolute directory path) = lead ++ (path.steps ++ tail) ∧
        Heads lead (names (origin directory path)) ∧
        (tail = [] ∨ tail = [[]] ∧ ∃ front, path = front ++ ['/']) := by
  obtain ⟨folded, lead, foldedEq, leadEq⟩ :=
    exists_names_foldl_join (isAbsolute_origin rooted path)
      fun name (member : name ∈ path.steps) => isStep_and_not_mem_of_mem_steps member
  by_cases closed : path.getLast? = some '/'
  · have absoluteEq : absolute directory path =
        join (path.steps.foldl join (origin directory path)) [] := if_pos closed
    have relative : isAbsolute [] = false := rfl
    obtain ⟨front, joined, frontEq⟩ := exists_names_join folded relative
    rw [absoluteEq]
    refine ⟨isAbsolute_join folded relative, lead, ?_⟩
    rcases frontEq with same | cropped
    · refine ⟨[[]], ?_, leadEq, .inr ⟨rfl, List.getLast?_eq_some_iff.mp closed⟩⟩
      rw [joined, ← same, foldedEq, List.append_assoc]
      rfl
    · refine ⟨[], ?_, leadEq, .inl rfl⟩
      rw [List.append_nil, ← foldedEq, cropped, joined]
      rfl
  · have absoluteEq : absolute directory path =
        path.steps.foldl join (origin directory path) := if_neg closed
    rw [absoluteEq]
    exact ⟨folded, lead, [], by rw [foldedEq, List.append_nil], leadEq, .inl rfl⟩

/-- Apart from slashes the absolute form holds only what the directory and the path hold. -/
theorem mem_or_mem_of_mem_absolute {directory path : Path} (rooted : directory.isAbsolute = true)
    {c : Char} (member : c ∈ absolute directory path) (other : c ≠ '/') :
    c ∈ directory ∨ c ∈ path := by
  obtain ⟨-, lead, tail, namesEq, heads, tailEq⟩ := exists_names_absolute rooted path
  obtain ⟨name, named, inside⟩ := exists_mem_piece member other
  rw [← names, namesEq, List.mem_append, List.mem_append] at named
  rcases named with front | step | back
  · have start := (mem_and_ne_of_mem_piece (heads.mem front) inside).1
    unfold origin at start
    by_cases absolute : path.isAbsolute = true
    · rw [if_pos absolute] at start
      rcases path.root_eq_or with root | root
      · simp [root, other] at start
      · simp [root, other] at start
    · rw [if_neg absolute] at start
      exact .inl start
  · exact .inr (mem_of_mem_step step inside)
  · rcases tailEq with rfl | ⟨rfl, -⟩
    · exact absurd back List.not_mem_nil
    · rw [List.mem_singleton.mp back] at inside
      exact absurd inside List.not_mem_nil

end ReleaseVersion.Host.Path
