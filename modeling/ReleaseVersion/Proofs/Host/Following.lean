import ReleaseVersion.Host.Machine
import ReleaseVersion.Proofs.Host.Path
import ReleaseVersion.Proofs.Host.Process

/-!
# Where paths lead

What following a path meets on its way, said without the walk: a directory at every name, links
that are replaced by their targets, and an entry at the end.  Names that lead nowhere may be left
out of a path that leads somewhere, and so its absolute form leads to the same entry.
-/

namespace ReleaseVersion.Host

open Text

/-- A name that an entry can have. -/
structure IsEntryName (name : Name) : Prop where
  step : Path.isStep name = true
  notParent : name ≠ ['.', '.']
  short : (String.ofList name).utf8ByteSize ≤ FileTree.nameLimit

instance (name : Name) : Decidable (IsEntryName name) :=
  decidable_of_iff (Path.isStep name = true ∧ name ≠ ['.', '.'] ∧
      (String.ofList name).utf8ByteSize ≤ FileTree.nameLimit)
    ⟨fun ⟨step, notParent, short⟩ => ⟨step, notParent, short⟩,
      fun ⟨step, notParent, short⟩ => ⟨step, notParent, short⟩⟩

namespace FileTree

/-- Followed from a place, with as many links as allowed, the names lead to the entry. -/
inductive Leads (tree : FileTree) : Nat → Place → List Name → Entry → Prop
  /-- No name is left. -/
  | arrive {links : Nat} {here : Place} {entry : Entry} :
      tree.entry? here = some entry → Leads tree links here [] entry
  /-- An empty name and the name `.` only ask for a directory. -/
  | idle {links : Nat} {here : Place} {name : Name} {rest : List Name} {entry : Entry} :
      tree.isDirectoryAt here = true → Path.isStep name = false →
      Leads tree links here rest entry → Leads tree links here (name :: rest) entry
  /-- The name `..` leads one place up. -/
  | up {links : Nat} {here : Place} {rest : List Name} {entry : Entry} :
      tree.isDirectoryAt here = true → Leads tree links here.dropLast rest entry →
      Leads tree links here (['.', '.'] :: rest) entry
  /-- A link is replaced by its target. -/
  | link {links : Nat} {here : Place} {name : Name} {rest : List Name} {target : Path}
      {entry : Entry} :
      tree.isDirectoryAt here = true → IsEntryName name →
      tree.entry? (here ++ [name]) = some (.link target) →
      Leads tree links (if target.isAbsolute then [] else here) (target.names ++ rest) entry →
      Leads tree (links + 1) here (name :: rest) entry
  /-- Anything else is entered. -/
  | down {links : Nat} {here : Place} {name : Name} {rest : List Name} {found entry : Entry} :
      tree.isDirectoryAt here = true → IsEntryName name →
      tree.entry? (here ++ [name]) = some found → (∀ target, found ≠ .link target) →
      Leads tree links (here ++ [name]) rest entry → Leads tree links here (name :: rest) entry

section

variable {tree : FileTree} {links : Nat} {here : Place} {names : List Name} {entry : Entry}

/-! ### One step of the walk -/

section

variable {name : Name} {rest : List Name}

theorem follow_cons_of_blocked (blocked : tree.isDirectoryAt here = false) :
    tree.follow true links here (name :: rest) = .error .notDirectory := by
  rw [follow, if_pos (by simp [blocked])]

theorem follow_cons_of_idle (isOpen : tree.isDirectoryAt here = true)
    (idle : Path.isStep name = false) :
    tree.follow true links here (name :: rest) = tree.follow true links here rest := by
  rw [follow, if_neg (by simp [isOpen]), if_pos (by simp [idle])]

theorem follow_cons_parent (isOpen : tree.isDirectoryAt here = true) :
    tree.follow true links here (['.', '.'] :: rest) =
      tree.follow true links here.dropLast rest := by
  rw [follow, if_neg (by simp [isOpen]), if_neg (by decide), if_pos rfl]

theorem follow_cons_of_long (isOpen : tree.isDirectoryAt here = true)
    (step : Path.isStep name = true) (notParent : name ≠ ['.', '.'])
    (long : nameLimit < (String.ofList name).utf8ByteSize) :
    tree.follow true links here (name :: rest) = .error .nameTooLong := by
  rw [follow, if_neg (by simp [isOpen]), if_neg (by simp [step]), if_neg notParent, if_pos long]

theorem follow_cons_of_vacant (isOpen : tree.isDirectoryAt here = true)
    (named : IsEntryName name) (vacant : tree.entry? (here ++ [name]) = none) :
    tree.follow true links here (name :: rest) =
      if rest = [] then .ok (.vacant (here ++ [name])) else .error .noEntry := by
  simp [follow, isOpen, named.step, named.notParent, Nat.not_lt_of_le named.short, vacant]

theorem follow_cons_of_exhausted {target : Path} (isOpen : tree.isDirectoryAt here = true)
    (named : IsEntryName name) (linked : tree.entry? (here ++ [name]) = some (.link target)) :
    tree.follow true 0 here (name :: rest) = .error .linkLoop := by
  simp [follow, isOpen, named.step, named.notParent, Nat.not_lt_of_le named.short, linked]

theorem follow_cons_of_link {fewer : Nat} {target : Path} (isOpen : tree.isDirectoryAt here = true)
    (named : IsEntryName name) (linked : tree.entry? (here ++ [name]) = some (.link target)) :
    tree.follow true (fewer + 1) here (name :: rest) =
      tree.follow true fewer (if target.isAbsolute then [] else here) (target.names ++ rest) := by
  rw [follow]
  simp [isOpen, named.step, named.notParent, Nat.not_lt_of_le named.short, linked]

theorem follow_cons_of_entered {found : Entry} (isOpen : tree.isDirectoryAt here = true)
    (named : IsEntryName name) (there : tree.entry? (here ++ [name]) = some found)
    (notLink : ∀ target, found ≠ .link target) :
    tree.follow true links here (name :: rest) = tree.follow true links (here ++ [name]) rest := by
  rw [follow]
  cases found with
  | link target => exact (notLink target rfl).elim
  | directory => simp [isOpen, named.step, named.notParent, Nat.not_lt_of_le named.short, there]
  | file file => simp [isOpen, named.step, named.notParent, Nat.not_lt_of_le named.short, there]

end

/-- What holds of every step of the walk, provided it holds of what the step leads to, holds of
every walk. -/
theorem walk_induction (tree : FileTree) {motive : Nat → Place → List Name → Prop}
    (arrive : ∀ links here, motive links here [])
    (blocked : ∀ links here name rest, tree.isDirectoryAt here = false →
      motive links here (name :: rest))
    (idle : ∀ links here name rest, tree.isDirectoryAt here = true → Path.isStep name = false →
      motive links here rest → motive links here (name :: rest))
    (parent : ∀ links here rest, tree.isDirectoryAt here = true →
      motive links here.dropLast rest → motive links here (['.', '.'] :: rest))
    (long : ∀ links here name rest, tree.isDirectoryAt here = true → Path.isStep name = true →
      name ≠ ['.', '.'] → nameLimit < (String.ofList name).utf8ByteSize →
      motive links here (name :: rest))
    (vacant : ∀ links here name rest, tree.isDirectoryAt here = true → IsEntryName name →
      tree.entry? (here ++ [name]) = none → motive links here (name :: rest))
    (exhausted : ∀ here name rest target, tree.isDirectoryAt here = true → IsEntryName name →
      tree.entry? (here ++ [name]) = some (.link target) → motive 0 here (name :: rest))
    (link : ∀ fewer here name rest target, tree.isDirectoryAt here = true → IsEntryName name →
      tree.entry? (here ++ [name]) = some (.link target) →
      motive fewer (if target.isAbsolute then [] else here) (target.names ++ rest) →
      motive (fewer + 1) here (name :: rest))
    (entered : ∀ links here name rest found, tree.isDirectoryAt here = true → IsEntryName name →
      tree.entry? (here ++ [name]) = some found → (∀ target, found ≠ .link target) →
      motive links (here ++ [name]) rest → motive links here (name :: rest))
    (links : Nat) (here : Place) (names : List Name) : motive links here names := by
  induction links, here, names using FileTree.follow.induct tree true with
  | case1 links here => exact arrive links here
  | case2 links here name rest isBlocked => exact blocked _ _ _ _ (by simpa using isBlocked)
  | case3 links here name rest isOpen isIdle inductionHypothesis =>
      exact idle _ _ _ _ (by simpa using isOpen) (by simpa using isIdle) inductionHypothesis
  | case4 links here rest isOpen step inductionHypothesis =>
      exact parent _ _ _ (by simpa using isOpen) inductionHypothesis
  | case5 links here name rest isOpen step notParent isLong =>
      exact long _ _ _ _ (by simpa using isOpen) (by simpa using step) notParent isLong
  | case6 links here name isOpen step notParent short isVacant =>
      exact vacant _ _ _ _ (by simpa using isOpen)
        ⟨by simpa using step, notParent, Nat.le_of_not_lt short⟩ isVacant
  | case7 links here name rest isOpen step notParent short isVacant more =>
      exact vacant _ _ _ _ (by simpa using isOpen)
        ⟨by simpa using step, notParent, Nat.le_of_not_lt short⟩ isVacant
  | case8 links here name rest isOpen step notParent short target linked last =>
      -- A link in last position is followed too.
      exact absurd last.2 (by decide)
  | case9 here name rest isOpen step notParent short target linked notLast =>
      exact exhausted _ _ _ _ (by simpa using isOpen)
        ⟨by simpa using step, notParent, Nat.le_of_not_lt short⟩ linked
  | case10 here name rest isOpen step notParent short target linked notLast fewer ih =>
      exact link _ _ _ _ _ (by simpa using isOpen)
        ⟨by simpa using step, notParent, Nat.le_of_not_lt short⟩ linked ih
  | case11 links here name rest isOpen step notParent short found notLink there ih =>
      exact entered _ _ _ _ _ (by simpa using isOpen)
        ⟨by simpa using step, notParent, Nat.le_of_not_lt short⟩ there notLink ih

theorem leads_of_follow (followed : tree.follow true links here names = .ok (.entry entry)) :
    tree.Leads links here names entry := by
  induction links, here, names using walk_induction tree with
  | arrive links here =>
      rw [follow, arrive] at followed
      split at followed
      · rename_i found entryHere
        cases followed
        exact .arrive entryHere
      · contradiction
  | blocked links here name rest closed =>
      rw [follow_cons_of_blocked closed] at followed
      contradiction
  | idle links here name rest isOpen idle inductionHypothesis =>
      rw [follow_cons_of_idle isOpen idle] at followed
      exact .idle isOpen idle (inductionHypothesis followed)
  | parent links here rest isOpen inductionHypothesis =>
      rw [follow_cons_parent isOpen] at followed
      exact .up isOpen (inductionHypothesis followed)
  | long links here name rest isOpen step notParent long =>
      rw [follow_cons_of_long isOpen step notParent long] at followed
      contradiction
  | vacant links here name rest isOpen named vacant =>
      rw [follow_cons_of_vacant isOpen named vacant] at followed
      by_cases last : rest = []
      · rw [if_pos last] at followed
        cases followed
      · rw [if_neg last] at followed
        contradiction
  | exhausted here name rest target isOpen named linked =>
      rw [follow_cons_of_exhausted isOpen named linked] at followed
      contradiction
  | link fewer here name rest target isOpen named linked inductionHypothesis =>
      rw [follow_cons_of_link isOpen named linked] at followed
      exact .link isOpen named linked (inductionHypothesis followed)
  | entered links here name rest found isOpen named there notLink inductionHypothesis =>
      rw [follow_cons_of_entered isOpen named there notLink] at followed
      exact .down isOpen named there notLink (inductionHypothesis followed)

theorem follow_of_leads (leads : tree.Leads links here names entry) :
    tree.follow true links here names = .ok (.entry entry) := by
  induction leads with
  | arrive entryHere => rw [follow, arrive, entryHere]
  | idle isOpen idle _ inductionHypothesis =>
      rw [follow_cons_of_idle isOpen idle]
      exact inductionHypothesis
  | up isOpen _ inductionHypothesis =>
      rw [follow_cons_parent isOpen]
      exact inductionHypothesis
  | link isOpen named linked _ inductionHypothesis =>
      rw [follow_cons_of_link isOpen named linked]
      exact inductionHypothesis
  | down isOpen named there notLink _ inductionHypothesis =>
      rw [follow_cons_of_entered isOpen named there notLink]
      exact inductionHypothesis

/-- The path, read in a directory, leads to the entry: its names do, from the root when the path is
absolute and else from the directory.  Links are followed to the end. -/
structure PathLeads (tree : FileTree) (directory path : Path) (entry : Entry) : Prop where
  given : path ≠ []
  zeroFree : '\x00' ∉ path
  leads : tree.Leads linkLimit (if path.isAbsolute then [] else directory.steps) path.names entry

theorem find_eq_ok_iff {directory path : Path} :
    tree.find directory path = .ok entry ↔ tree.PathLeads directory path entry := by
  unfold find target
  by_cases empty : path = []
  · rw [if_pos empty]
    exact iff_of_false (by simp) fun leads => leads.given empty
  · by_cases zero : '\x00' ∈ path
    · rw [if_neg empty, if_pos zero]
      exact iff_of_false (by simp) fun leads => leads.zeroFree zero
    · rw [if_neg empty, if_neg zero]
      constructor
      · intro found
        split at found
        · contradiction
        · rename_i followed
          cases found
          exact ⟨empty, zero, leads_of_follow followed⟩
        · contradiction
      · intro leads
        rw [follow_of_leads leads.leads]

/-- A file that stands right below the root is what its name after a slash leads to. -/
theorem pathLeads_slash {directory : Path} {name : Name} {file : File} (named : IsEntryName name)
    (free : '/' ∉ name) (zeroFree : '\x00' ∉ name)
    (held : tree.entry? [name] = some (.file file)) :
    tree.PathLeads directory ('/' :: name) (.file file) := by
  constructor
  · simp
  · simp [zeroFree]
  · rw [Path.names_slash_of_not_mem free]
    exact .idle rfl rfl (.down rfl named held (by simp) (.arrive held))

/-- A path leads to one entry only. -/
theorem PathLeads.unique {directory path : Path} {first second : Entry}
    (one : tree.PathLeads directory path first) (other : tree.PathLeads directory path second) :
    first = second :=
  Except.ok.inj ((find_eq_ok_iff.mpr one).symm.trans (find_eq_ok_iff.mpr other))

theorem file?_eq_some_iff {directory path : Path} {file : File} :
    tree.file? directory path = some file ↔ tree.PathLeads directory path (.file file) := by
  rw [← find_eq_ok_iff, file?]
  constructor
  · intro found
    split at found
    · rename_i held
      cases found
      exact held
    · contradiction
  · intro found
    rw [found]

/-- A path can be read as text exactly when it leads to a file that holds the text. -/
theorem readText_eq_ok_iff {directory path : Path} {text : String} :
    tree.readText directory path = .ok text ↔
      ∃ file : File, tree.PathLeads directory path (.file file) ∧
        file.content = text.toUTF8 := by
  simp only [← find_eq_ok_iff, ← fromUTF8?_eq_some_iff]
  unfold readText read
  cases tree.find directory path with
  | error cause => simp
  | ok entry =>
      cases entry with
      | directory => simp
      | link target => simp
      | file file =>
          simp only [Except.ok.injEq, Entry.file.injEq, exists_eq_left']
          cases String.fromUTF8? file.content with
          | none => simp
          | some held => simp

/-! ## Idle names -/

/-- Of the first names some that lead nowhere are left out in the second. -/
inductive Shortens : List Name → List Name → Prop
  | nil : Shortens [] []
  | keep {name : Name} {names kept : List Name} :
      Shortens names kept → Shortens (name :: names) (name :: kept)
  | drop {name : Name} {names kept : List Name} :
      Path.isStep name = false → Shortens names kept → Shortens (name :: names) kept

theorem Shortens.append {kept back : List Name} (front : List Name)
    (shortens : Shortens back kept) :
    Shortens (front ++ back) (front ++ kept) := by
  induction front with
  | nil => exact shortens
  | cons name front inductionHypothesis => exact .keep inductionHypothesis

theorem shortens_refl (names : List Name) : Shortens names names := by
  simpa using Shortens.append names .nil

theorem shortens_filter_append (front back : List Name) :
    Shortens (front ++ back) (front.filter Path.isStep ++ back) := by
  induction front with
  | nil => exact shortens_refl back
  | cons name front inductionHypothesis =>
      cases step : Path.isStep name with
      | true =>
          rw [List.filter_cons_of_pos step]
          exact .keep inductionHypothesis
      | false =>
          rw [List.filter_cons_of_neg (by simp [step])]
          exact .drop step inductionHypothesis

/-- Where names lead, they lead without their idle names too. -/
theorem Leads.of_shortens {kept : List Name} (leads : tree.Leads links here names entry)
    (shortens : Shortens names kept) : tree.Leads links here kept entry := by
  induction leads generalizing kept with
  | arrive entryHere =>
      cases shortens with
      | nil => exact .arrive entryHere
  | idle isOpen idle _ inductionHypothesis =>
      cases shortens with
      | keep shortens => exact .idle isOpen idle (inductionHypothesis shortens)
      | drop _ shortens => exact inductionHypothesis shortens
  | up isOpen _ inductionHypothesis =>
      cases shortens with
      | keep shortens => exact .up isOpen (inductionHypothesis shortens)
      | drop idle _ => exact absurd idle (by decide)
  | link isOpen named linked _ inductionHypothesis =>
      cases shortens with
      | keep shortens => exact .link isOpen named linked (inductionHypothesis (shortens.append _))
      | drop idle _ => exact absurd (named.step.symm.trans idle) (by decide)
  | down isOpen named there notLink _ inductionHypothesis =>
      cases shortens with
      | keep shortens => exact .down isOpen named there notLink (inductionHypothesis shortens)
      | drop idle _ => exact absurd (named.step.symm.trans idle) (by decide)

/-- Idle names may be put before others where a directory is. -/
theorem Leads.idle_append {idle : List Name} (isOpen : tree.isDirectoryAt here = true)
    (unmoved : ∀ name ∈ idle, Path.isStep name = false)
    (leads : tree.Leads links here names entry) : tree.Leads links here (idle ++ names) entry := by
  induction idle with
  | nil => exact leads
  | cons name idle inductionHypothesis =>
      exact .idle isOpen (unmoved name List.mem_cons_self)
        (inductionHypothesis fun other member => unmoved other (List.mem_cons_of_mem name member))

/-- A name under which nothing is leads nowhere, whatever comes behind it. -/
theorem not_leads_of_vacant {name : Name} {rest : List Name} (named : IsEntryName name)
    (vacant : tree.entry? (here ++ [name]) = none) :
    ¬tree.Leads links here (name :: rest) entry := by
  intro leads
  cases leads with
  | idle _ idle _ => exact absurd (named.step.symm.trans idle) (by decide)
  | up _ _ => exact named.notParent rfl
  | link _ _ there _ =>
      rw [vacant] at there
      contradiction
  | down _ _ there _ _ =>
      rw [vacant] at there
      contradiction

/-- Where nothing stands right below the root, a name after a slash leads nowhere. -/
theorem not_pathLeads_slash {directory : Path} {name : Name} (named : IsEntryName name)
    (free : '/' ∉ name) (vacant : tree.entry? [name] = none) :
    ¬tree.PathLeads directory ('/' :: name) entry := by
  rintro ⟨-, -, leads⟩
  rw [Path.names_slash_of_not_mem free] at leads
  cases leads with
  | idle _ _ below => exact not_leads_of_vacant named vacant below
  | link _ empty _ _ => exact absurd empty.step (by decide)
  | down _ empty _ _ _ => exact absurd empty.step (by decide)

/-! ## Going down -/

theorem isDirectoryAt_eq_true_iff : tree.isDirectoryAt here = true ↔
    tree.entry? here = some .directory := by
  unfold isDirectoryAt
  cases tree.entry? here with
  | none => simp
  | some entry => cases entry <;> simp

theorem isDirectoryAt_root : tree.isDirectoryAt [] = true :=
  rfl

/-- The names of directories that are no links lead down from one to the other. -/
theorem Leads.down_append {place : Place} (named : ∀ name ∈ place, IsEntryName name)
    (directories : ∀ above, above <+: place → tree.isDirectoryAt (here ++ above) = true)
    (leads : tree.Leads links (here ++ place) names entry) :
    tree.Leads links here (place ++ names) entry := by
  induction place generalizing here with
  | nil => simpa using leads
  | cons name place inductionHypothesis =>
      have top := directories [] List.nil_prefix
      have next := directories [name] (by simp)
      refine .down (by simpa using top) (named name List.mem_cons_self)
        (isDirectoryAt_eq_true_iff.mp next) (fun target => by simp) ?_
      apply inductionHypothesis fun other member => named other (List.mem_cons_of_mem name member)
      · intro above below
        rw [List.append_assoc]
        exact directories _ (List.cons_prefix_cons.mpr ⟨rfl, below⟩)
      · rw [List.append_assoc]
        exact leads

/-- And what such names lead to is found from the last of the directories. -/
theorem Leads.of_down_append {place : Place} (named : ∀ name ∈ place, IsEntryName name)
    (directories : ∀ above, above <+: place → tree.isDirectoryAt (here ++ above) = true)
    (leads : tree.Leads links here (place ++ names) entry) :
    tree.Leads links (here ++ place) names entry := by
  induction place generalizing here with
  | nil => simpa using leads
  | cons name place inductionHypothesis =>
      have next := isDirectoryAt_eq_true_iff.mp (directories [name] (by simp))
      have entered : tree.Leads links (here ++ [name]) (place ++ names) entry := by
        have isName := named name List.mem_cons_self
        cases leads with
        | idle _ idle _ => exact absurd (isName.step.symm.trans idle) (by decide)
        | up _ _ => exact absurd rfl isName.notParent
        | link _ _ linked _ => exact absurd (next.symm.trans linked) (by simp)
        | down _ _ _ _ further => exact further
      rw [← List.singleton_append, ← List.append_assoc]
      apply inductionHypothesis fun other member => named other (List.mem_cons_of_mem name member)
      · intro above below
        rw [List.append_assoc]
        exact directories _ (List.cons_prefix_cons.mpr ⟨rfl, below⟩)
      · exact entered

end

end FileTree

/-! ## Runnable files -/

theorem testBit_permission {i : Nat} : Nat.testBit 0o111 i = true ↔ i = 0 ∨ i = 3 ∨ i = 6 := by
  constructor
  · intro set
    have small : i < 7 := by
      refine Nat.lt_of_not_le fun large => ?_
      have below : 0o111 < 2 ^ i := calc
        0o111 < 2 ^ 7 := by decide
        _ ≤ 2 ^ i := Nat.pow_le_pow_right (by decide) large
      rw [Nat.testBit_lt_two_pow below] at set
      contradiction
    have low : ∀ i < 7, Nat.testBit 0o111 i = true → i = 0 ∨ i = 3 ∨ i = 6 := by decide
    exact low i small set
  · rintro (rfl | rfl | rfl)
    · rfl
    · rfl
    · rfl

/-- A file can be run when its mode has one of the three executable bits. -/
theorem File.isRunnable_eq_true_iff {file : File} :
    file.isRunnable = true ↔ file.mode &&& 0o111 ≠ 0 := by
  have bits : file.isRunnable = true ↔ ∃ i, (file.mode &&& 0o111).testBit i = true := by
    simp only [Nat.testBit_and, Bool.and_eq_true, testBit_permission, isRunnable, Bool.or_eq_true,
      and_or_left, exists_or, exists_eq_right, or_assoc]
  rw [bits]
  constructor
  · rintro ⟨i, set⟩ none
    rw [none, Nat.zero_testBit] at set
    contradiction
  · exact Nat.exists_testBit_of_ne_zero

namespace Machine

/-- The path leads, over any links, to a regular file with at least one executable bit. -/
def Runnable (machine : Machine) (path : Path) : Prop :=
  ∃ file : File, machine.files.PathLeads machine.directory path (.file file) ∧
    file.mode &&& 0o111 ≠ 0

theorem isRunnable_eq_true_iff {machine : Machine} {path : Path} :
    machine.isRunnable path = true ↔ machine.Runnable path := by
  simp only [isRunnable, FileTree.isRunnable, Runnable, ← FileTree.file?_eq_some_iff,
    ← File.isRunnable_eq_true_iff]
  cases machine.files.file? machine.directory path with
  | none => simp
  | some file => simp

end Machine

end ReleaseVersion.Host
