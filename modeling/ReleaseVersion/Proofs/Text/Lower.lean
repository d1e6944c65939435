import ReleaseVersion.Text.Lower

/-!
# What lower-casing leaves

Lower-casing writes only *small* characters, those that it leaves alone wherever they stand.  A
lower-cased text is therefore its own lower-case form, and so is every text made of such
characters.  That no small letter is the capital of another one is a property of the case table;
it is checked run against run, not letter by letter.
-/

namespace ReleaseVersion.Text

/-! ## The case table -/

namespace CaseRun

/-- The last code point that the run maps to. -/
def lastTarget (run : CaseRun) : Nat :=
  run.target + (run.last - run.first)

/-- The targets of the run hold no capital of the other one: the two lie apart, or the capitals
come in steps of two and the targets fall between them. -/
def clears (run other : CaseRun) : Bool :=
  run.lastTarget < other.first || other.last < run.target ||
    (other.step == 2 && (run.step == 2 || run.first == run.last) &&
      (run.target + other.first) % 2 == 1)

/-- The targets of the run are characters after the ASCII signs, and the dotted capital I, which
has a form of its own, is not one of them. -/
def lands (run : CaseRun) : Bool :=
  0x40 < run.target && (run.lastTarget < 0x130 || 0x130 < run.target) &&
    (run.lastTarget < 0xD800 || (0xDFFF < run.target && run.lastTarget < 0x110000))

theorem lower?_eq_some_iff {run : CaseRun} {n m : Nat} :
    run.lower? n = some m ↔
      ∃ k, n = run.first + k ∧ n ≤ run.last ∧ k % run.step = 0 ∧ m = run.target + k := by
  simp only [lower?, Option.ite_none_right_eq_some, Option.some.injEq]
  constructor
  · rintro ⟨⟨above, below, spaced⟩, rfl⟩
    exact ⟨n - run.first, by omega, below, spaced, rfl⟩
  · rintro ⟨k, rfl, below, spaced, rfl⟩
    rw [Nat.add_sub_cancel_left]
    exact ⟨⟨Nat.le_add_right _ _, below, spaced⟩, rfl⟩

/-- A target of a run is no capital of a run that it clears. -/
theorem lower?_eq_none_of_clears {run other : CaseRun} {n m : Nat}
    (clear : run.clears other = true) (hit : run.lower? n = some m) : other.lower? m = none := by
  obtain ⟨k, rfl, below, spaced, rfl⟩ := lower?_eq_some_iff.mp hit
  rw [Option.eq_none_iff_forall_ne_some]
  intro target hitOther
  obtain ⟨j, meets, belowOther, spacedOther, -⟩ := lower?_eq_some_iff.mp hitOther
  simp only [clears, Bool.or_eq_true, Bool.and_eq_true, decide_eq_true_eq, beq_iff_eq] at clear
  unfold lastTarget at clear
  rcases clear with (before | after) | ⟨⟨stepsOther, steps⟩, parity⟩
  · omega
  · omega
  · rw [stepsOther] at spacedOther
    rcases steps with steps | single
    · rw [steps] at spaced
      omega
    · omega

end CaseRun

/-- Every run of the table clears every run, itself included. -/
theorem caseRuns_clear : (caseRuns.all fun run => caseRuns.all run.clears) = true := by
  decide +kernel

theorem caseRuns_land : caseRuns.all CaseRun.lands = true := by
  decide +kernel

/-! ## Small characters -/

/-- A character that lower-casing leaves alone. -/
def IsSmall (c : Char) : Prop :=
  lowerChar c = [c]

instance (c : Char) : Decidable (IsSmall c) :=
  inferInstanceAs (Decidable (_ = _))

/-- A code point below the surrogates or above them is that of its character. -/
theorem toNat_ofNat_of_isValidChar {n : Nat} (valid : n.isValidChar) :
    (Char.ofNat n).toNat = n := by
  rw [Char.ofNat, dif_pos valid]
  rfl

/-- A character that no run maps is small, the dotted capital I apart. -/
theorem isSmall_of_not_mapped {c : Char} (plain : c.toNat ≠ 0x130)
    (unmapped : caseRuns.findSome? (·.lower? c.toNat) = none) : IsSmall c := by
  rw [IsSmall, lowerChar]
  simp only [if_neg plain, unmapped]

/-- The target of a run is the code point of a small character, and none of the ASCII signs. -/
theorem isSmall_of_run {run : CaseRun} {n m : Nat} (member : run ∈ caseRuns)
    (hit : run.lower? n = some m) : IsSmall (Char.ofNat m) ∧ 0x40 < (Char.ofNat m).toNat := by
  have lands : run.lands = true := List.all_eq_true.mp caseRuns_land run member
  obtain ⟨k, rfl, below, -, mEq⟩ := CaseRun.lower?_eq_some_iff.mp hit
  simp only [CaseRun.lands, Bool.and_eq_true, Bool.or_eq_true, decide_eq_true_eq] at lands
  unfold CaseRun.lastTarget at lands
  have valid : m.isValidChar := by
    unfold Nat.isValidChar
    omega
  have unmapped : caseRuns.findSome? (·.lower? m) = none := by
    rw [List.findSome?_eq_none_iff]
    intro other otherMember
    have clear := List.all_eq_true.mp caseRuns_clear run member
    exact CaseRun.lower?_eq_none_of_clears (List.all_eq_true.mp clear other otherMember) hit
  rw [toNat_ofNat_of_isValidChar valid]
  refine ⟨isSmall_of_not_mapped ?_ ?_, by omega⟩
  · rw [toNat_ofNat_of_isValidChar valid]
    omega
  · rw [toNat_ofNat_of_isValidChar valid]
    exact unmapped

/-- What is written for a character is small, and is an ASCII sign only when it is the character
itself. -/
theorem isSmall_of_mem_lowerChar {c d : Char} (member : d ∈ lowerChar c) :
    IsSmall d ∧ (d = c ∨ 0x40 < d.toNat) := by
  simp only [lowerChar] at member
  split at member
  · have twoLetters : d = 'i' ∨ d = Char.ofNat 0x307 := by simpa using member
    rcases twoLetters with rfl | rfl
    · exact ⟨by decide +kernel, .inr (by decide)⟩
    · exact ⟨by decide +kernel, .inr (by decide)⟩
  · rename_i plain
    cases found : caseRuns.findSome? (·.lower? c.toNat) with
    | none =>
        rw [found] at member
        have same : d = c := by simpa using member
        subst same
        exact ⟨isSmall_of_not_mapped plain found, .inl rfl⟩
    | some m =>
        rw [found] at member
        have target : d = Char.ofNat m := by simpa using member
        obtain ⟨run, runMember, hit⟩ := List.exists_of_findSome?_eq_some found
        obtain ⟨small, beyond⟩ := isSmall_of_run runMember hit
        rw [target]
        exact ⟨small, .inr beyond⟩

theorem lowerChar_ne_nil (c : Char) : lowerChar c ≠ [] := by
  simp only [lowerChar]
  split
  · simp
  · split <;> simp

/-! ## Texts -/

/-- Every character of a lower-cased text is small, and if it is an ASCII sign then it was there
before. -/
theorem isSmall_of_mem_lowerAfter {before text : List Char} {d : Char}
    (member : d ∈ lowerAfter before text) : IsSmall d ∧ (d ∈ text ∨ 0x40 < d.toNat) := by
  induction text generalizing before with
  | nil => simp [lowerAfter] at member
  | cons c rest inductionHypothesis =>
      rw [lowerAfter, List.mem_append] at member
      rcases member with here | later
      · split at here
        · have sigma : d = 'ς' ∨ d = 'σ' := by
            split at here
            · exact .inl (by simpa using here)
            · exact .inr (by simpa using here)
          rcases sigma with rfl | rfl
          · exact ⟨by decide +kernel, .inr (by decide)⟩
          · exact ⟨by decide +kernel, .inr (by decide)⟩
        · obtain ⟨small, same | beyond⟩ := isSmall_of_mem_lowerChar here
          · exact ⟨small, .inl (by simp [same])⟩
          · exact ⟨small, .inr beyond⟩
      · obtain ⟨small, member | beyond⟩ := inductionHypothesis later
        · exact ⟨small, .inl (List.mem_cons_of_mem c member)⟩
        · exact ⟨small, .inr beyond⟩

theorem isSmall_of_mem_lower {text : List Char} {d : Char} (member : d ∈ lower text) :
    IsSmall d :=
  (isSmall_of_mem_lowerAfter member).1

/-- Lower-casing puts no dash into a text. -/
theorem dash_mem_of_dash_mem_lower {text : List Char} (member : '-' ∈ lower text) :
    '-' ∈ text :=
  (isSmall_of_mem_lowerAfter member).2.resolve_right (by decide)

/-- A text of small characters is its own lower-case form. -/
theorem lower_eq_self {text : List Char} (small : ∀ c ∈ text, IsSmall c) : lower text = text := by
  suffices untouched : ∀ before, lowerAfter before text = text from untouched []
  induction text with
  | nil => exact fun _ => rfl
  | cons c rest inductionHypothesis =>
      intro before
      have head : IsSmall c := small c List.mem_cons_self
      -- The capital sigma is the one character whose form hangs on its surroundings.
      have notSigma : c ≠ 'Σ' := by
        rintro rfl
        exact absurd head (by decide +kernel)
      have tail := inductionHypothesis
        (fun d member => small d (List.mem_cons_of_mem c member)) (c :: before)
      rw [lowerAfter, if_neg notSigma, head, tail]
      rfl

@[simp]
theorem lower_lower (text : List Char) : lower (lower text) = lower text :=
  lower_eq_self fun _ => isSmall_of_mem_lower

@[simp]
theorem lower_eq_nil_iff {text : List Char} : lower text = [] ↔ text = [] := by
  cases text with
  | nil => simp
  | cons c rest =>
      simp only [lower, lowerAfter, List.append_eq_nil_iff, reduceCtorEq, iff_false, not_and]
      intro empty
      split at empty
      · split at empty <;> simp at empty
      · exact absurd empty (lowerChar_ne_nil c)

end ReleaseVersion.Text
