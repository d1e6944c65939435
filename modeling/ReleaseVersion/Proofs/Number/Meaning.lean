import Mathlib.Data.Set.Prod
import Mathlib.Data.Set.Subsingleton
import ReleaseVersion.Proofs.Number.Reading

/-!
# What a number stands for

A number with open fields stands for all the triples of machine words that agree with it wherever
it is not open.  A pattern accepts a candidate exactly when everything that the candidate stands
for is among what the pattern stands for, although the matching itself compares fields and takes
an unset micro and a wildcard micro for different values.
-/

namespace ReleaseVersion

open Text

namespace Component

/-- The field is left open. -/
def Free (component : Component) : Prop :=
  component = .wildcard ∨ component = .unset

/-- The words that a field may hold: one, unless it is left open. -/
def words (component : Component) : Set UInt64 :=
  {word | ¬component.Free → component = .exactly word.toNat}

@[simp]
theorem free_wildcard : wildcard.Free :=
  .inl rfl

@[simp]
theorem free_unset : unset.Free :=
  .inr rfl

@[simp]
theorem not_free_exactly (n : Nat) : ¬(exactly n).Free := by
  simp [Free]

theorem words_of_free {component : Component} (free : component.Free) :
    component.words = Set.univ :=
  Set.eq_univ_of_forall fun _ closed => absurd free closed

/-- A field that is not open holds one word, when it fits into a word at all. -/
theorem words_exactly {n : Nat} (fits : n ≤ unsignedLimit) :
    (exactly n).words = {UInt64.ofNat n} := by
  have back : (UInt64.ofNat n).toNat = n := by
    rw [UInt64.toNat_ofNat']
    exact Nat.mod_eq_of_lt (by unfold unsignedLimit at fits; omega)
  ext word
  simp only [words, not_free_exactly, not_false_eq_true, forall_const, exactly.injEq,
    Set.mem_ofPred_eq, Set.mem_singleton_iff]
  constructor
  · rintro rfl
    exact UInt64.ofNat_toNat.symm
  · rintro rfl
    exact back.symm

/-- Every component is open or a number. -/
theorem free_or_exactly (component : Component) : component.Free ∨ ∃ n, component = .exactly n := by
  cases component with
  | exactly n => exact .inr ⟨n, rfl⟩
  | wildcard => exact .inl free_wildcard
  | unset => exact .inl free_unset

theorem words_nonempty {component : Component} (fits : component.AtMost unsignedLimit) :
    component.words.Nonempty := by
  rcases component.free_or_exactly with free | ⟨n, rfl⟩
  · rw [words_of_free free]
    exact Set.univ_nonempty
  · rw [words_exactly (atMost_exactly.mp fits)]
    exact Set.singleton_nonempty _

theorem words_nontrivial_iff {component : Component} (fits : component.AtMost unsignedLimit) :
    component.words.Nontrivial ↔ component.Free := by
  rcases component.free_or_exactly with free | ⟨n, rfl⟩
  · rw [words_of_free free]
    have two : (Set.univ : Set UInt64).Nontrivial :=
      ⟨0, Set.mem_univ 0, 1, Set.mem_univ 1, by decide⟩
    exact ⟨fun _ => free, fun _ => two⟩
  · rw [words_exactly (atMost_exactly.mp fits)]
    simp

/-- One field of a pattern covers a field of a candidate exactly when it is open or the very
same. -/
theorem words_subset_iff {pattern candidate : Component}
    (fitsPattern : pattern.AtMost unsignedLimit) (fitsCandidate : candidate.AtMost unsignedLimit) :
    candidate.words ⊆ pattern.words ↔ pattern.Free ∨ pattern = candidate := by
  rcases pattern.free_or_exactly with free | ⟨n, rfl⟩
  · simp [words_of_free free, free]
  · simp only [not_free_exactly, false_or]
    constructor
    · intro covered
      -- An open field of the candidate would bring in more than the one word.
      have notFree : ¬candidate.Free := by
        intro free
        have nontrivial := ((words_nontrivial_iff fitsCandidate).mpr free).mono covered
        exact not_free_exactly n ((words_nontrivial_iff fitsPattern).mp nontrivial)
      obtain ⟨word, held⟩ := words_nonempty fitsCandidate
      exact (covered held (not_free_exactly n)).trans (held notFree).symm
    · rintro rfl
      exact subset_rfl

end Component

namespace Number

/-- The triples of words that a number stands for: the major as it is, the minor unless it is the
wildcard, and the micro unless it is unset or the wildcard. -/
def meaning (number : Number) : Set (UInt64 × UInt64 × UInt64) :=
  {triple | triple.1.toNat = number.major ∧
    (number.minor ≠ .wildcard → number.minor = .exactly triple.2.1.toNat) ∧
    (¬(number.micro = .unset ∨ number.micro = .wildcard) →
      number.micro = .exactly triple.2.2.toNat)}

theorem minor_free_iff {number : Number} (wellFormed : number.WellFormed) :
    number.minor.Free ↔ number.minor = .wildcard := by
  simp [Component.Free, wellFormed.1]

/-- What a number stands for, field by field. -/
theorem meaning_eq_prod {number : Number} (wellFormed : number.WellFormed) :
    number.meaning =
      (Component.exactly number.major).words ×ˢ (number.minor.words ×ˢ number.micro.words) := by
  ext ⟨major, minor, micro⟩
  simp only [meaning, Component.words, Set.mem_ofPred_eq, Set.mem_prod, minor_free_iff wellFormed,
    Component.not_free_exactly, not_false_eq_true, forall_const, Component.exactly.injEq]
  simp only [Component.Free, ne_eq, or_comm, eq_comm]

theorem isOpen_eq_true_iff {number : Number} (wellFormed : number.WellFormed) :
    number.isOpen = true ↔ number.minor.Free ∨ number.micro.Free := by
  rw [minor_free_iff wellFormed]
  simp only [isOpen, Bool.or_eq_true, decide_eq_true_eq, Component.Free]
  tauto

/-- A pattern accepts what agrees with it in every field that it does not leave open. -/
theorem accepts_eq_true_iff {pattern candidate : Number} (wellFormed : pattern.WellFormed) :
    pattern.accepts candidate = true ↔
      pattern.major = candidate.major ∧ (pattern.minor.Free ∨ pattern.minor = candidate.minor) ∧
        (pattern.micro.Free ∨ pattern.micro = candidate.micro) := by
  rw [minor_free_iff wellFormed]
  rcases candidate with ⟨major, minor, micro⟩
  simp only [accepts, fill, decide_eq_true_eq, Number.mk.injEq, Component.Free]
  refine and_congr_right fun _ => and_congr ?_ ?_
  · by_cases wild : pattern.minor = .wildcard
    · simp [wild]
    · simp [wild]
  · rw [or_comm (a := pattern.micro = .wildcard)]
    by_cases free : pattern.micro = .unset ∨ pattern.micro = .wildcard
    · simp [free]
    · simp [free]

/-! ## Numbers without open fields -/

/-- A number of three words stands for the triple of these words alone. -/
theorem meaning_of_words (major minor micro : UInt64) :
    meaning ⟨major.toNat, .exactly minor.toNat, .exactly micro.toNat⟩ =
      {(major, minor, micro)} := by
  ext ⟨first, second, third⟩
  simp [meaning, UInt64.toNat_inj, @eq_comm _ minor, @eq_comm _ micro]

/-- A pattern, however it was made, accepts a number of three words exactly when it stands for
their triple. -/
theorem accepts_of_words_iff {pattern : Number} {major minor micro : UInt64} :
    pattern.accepts ⟨major.toNat, .exactly minor.toNat, .exactly micro.toNat⟩ = true ↔
      (major, minor, micro) ∈ pattern.meaning := by
  simp only [accepts, fill, decide_eq_true_eq, Number.mk.injEq, meaning, Set.mem_ofPred_eq,
    ite_eq_left_iff, ne_eq, @eq_comm _ pattern.major]

theorem exists_words {number : Number} (wellFormed : number.WellFormed)
    (fits : number.AtMost unsignedLimit) (closed : number.isOpen = false) :
    ∃ major minor micro : UInt64,
      number = ⟨major.toNat, .exactly minor.toNat, .exactly micro.toNat⟩ := by
  have fields : ¬(number.minor.Free ∨ number.micro.Free) := fun free =>
    Bool.eq_false_iff.mp closed ((isOpen_eq_true_iff wellFormed).mpr free)
  obtain ⟨minorClosed, microClosed⟩ := not_or.mp fields
  obtain ⟨majorFits, minorFits, microFits⟩ := fits
  obtain ⟨major, majorHeld⟩ := Component.words_nonempty (Component.atMost_exactly.mpr majorFits)
  obtain ⟨minor, minorHeld⟩ := Component.words_nonempty minorFits
  obtain ⟨micro, microHeld⟩ := Component.words_nonempty microFits
  have majorEq := Component.exactly.inj (majorHeld (Component.not_free_exactly number.major))
  have minorEq := minorHeld minorClosed
  have microEq := microHeld microClosed
  refine ⟨major, minor, micro, ?_⟩
  rw [← majorEq, ← minorEq, ← microEq]

/-- So a pattern accepts such a number exactly when it stands for all that the number stands
for. -/
theorem accepts_iff_subset_of_closed {pattern number : Number} (wellFormed : number.WellFormed)
    (fits : number.AtMost unsignedLimit) (closed : number.isOpen = false) :
    pattern.accepts number = true ↔ number.meaning ⊆ pattern.meaning := by
  obtain ⟨major, minor, micro, rfl⟩ := exists_words wellFormed fits closed
  rw [accepts_of_words_iff, meaning_of_words, Set.singleton_subset_iff]

/-! ## Matching as containment -/

section

variable {first second third : Number}

theorem accepts_iff_subset (firstOrigin : first.Obtainable) (secondOrigin : second.Obtainable) :
    first.accepts second = true ↔ second.meaning ⊆ first.meaning := by
  obtain ⟨firstMajor, firstMinor, firstMicro⟩ := firstOrigin.atMost
  obtain ⟨secondMajor, secondMinor, secondMicro⟩ := secondOrigin.atMost
  have tail : (second.minor.words ×ˢ second.micro.words).Nonempty :=
    (Component.words_nonempty secondMinor).prod (Component.words_nonempty secondMicro)
  have head : (Component.exactly second.major).words.Nonempty :=
    Component.words_nonempty (Component.atMost_exactly.mpr secondMajor)
  rw [accepts_eq_true_iff firstOrigin.wellFormed, meaning_eq_prod firstOrigin.wellFormed,
    meaning_eq_prod secondOrigin.wellFormed, Set.prod_subset_prod_iff' (head.prod tail),
    Set.prod_subset_prod_iff' tail, Component.words_subset_iff firstMinor secondMinor,
    Component.words_subset_iff firstMicro secondMicro,
    Component.words_subset_iff (Component.atMost_exactly.mpr firstMajor)
      (Component.atMost_exactly.mpr secondMajor)]
  simp

/-- A number is open exactly when it stands for more than one triple. -/
theorem isOpen_iff_nontrivial (origin : first.Obtainable) :
    first.isOpen = true ↔ first.meaning.Nontrivial := by
  obtain ⟨majorFits, minorFits, microFits⟩ := origin.atMost
  rw [isOpen_eq_true_iff origin.wellFormed, meaning_eq_prod origin.wellFormed]
  obtain ⟨major, majorHeld⟩ := Component.words_nonempty (Component.atMost_exactly.mpr majorFits)
  obtain ⟨minor, minorHeld⟩ := Component.words_nonempty minorFits
  obtain ⟨micro, microHeld⟩ := Component.words_nonempty microFits
  constructor
  · rintro (free | free)
    · obtain ⟨one, oneHeld, other, otherHeld, different⟩ :=
        (Component.words_nontrivial_iff minorFits).mpr free
      exact ⟨(major, one, micro), ⟨majorHeld, oneHeld, microHeld⟩,
        (major, other, micro), ⟨majorHeld, otherHeld, microHeld⟩, by simpa using different⟩
    · obtain ⟨one, oneHeld, other, otherHeld, different⟩ :=
        (Component.words_nontrivial_iff microFits).mpr free
      exact ⟨(major, minor, one), ⟨majorHeld, minorHeld, oneHeld⟩,
        (major, minor, other), ⟨majorHeld, minorHeld, otherHeld⟩, by simpa using different⟩
  · intro several
    by_contra closed
    obtain ⟨minorClosed, microClosed⟩ := not_or.mp closed
    obtain ⟨m, minorEq⟩ := first.minor.free_or_exactly.resolve_left minorClosed
    obtain ⟨u, microEq⟩ := first.micro.free_or_exactly.resolve_left microClosed
    rw [minorEq, Component.atMost_exactly] at minorFits
    rw [microEq, Component.atMost_exactly] at microFits
    rw [minorEq, microEq, Component.words_exactly majorFits, Component.words_exactly minorFits,
      Component.words_exactly microFits, Set.singleton_prod_singleton,
      Set.singleton_prod_singleton] at several
    exact Set.not_nontrivial_singleton several

theorem accepts_self (origin : first.Obtainable) : first.accepts first = true :=
  (accepts_iff_subset origin origin).mpr subset_rfl

theorem accepts_of_accepts_of_accepts (firstOrigin : first.Obtainable)
    (secondOrigin : second.Obtainable) (thirdOrigin : third.Obtainable)
    (firstStep : first.accepts second = true) (secondStep : second.accepts third = true) :
    first.accepts third = true := by
  rw [accepts_iff_subset firstOrigin thirdOrigin]
  calc
    third.meaning ⊆ second.meaning := (accepts_iff_subset secondOrigin thirdOrigin).mp secondStep
    _ ⊆ first.meaning := (accepts_iff_subset firstOrigin secondOrigin).mp firstStep

/-- Two numbers accept each other when they differ at most in how an open micro is written. -/
theorem accepts_both_iff (firstOrigin : first.Obtainable) (secondOrigin : second.Obtainable) :
    (first.accepts second = true ∧ second.accepts first = true) ↔
      first.major = second.major ∧ first.minor = second.minor ∧
        (first.micro = second.micro ∨ (first.micro.Free ∧ second.micro.Free)) := by
  rw [accepts_eq_true_iff firstOrigin.wellFormed, accepts_eq_true_iff secondOrigin.wellFormed,
    minor_free_iff firstOrigin.wellFormed, minor_free_iff secondOrigin.wellFormed]
  constructor
  · rintro ⟨⟨major, firstMinor, firstMicro⟩, -, secondMinor, secondMicro⟩
    refine ⟨major, ?_, ?_⟩
    · rcases firstMinor with firstWild | same
      · rcases secondMinor with secondWild | same
        · exact firstWild.trans secondWild.symm
        · exact same.symm
      · exact same
    · rcases firstMicro with firstFree | same
      · rcases secondMicro with secondFree | same
        · exact .inr ⟨firstFree, secondFree⟩
        · exact .inl same.symm
      · exact .inl same
  · rintro ⟨major, minor, same | ⟨firstFree, secondFree⟩⟩
    · exact ⟨⟨major, .inr minor, .inr same⟩, major.symm, .inr minor.symm, .inr same.symm⟩
    · exact ⟨⟨major, .inr minor, .inl firstFree⟩, major.symm, .inr minor.symm, .inl secondFree⟩

/-- Matching is containment of meanings.  A pattern accepts a candidate exactly when all that the
candidate stands for is among what the pattern stands for, and a number is open exactly when it
stands for more than one triple.  So matching is reflexive and transitive, and goes both ways
exactly between numbers that differ at most in an unset against a wildcard micro. -/
theorem accepting_is_containment (firstOrigin : first.Obtainable)
    (secondOrigin : second.Obtainable) (thirdOrigin : third.Obtainable) :
    (first.accepts second = true ↔ second.meaning ⊆ first.meaning) ∧
      (first.isOpen = true ↔ first.meaning.Nontrivial) ∧
      first.accepts first = true ∧
      (first.accepts second = true → second.accepts third = true →
        first.accepts third = true) ∧
      ((first.accepts second = true ∧ second.accepts first = true) ↔
        first.major = second.major ∧ first.minor = second.minor ∧
          (first.micro = second.micro ∨ (first.micro.Free ∧ second.micro.Free))) :=
  ⟨accepts_iff_subset firstOrigin secondOrigin, isOpen_iff_nontrivial firstOrigin,
    accepts_self firstOrigin, accepts_of_accepts_of_accepts firstOrigin secondOrigin thirdOrigin,
    accepts_both_iff firstOrigin secondOrigin⟩

/-- `1.x` stands for more than `1.2.x` does, which in turn stands for more than `1.2.3`. -/
theorem accepting_is_containment_below_wildcard_minor :
    Obtainable ⟨1, .wildcard, .unset⟩ ∧ Obtainable ⟨1, .exactly 2, .wildcard⟩ ∧
      Obtainable ⟨1, .exactly 2, .exactly 3⟩ ∧
      meaning ⟨1, .exactly 2, .wildcard⟩ ⊆ meaning ⟨1, .wildcard, .unset⟩ ∧
      (meaning ⟨1, .wildcard, .unset⟩).Nontrivial ∧
      accepts ⟨1, .wildcard, .unset⟩ ⟨1, .exactly 2, .exactly 3⟩ = true := by
  have wide : Obtainable ⟨1, .wildcard, .unset⟩ := obtainable_iff.mpr (by decide)
  have middle : Obtainable ⟨1, .exactly 2, .wildcard⟩ := obtainable_iff.mpr (by decide)
  have narrow : Obtainable ⟨1, .exactly 2, .exactly 3⟩ := obtainable_iff.mpr (by decide)
  obtain ⟨covers, opens, -, chains, -⟩ := accepting_is_containment wide middle narrow
  exact ⟨wide, middle, narrow, covers.mp (by decide), opens.mp (by decide),
    chains (by decide) (by decide)⟩

end

end Number

end ReleaseVersion
