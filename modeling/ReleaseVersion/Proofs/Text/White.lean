import ReleaseVersion.Text.White

/-!
# What trimming leaves

Trimming takes a text apart into white space, a core and white space.  The core neither starts nor
ends with white space, and there is only one such core in a text.
-/

namespace ReleaseVersion.Text

theorem trimEnd_of_white {text : List Char} (white : ∀ c ∈ text, isWhite c = true) :
    trimEnd text = [] := by
  induction text with
  | nil => rfl
  | cons c rest inductionHypothesis =>
      have tail := inductionHypothesis fun d member => white d (List.mem_cons_of_mem c member)
      rw [trimEnd, tail]
      simp [white c List.mem_cons_self]

theorem exists_eq_trimEnd_append (text : List Char) :
    ∃ after, (∀ c ∈ after, isWhite c = true) ∧ text = trimEnd text ++ after := by
  induction text with
  | nil => exact ⟨[], by simp, rfl⟩
  | cons c rest inductionHypothesis =>
      obtain ⟨after, white, restEq⟩ := inductionHypothesis
      rw [trimEnd]
      -- A first character that is white space goes only if nothing is kept behind it.
      cases kept : trimEnd rest with
      | nil =>
          rw [kept, List.nil_append] at restEq
          subst restEq
          by_cases blank : isWhite c = true
          · exact ⟨c :: rest, by simpa [blank] using white, by simp [blank]⟩
          · exact ⟨rest, white, by simp [blank]⟩
      | cons d core =>
          rw [kept] at restEq
          exact ⟨after, white, by rw [List.cons_append, ← restEq]⟩

/-- Trimming only takes white space away. -/
theorem exists_eq_append_trim_append (text : List Char) :
    ∃ before after, (∀ c ∈ before, isWhite c = true) ∧ (∀ c ∈ after, isWhite c = true) ∧
      text = before ++ (trim text ++ after) := by
  obtain ⟨after, white, coreEq⟩ := exists_eq_trimEnd_append (trimStart text)
  refine ⟨text.takeWhile isWhite, after, ?_, white, ?_⟩
  · exact List.all_eq_true.mp List.all_takeWhile
  · rw [trim, ← coreEq, trimStart, List.takeWhile_append_dropWhile]

/-! ## The core of a text -/

/-- The core is what is left of the text when the white space at both ends is taken away: white
space surrounds it, and it neither starts nor ends with any. -/
structure Trimmed (text core : List Char) : Prop where
  surrounded : ∃ before after, (∀ c ∈ before, isWhite c = true) ∧
    (∀ c ∈ after, isWhite c = true) ∧ text = before ++ (core ++ after)
  solidStart : ∀ c rest, core = c :: rest → isWhite c = false
  solidEnd : ∀ front c, core = front ++ [c] → isWhite c = false

theorem trimEnd_append_white {after : List Char} (core : List Char)
    (white : ∀ c ∈ after, isWhite c = true) : trimEnd (core ++ after) = trimEnd core := by
  induction core with
  | nil => exact trimEnd_of_white white
  | cons c rest inductionHypothesis => rw [List.cons_append, trimEnd, inductionHypothesis, trimEnd]

theorem trimEnd_solidEnd {text front : List Char} {c : Char} (kept : trimEnd text = front ++ [c]) :
    isWhite c = false := by
  induction text generalizing front with
  | nil => simp [trimEnd] at kept
  | cons d rest inductionHypothesis =>
      rw [trimEnd] at kept
      cases keptRest : trimEnd rest with
      | nil =>
          rw [keptRest] at kept
          by_cases blank : isWhite d = true
          · simp [blank] at kept
          · have single : [d] = front ++ [c] := by simpa [blank] using kept
            obtain rfl : d = c := by simpa using congrArg List.getLast? single
            exact Bool.eq_false_iff.mpr blank
      | cons e core =>
          rw [keptRest] at kept
          cases front with
          | nil => simp at kept
          | cons _ front => exact inductionHypothesis (keptRest.trans (List.cons.inj kept).2)

theorem trimmed_trim (text : List Char) : Trimmed text (trim text) where
  surrounded := exists_eq_append_trim_append text
  solidStart := by
    intro c rest core
    obtain ⟨after, -, startEq⟩ := exists_eq_trimEnd_append (trimStart text)
    have head : text.dropWhile isWhite = c :: (rest ++ after) := by
      change trimStart text = _
      rw [startEq, ← trim, core]
      rfl
    have nonempty : text.dropWhile isWhite ≠ [] := by simp [head]
    have solid := List.head_dropWhile_not isWhite nonempty
    simpa [head] using solid
  solidEnd _ _ core := trimEnd_solidEnd core

/-- Trimming gives the one core that a text has. -/
theorem trim_eq_iff {text core : List Char} : trim text = core ↔ Trimmed text core := by
  constructor
  · rintro rfl
    exact trimmed_trim text
  · rintro ⟨⟨before, after, whiteBefore, whiteAfter, rfl⟩, solidStart, solidEnd⟩
    rw [trim, trimStart, List.dropWhile_append_of_pos whiteBefore]
    cases core with
    | nil =>
        exact trimEnd_of_white fun c member =>
          whiteAfter c ((List.dropWhile_sublist _).mem member)
    | cons c rest =>
        have solid : isWhite c = false := solidStart c rest rfl
        rw [List.cons_append, List.dropWhile_cons_of_neg (by simp [solid]), ← List.cons_append,
          trimEnd_append_white _ whiteAfter]
        obtain ⟨front, last, coreEq⟩ :=
          (List.eq_nil_or_concat (c :: rest)).resolve_left (List.cons_ne_nil c rest)
        rw [List.concat_eq_append] at coreEq
        rw [coreEq]
        exact trimEnd_concat_of_not_white front (solidEnd front last coreEq)

/-- A core without white space is found between any two runs of it. -/
theorem trim_surrounded {before core after : List Char}
    (whiteBefore : ∀ c ∈ before, isWhite c = true) (solid : ∀ c ∈ core, isWhite c = false)
    (whiteAfter : ∀ c ∈ after, isWhite c = true) : trim (before ++ (core ++ after)) = core := by
  refine trim_eq_iff.mpr ⟨⟨before, after, whiteBefore, whiteAfter, rfl⟩, ?_, ?_⟩
  · rintro c rest rfl
    exact solid c List.mem_cons_self
  · rintro front c rfl
    exact solid c (by simp)

/-- What holds only of texts without white space holds of the core exactly when the text is such a
text between two runs of white space. -/
theorem trim_satisfies_iff (P : List Char → Prop)
    (solid : ∀ core, P core → ∀ c ∈ core, isWhite c = false) {text : List Char} :
    P (trim text) ↔ ∃ before core after, text = before ++ (core ++ after) ∧
      (∀ c ∈ before, isWhite c = true) ∧ P core ∧ ∀ c ∈ after, isWhite c = true := by
  constructor
  · intro satisfied
    obtain ⟨before, after, whiteBefore, whiteAfter, textEq⟩ := exists_eq_append_trim_append text
    exact ⟨before, trim text, after, textEq, whiteBefore, satisfied, whiteAfter⟩
  · rintro ⟨before, core, after, rfl, whiteBefore, satisfied, whiteAfter⟩
    rw [trim_surrounded whiteBefore (solid core satisfied) whiteAfter]
    exact satisfied

theorem trim_eq_self {text : List Char} (solid : ∀ c ∈ text, isWhite c = false) :
    trim text = text := by
  simpa using @trim_surrounded [] text [] (by simp) solid (by simp)

end ReleaseVersion.Text
