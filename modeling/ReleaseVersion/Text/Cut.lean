/-!
# Cutting at a separator

A text is cut at the first place where a separator stands: the piece before it and all that
follows it, later separators included.  A text without the separator cannot be cut.
-/

namespace ReleaseVersion.Text

/-- The text before the first `separator` and the text after it. -/
def cut? (separator : Char) : List Char → Option (List Char × List Char)
  | [] => none
  | c :: rest =>
    if c = separator then some ([], rest)
    else (cut? separator rest).map fun pieces => (c :: pieces.1, pieces.2)

/-- All pieces between separators; a text without any is its own single piece. -/
def pieces (separator : Char) : List Char → List (List Char)
  | [] => [[]]
  | c :: rest =>
    if c = separator then [] :: pieces separator rest
    else
      match pieces separator rest with
      | [] => [[c]]
      | first :: others => (c :: first) :: others

/-- A text cannot be cut exactly when the separator is not in it. -/
theorem cut?_eq_none_iff {separator : Char} {text : List Char} :
    cut? separator text = none ↔ separator ∉ text := by
  induction text with
  | nil => simp [cut?]
  | cons c rest inductionHypothesis =>
      by_cases here : c = separator
      · simp [cut?, here]
      · simp [cut?, here, inductionHypothesis, Ne.symm here]

/-- A cut gives the text back when the separator is put between the pieces, and the first piece
holds no separator. -/
theorem cut?_eq_some_iff {separator : Char} {text before after : List Char} :
    cut? separator text = some (before, after) ↔
      text = before ++ separator :: after ∧ separator ∉ before := by
  induction text generalizing before with
  | nil => simp [cut?]
  | cons c rest inductionHypothesis =>
      by_cases here : c = separator
      · subst here
        cases before with
        | nil => simp [cut?]
        | cons d before =>
            simp only [cut?, if_true, Option.some.injEq, Prod.mk.injEq, List.cons_append,
              List.cons.injEq, List.mem_cons, not_or]
            constructor
            · intro impossible
              exact absurd impossible.1 (by simp)
            · intro impossible
              exact absurd impossible.1.1 impossible.2.1
      · cases before with
        | nil =>
            simp [cut?, here]
        | cons d before =>
            simp only [cut?, here, if_false, Option.map_eq_some_iff, Prod.exists, Prod.mk.injEq,
              List.cons.injEq, List.cons_append, List.mem_cons, not_or]
            constructor
            · rintro ⟨front, back, cutRest, ⟨rfl, rfl⟩, rfl⟩
              obtain ⟨glued, free⟩ := inductionHypothesis.mp cutRest
              exact ⟨⟨rfl, glued⟩, fun equal => here equal.symm, free⟩
            · rintro ⟨⟨rfl, glued⟩, _, free⟩
              exact ⟨before, after, inductionHypothesis.mpr ⟨glued, free⟩, ⟨rfl, rfl⟩, rfl⟩

end ReleaseVersion.Text
