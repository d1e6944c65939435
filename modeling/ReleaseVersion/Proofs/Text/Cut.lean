import ReleaseVersion.Text.Cut

/-!
# The pieces of a text

The pieces of a text are the one way to write it as texts without the separator, with a separator
between each two of them.
-/

namespace ReleaseVersion.Text

variable {separator : Char}

theorem pieces_eq_splitOn (text : List Char) : pieces separator text = text.splitOn separator := by
  induction text with
  | nil => rfl
  | cons c rest inductionHypothesis =>
      rw [pieces, List.splitOn_cons_eq_if_modifyHead, inductionHypothesis]
      by_cases here : c = separator
      · simp [here]
      · cases divided : rest.splitOn separator with
        | nil => exact absurd divided (List.splitOn_ne_nil separator rest)
        | cons first others => simp [here]

theorem pieces_ne_nil (text : List Char) : pieces separator text ≠ [] := by
  rw [pieces_eq_splitOn]
  exact List.splitOn_ne_nil separator text

theorem pieces_of_not_mem {text : List Char} (free : separator ∉ text) :
    pieces separator text = [text] := by
  rw [pieces_eq_splitOn]
  exact List.splitOn_eq_singleton free

/-- A separator divides the pieces before it from those after it. -/
theorem pieces_append_cons (before after : List Char) :
    pieces separator (before ++ separator :: after) =
      pieces separator before ++ pieces separator after := by
  simp only [pieces_eq_splitOn, List.splitOn_append_cons_self]

/-- The pieces hold characters of the text, and never the separator. -/
theorem mem_and_ne_of_mem_piece {text piece : List Char} {c : Char}
    (member : piece ∈ pieces separator text) (inside : c ∈ piece) : c ∈ text ∧ c ≠ separator := by
  induction text generalizing piece with
  | nil =>
      rw [List.mem_singleton.mp member] at inside
      exact absurd inside List.not_mem_nil
  | cons d rest inductionHypothesis =>
      rw [pieces] at member
      by_cases here : d = separator
      · rw [if_pos here, List.mem_cons] at member
        rcases member with rfl | later
        · exact absurd inside List.not_mem_nil
        · exact (inductionHypothesis later inside).imp_left (List.mem_cons_of_mem d)
      · rw [if_neg here] at member
        obtain ⟨first, others, divided⟩ := List.exists_cons_of_ne_nil (pieces_ne_nil rest)
        rw [divided] at member inductionHypothesis
        rcases List.mem_cons.mp member with rfl | later
        · rcases List.mem_cons.mp inside with rfl | tail
          · exact ⟨List.mem_cons_self, here⟩
          · exact (inductionHypothesis List.mem_cons_self tail).imp_left (List.mem_cons_of_mem d)
        · exact (inductionHypothesis (List.mem_cons_of_mem first later) inside).imp_left
            (List.mem_cons_of_mem d)

/-- Every other character of the text is in some piece. -/
theorem exists_mem_piece {text : List Char} {c : Char} (member : c ∈ text)
    (other : c ≠ separator) : ∃ piece ∈ pieces separator text, c ∈ piece := by
  induction text with
  | nil => exact absurd member List.not_mem_nil
  | cons d rest inductionHypothesis =>
      rw [pieces]
      by_cases here : d = separator
      · rw [if_pos here]
        have later := (List.mem_cons.mp member).resolve_left fun same => other (same.trans here)
        obtain ⟨piece, found, inside⟩ := inductionHypothesis later
        exact ⟨piece, List.mem_cons_of_mem _ found, inside⟩
      · rw [if_neg here]
        obtain ⟨first, others, divided⟩ := List.exists_cons_of_ne_nil (pieces_ne_nil rest)
        rw [divided] at inductionHypothesis ⊢
        rcases List.mem_cons.mp member with rfl | later
        · exact ⟨_, List.mem_cons_self, List.mem_cons_self⟩
        · obtain ⟨piece, found, inside⟩ := inductionHypothesis later
          rcases List.mem_cons.mp found with rfl | tail
          · exact ⟨_, List.mem_cons_self, List.mem_cons_of_mem d inside⟩
          · exact ⟨piece, List.mem_cons_of_mem _ tail, inside⟩

theorem not_mem_of_mem_pieces {text piece : List Char} (member : piece ∈ pieces separator text) :
    separator ∉ piece :=
  fun inside => (mem_and_ne_of_mem_piece member inside).2 rfl

/-- What makes up the pieces of a text. -/
theorem pieces_eq_iff {text : List Char} {parts : List (List Char)} :
    pieces separator text = parts ↔
      parts ≠ [] ∧ (∀ part ∈ parts, separator ∉ part) ∧ [separator].intercalate parts = text := by
  rw [pieces_eq_splitOn]
  constructor
  · rintro rfl
    refine ⟨List.splitOn_ne_nil separator text, fun part member => ?_,
      List.intercalate_splitOn separator⟩
    rw [← pieces_eq_splitOn] at member
    exact not_mem_of_mem_pieces member
  · rintro ⟨given, free, rfl⟩
    exact List.splitOn_intercalate separator free given

end ReleaseVersion.Text
