/-!
# White space

The characters with the Unicode property `White_Space`, and the text that is left when runs of
them are taken from both ends.  Nothing is ever removed from the inside of a text.
-/

namespace ReleaseVersion.Text

/-- The characters with the property `White_Space`. -/
def isWhite (c : Char) : Bool :=
  let n := c.toNat
  (9 ≤ n && n ≤ 13) || n == 0x20 || n == 0x85 || n == 0xA0 || n == 0x1680 ||
    (0x2000 ≤ n && n ≤ 0x200A) || n == 0x2028 || n == 0x2029 || n == 0x202F || n == 0x205F ||
    n == 0x3000

/-- The text without its leading white space. -/
def trimStart (text : List Char) : List Char :=
  text.dropWhile isWhite

/-- The text without its trailing white space. -/
def trimEnd : List Char → List Char
  | [] => []
  | c :: rest =>
    match trimEnd rest with
    | [] => if isWhite c then [] else [c]
    | kept => c :: kept

/-- The text without white space at either end. -/
def trim (text : List Char) : List Char :=
  trimEnd (trimStart text)

@[simp]
theorem trim_nil : trim [] = [] :=
  rfl

/-- Every character that core's ASCII class calls white is white here. -/
theorem isWhite_of_isWhitespace {c : Char} (white : c.isWhitespace = true) :
    isWhite c = true := by
  simp only [Char.isWhitespace, Bool.or_eq_true, decide_eq_true_eq] at white
  rcases white with ((white | white) | white) | white <;> subst white <;> decide

/-- A text that starts with a character that is not white keeps its start. -/
theorem trimStart_cons_of_not_white {c : Char} (rest : List Char) (solid : isWhite c = false) :
    trimStart (c :: rest) = c :: rest := by
  simp [trimStart, solid]

/-- A text that ends with a character that is not white keeps its end. -/
theorem trimEnd_concat_of_not_white {c : Char} (front : List Char) (solid : isWhite c = false) :
    trimEnd (front ++ [c]) = front ++ [c] := by
  induction front with
  | nil => simp [trimEnd, solid]
  | cons d front inductionHypothesis =>
      rw [List.cons_append, trimEnd, inductionHypothesis]
      cases front <;> rfl

end ReleaseVersion.Text
