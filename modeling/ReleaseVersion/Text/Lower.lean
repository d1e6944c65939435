import ReleaseVersion.Text.CaseTable

/-!
# Lower-casing

Full lower-casing of a text.  Every character has a lower-case form of its own, except capital
sigma: it becomes the final form at the end of a word, that is when a cased letter comes before it
and none after it, case-ignorable characters apart.
-/

namespace ReleaseVersion.Text

/-- The lower-case form of a character other than capital sigma: itself when it has no partner,
and two characters for the dotted capital I. -/
def lowerChar (c : Char) : List Char :=
  let n := c.toNat
  if n = 0x130 then ['i', Char.ofNat 0x307]
  else
    match caseRuns.findSome? (·.lower? n) with
    | some m => [Char.ofNat m]
    | none => [c]

/-- Whether the first character that is not case-ignorable is cased. -/
def startsCased (text : List Char) : Bool :=
  match text.dropWhile fun c => caseIgnorable.has c.toNat with
  | c :: _ => cased.has c.toNat
  | [] => false

/-- Lower-cases a text of which `before` has been read, last character first. -/
def lowerAfter (before : List Char) : List Char → List Char
  | [] => []
  | c :: rest =>
    let form :=
      if c = 'Σ' then
        if startsCased before && !startsCased rest then ['ς'] else ['σ']
      else lowerChar c
    form ++ lowerAfter (c :: before) rest

/-- The lower-case form of a text. -/
def lower (text : List Char) : List Char :=
  lowerAfter [] text

/-- The text with ASCII capitals made small and all else left alone. -/
def asciiLower (text : List Char) : List Char :=
  text.map Char.toLower

@[simp]
theorem lower_nil : lower [] = [] :=
  rfl

end ReleaseVersion.Text
