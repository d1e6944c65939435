/-!
# Dates and times of TOML documents

A moment is a date, a time, or a date with a time and perhaps an offset.  Only its extent matters
here, but its parts have to be in range.  Some beginnings leave no doubt that a moment is meant: a
mistake after them is a mistake of the document, while a text without such a beginning may still
be a number.
-/

namespace ReleaseVersion.Document.Toml

/-- The outcome of looking for something. -/
inductive Attempt where
  /-- It is there, and this text follows. -/
  | found (rest : List Char)
  /-- It is not there. -/
  | absent
  /-- It starts there but is broken. -/
  | broken
deriving DecidableEq, Repr

/-- A number of exactly so many digits. -/
def fixedDigits (count : Nat) (text : List Char) : Option (Nat × List Char) :=
  let digits := text.take count
  if digits.length = count ∧ digits.all Char.isDigit then
    some (Nat.ofDigitChars 10 digits 0, text.drop count)
  else none

/-- A number of two digits between two limits. -/
def twoDigits (low high : Nat) (text : List Char) : Option (Nat × List Char) :=
  (fixedDigits 2 text).filter fun read => low ≤ read.1 && read.1 ≤ high

/-- The text after a character that has to come next. -/
def expect (c : Char) : List Char → Option (List Char)
  | d :: rest => if c = d then some rest else none
  | [] => none

/-- The number of days of a month. -/
def daysOf (year month : Nat) : Nat :=
  let leap := year % 4 = 0 ∧ (year % 100 ≠ 0 ∨ year % 400 = 0)
  if month = 2 then if leap then 29 else 28
  else if month = 4 ∨ month = 6 ∨ month = 9 ∨ month = 11 then 30
  else 31

/-- Month and day, after a year and a dash. -/
def finishDate (year : Nat) (text : List Char) : Option (List Char) := do
  let (month, text) ← twoDigits 1 12 text
  let text ← expect '-' text
  let (_, text) ← twoDigits 1 (daysOf year month) text
  some text

/-- A date. -/
def readDate (text : List Char) : Attempt :=
  match fixedDigits 4 text with
  | some (year, '-' :: rest) =>
    match finishDate year rest with
    | some rest => .found rest
    | none => .broken
  | _ => .absent

/-- The text after a fraction of a second. -/
def skipFraction (text : List Char) : List Char :=
  match text with
  | '.' :: digit :: rest => if digit.isDigit then rest.dropWhile Char.isDigit else text
  | _ => text

/-- Minute and second, after an hour and a colon. -/
def finishTime (text : List Char) : Option (List Char) := do
  let (_, text) ← twoDigits 0 59 text
  let text ← expect ':' text
  let (_, text) ← twoDigits 0 60 text
  some (skipFraction text)

/-- A time. -/
def readTime (text : List Char) : Attempt :=
  match twoDigits 0 23 text with
  | some (_, ':' :: rest) =>
    match finishTime rest with
    | some rest => .found rest
    | none => .broken
  | _ => .absent

/-- Hour and minute of an offset, after its sign. -/
def finishOffset (text : List Char) : Option (List Char) := do
  let (_, text) ← twoDigits 0 23 text
  let text ← expect ':' text
  let (_, text) ← twoDigits 0 59 text
  some text

/-- An offset, which may be missing. -/
def readOffset (text : List Char) : Attempt :=
  match text with
  | 'Z' :: rest | 'z' :: rest => .found rest
  | '+' :: rest | '-' :: rest =>
    match finishOffset rest with
    | some rest => .found rest
    | none => .broken
  | _ => .found text

/-- A moment. -/
def readMoment (text : List Char) : Attempt :=
  match readDate text with
  | .absent => readTime text
  | .broken => .broken
  | .found rest =>
    match rest with
    | c :: after =>
      if c = 'T' ∨ c = 't' ∨ c = ' ' then
        match readTime after with
        | .found rest => readOffset rest
        | .absent => .found rest
        | .broken => .broken
      else .found rest
    | [] => .found rest

end ReleaseVersion.Document.Toml
