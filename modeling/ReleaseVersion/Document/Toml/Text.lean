import ReleaseVersion.Text.Hex

/-!
# Strings and blanks of TOML documents

What may stand between the parts of a document, and the four kinds of strings.  A string of several
lines starts after the first line end, has its line ends normalised, and may hold one or two quotes
in a row, also directly before its closing quotes.
-/

namespace ReleaseVersion.Document.Toml

open Text

/-! ## Blanks and comments -/

/-- Blanks within a line. -/
def isBlank (c : Char) : Bool :=
  c = ' ' || c = '\t'

/-- The text after blanks. -/
def skipBlanks (text : List Char) : List Char :=
  text.dropWhile isBlank

/-- Characters that may stand in a comment or, apart from quotes and escapes, in a string. -/
def isPlain (c : Char) : Bool :=
  c = '\t' || (0x20 ≤ c.toNat && c.toNat ≠ 0x7F)

/-- The text after a line end, when one comes next. -/
def lineEnd? : List Char → Option (List Char)
  | '\n' :: rest => some rest
  | '\r' :: '\n' :: rest => some rest
  | _ => none

/-- The text after the rest of a line that holds nothing but blanks and a comment. -/
def finishLine (inComment : Bool) : List Char → Option (List Char)
  | [] => some []
  | '\n' :: rest => some rest
  | '\r' :: '\n' :: rest => some rest
  | c :: rest =>
    if inComment then if isPlain c then finishLine true rest else none
    else if isBlank c then finishLine false rest
    else if c = '#' then finishLine true rest
    else none

/-- The text after blanks, line ends and comments. -/
def skipFill (inComment : Bool) : List Char → Option (List Char)
  | [] => some []
  | '\n' :: rest => skipFill false rest
  | '\r' :: '\n' :: rest => skipFill false rest
  | c :: rest =>
    if inComment then if isPlain c then skipFill true rest else none
    else if isBlank c then skipFill false rest
    else if c = '#' then skipFill true rest
    else some (c :: rest)

/-! ## Strings -/

/-- The character that a one-letter escape stands for. -/
def escaped? : Char → Option Char
  | 'b' => some '\x08'
  | 't' => some '\t'
  | 'n' => some '\n'
  | 'f' => some '\x0c'
  | 'r' => some '\r'
  | '"' => some '"'
  | '\\' => some '\\'
  | _ => none

/-- Puts a character in front of what was read, when there is one. -/
def prepend (c? : Option Char) (read : Option (List Char × List Char)) :
    Option (List Char × List Char) := do
  let c ← c?
  let (content, rest) ← read
  some (c :: content, rest)

/-- Reads the rest of a string between double quotes. -/
def readBasic : List Char → Option (List Char × List Char)
  | [] => none
  | '"' :: rest => some ([], rest)
  | '\\' :: 'u' :: a :: b :: c :: d :: rest => prepend (hexChar? [a, b, c, d]) (readBasic rest)
  | '\\' :: 'U' :: a :: b :: c :: d :: e :: f :: g :: h :: rest =>
      prepend (hexChar? [a, b, c, d, e, f, g, h]) (readBasic rest)
  | '\\' :: c :: rest => prepend (escaped? c) (readBasic rest)
  | c :: rest => if isPlain c then prepend (some c) (readBasic rest) else none

/-- Reads the rest of a string between single quotes, which has no escapes. -/
def readLiteralString : List Char → Option (List Char × List Char)
  | [] => none
  | '\'' :: rest => some ([], rest)
  | c :: rest => if isPlain c then prepend (some c) (readLiteralString rest) else none

/-- Up to two quotes that stand before the closing quotes of a long string belong to it. -/
def closeLong (quote : Char) (rest : List Char) : List Char × List Char :=
  let run := (rest.takeWhile (· = quote)).length
  let kept := min run 2
  (List.replicate kept quote, rest.drop kept)

/-- Whether nothing but blanks is left of a line. -/
def isLineOver (text : List Char) : Bool :=
  (lineEnd? (skipBlanks text)).isSome

/-- Reads the rest of a string between three double quotes.  While `trimming`, which an escaped
line end starts, blanks and line ends are passed over. -/
def readLongBasic (trimming : Bool) : List Char → Option (List Char × List Char)
  | [] => none
  | '"' :: '"' :: '"' :: rest => some (closeLong '"' rest)
  | '\n' :: rest =>
      if trimming then readLongBasic true rest else prepend (some '\n') (readLongBasic false rest)
  | '\r' :: '\n' :: rest =>
      if trimming then readLongBasic true rest else prepend (some '\n') (readLongBasic false rest)
  | '\\' :: 'u' :: a :: b :: c :: d :: rest =>
      prepend (hexChar? [a, b, c, d]) (readLongBasic false rest)
  | '\\' :: 'U' :: a :: b :: c :: d :: e :: f :: g :: h :: rest =>
      prepend (hexChar? [a, b, c, d, e, f, g, h]) (readLongBasic false rest)
  | '\\' :: c :: rest =>
      if isLineOver (c :: rest) then readLongBasic true (c :: rest)
      else prepend (escaped? c) (readLongBasic false rest)
  | c :: rest =>
      if trimming && isBlank c then readLongBasic true rest
      else if isPlain c then prepend (some c) (readLongBasic false rest)
      else none

/-- Reads the rest of a string between three single quotes. -/
def readLongLiteral : List Char → Option (List Char × List Char)
  | [] => none
  | '\'' :: '\'' :: '\'' :: rest => some (closeLong '\'' rest)
  | '\n' :: rest => prepend (some '\n') (readLongLiteral rest)
  | '\r' :: '\n' :: rest => prepend (some '\n') (readLongLiteral rest)
  | c :: rest => if isPlain c then prepend (some c) (readLongLiteral rest) else none

/-- The text without a line end at its start. -/
def dropLineEnd (text : List Char) : List Char :=
  (lineEnd? text).getD text

/-- Reads a string of one line. -/
def readShortString : List Char → Option (List Char × List Char)
  | '"' :: rest => readBasic rest
  | '\'' :: rest => readLiteralString rest
  | _ => none

/-- Reads a string of any kind. -/
def readString : List Char → Option (List Char × List Char)
  | '"' :: '"' :: '"' :: rest => readLongBasic false (dropLineEnd rest)
  | '\'' :: '\'' :: '\'' :: rest => readLongLiteral (dropLineEnd rest)
  | text => readShortString text

/-! ## Keys -/

/-- Characters of a key without quotes. -/
def isBareKey (c : Char) : Bool :=
  c.isAlphanum || c = '_' || c = '-'

/-- Reads one part of a key. -/
def readKeyPart (text : List Char) : Option (List Char × List Char) :=
  match text with
  | '"' :: _ | '\'' :: _ => readShortString text
  | _ =>
    match text.takeWhile isBareKey with
    | [] => none
    | name => some (name, text.dropWhile isBareKey)

end ReleaseVersion.Document.Toml
