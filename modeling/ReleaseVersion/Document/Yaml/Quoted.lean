import ReleaseVersion.Document.Yaml.Plain
import ReleaseVersion.Text.Hex

/-!
# Quoted scalars

Between single quotes a quote is written twice and nothing else is special.  Between double quotes
a backslash starts an escape, also of a line end.  Both kinds are folded like plain scalars, and
neither may hold the mark of a document at the start of a line.
-/

namespace ReleaseVersion.Document.Yaml

open Text

/-- The character that a one-letter escape stands for. -/
def escaped? : Char → Option Char
  | '0' => some '\x00'
  | 'a' => some '\x07'
  | 'b' => some '\x08'
  | 't' => some '\t'
  | '\t' => some '\t'
  | 'n' => some '\n'
  | 'v' => some '\x0b'
  | 'f' => some '\x0c'
  | 'r' => some '\r'
  | 'e' => some '\x1b'
  | ' ' => some ' '
  | '"' => some '"'
  | '/' => some '/'
  | '\\' => some '\\'
  | 'N' => some (Char.ofNat 0x85)
  | '_' => some (Char.ofNat 0xA0)
  | 'L' => some (Char.ofNat 0x2028)
  | 'P' => some (Char.ofNat 0x2029)
  | _ => none

/-- Reads the rest of a scalar between single quotes. -/
def readSingle (words : Words) (mark : Mark) : List Char → Option (Words × Cursor)
  | [] => none
  | '\r' :: '\n' :: rest =>
    readSingle { words with gap := words.gap.addBreak '\n' } (mark.newLine 2) rest
  | '\'' :: '\'' :: rest => readSingle (words.add '\'') (mark.skip 2) rest
  | '\'' :: rest => some (words.close, ⟨mark.skip 1, rest⟩)
  | c :: rest =>
    if isBlank c then
      readSingle { words with gap := words.gap.addBlank c } (mark.skip 1) rest
    else if isBreak c then
      readSingle { words with gap := words.gap.addBreak (breakText c) } (mark.newLine 1) rest
    else if mark.column = 0 && atDocumentMark (c :: rest) then none
    else readSingle (words.add c) (mark.skip 1) rest

/-- Reads the rest of a scalar between double quotes. -/
def readDouble (words : Words) (mark : Mark) : List Char → Option (Words × Cursor)
  | [] => none
  | '\r' :: '\n' :: rest =>
    readDouble { words with gap := words.gap.addBreak '\n' } (mark.newLine 2) rest
  | '"' :: rest => some (words.close, ⟨mark.skip 1, rest⟩)
  | '\\' :: '\r' :: '\n' :: rest =>
    readDouble ⟨words.close.text, Gap.escaped⟩ ((mark.skip 1).newLine 2) rest
  | '\\' :: 'x' :: a :: b :: rest =>
    match hexChar? [a, b] with
    | some c => readDouble (words.add c) (mark.skip 4) rest
    | none => none
  | '\\' :: 'u' :: a :: b :: c :: d :: rest =>
    match hexChar? [a, b, c, d] with
    | some c => readDouble (words.add c) (mark.skip 6) rest
    | none => none
  | '\\' :: 'U' :: a :: b :: c :: d :: e :: f :: g :: h :: rest =>
    match hexChar? [a, b, c, d, e, f, g, h] with
    | some c => readDouble (words.add c) (mark.skip 10) rest
    | none => none
  | '\\' :: c :: rest =>
    if isBreak c then
      readDouble ⟨words.close.text, Gap.escaped⟩ ((mark.skip 1).newLine 1) rest
    else
      match escaped? c with
      | some c => readDouble (words.add c) (mark.skip 2) rest
      | none => none
  | c :: rest =>
    if isBlank c then
      readDouble { words with gap := words.gap.addBlank c } (mark.skip 1) rest
    else if isBreak c then
      readDouble { words with gap := words.gap.addBreak (breakText c) } (mark.newLine 1) rest
    else if mark.column = 0 && atDocumentMark (c :: rest) then none
    else readDouble (words.add c) (mark.skip 1) rest

end ReleaseVersion.Document.Yaml
