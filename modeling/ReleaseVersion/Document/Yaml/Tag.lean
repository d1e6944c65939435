import ReleaseVersion.Document.Yaml.Cursor
import ReleaseVersion.Text.Hex

/-!
# Tags and directives

A tag names the kind of a node.  It is written in full between angle brackets, or as a handle, for
which a directive or a custom of the notation puts a longer text, and the rest.  Directives stand
before a document and state the version of the notation or give a handle its text.
-/

namespace ReleaseVersion.Document.Yaml

open Text

/-! ## Tags as written -/

/-- A tag: a handle, which is empty for a tag in full, and the rest. -/
structure Tag where
  handle : String
  rest : String
deriving DecidableEq, Repr

/-- Characters of tags that stand for themselves; commas and square brackets do so only where
`wide` is set. -/
def isTagChar (wide : Bool) (c : Char) : Bool :=
  isNameChar c || ";/?:@&=+$.!~*'()".toList.contains c || (wide && ",[]".toList.contains c)

/-- A character of which some octets are still to come: their number, and the bits so far. -/
structure Unfinished where
  missing : Nat
  bits : Nat
deriving DecidableEq, Repr

/-- What the first octet of a character promises. -/
def firstOctet? (octet : Nat) : Option Unfinished :=
  if octet < 0x80 then some ⟨0, octet⟩
  else if octet / 0x20 = 6 then some ⟨1, octet % 0x20⟩
  else if octet / 0x10 = 14 then some ⟨2, octet % 0x10⟩
  else if octet / 0x08 = 30 then some ⟨3, octet % 0x08⟩
  else none

/-- The character with one more octet. -/
def Unfinished.more? (part : Unfinished) (octet : Nat) : Option Unfinished :=
  if octet / 0x40 = 2 then some ⟨part.missing - 1, part.bits * 0x40 + octet % 0x40⟩ else none

/-- Reads the text of a tag, last character in front.  A percent sign starts an octet in two
digits; octets that belong to one character stand together. -/
def readTagText (wide : Bool) (text : List Char) (pending : Option Unfinished) (mark : Mark) :
    List Char → Option (List Char × Cursor)
  | '%' :: a :: b :: rest => do
    let octet ← hexValue? [a, b]
    let part ← match pending with
      | none => firstOctet? octet
      | some part => part.more? octet
    if part.missing = 0 then
      readTagText wide (Char.ofNat part.bits :: text) none (mark.skip 3) rest
    else readTagText wide text (some part) (mark.skip 3) rest
  | '%' :: _ => none
  | c :: rest =>
    if pending.isSome then none
    else if isTagChar wide c then readTagText wide (c :: text) none (mark.skip 1) rest
    else some (text, ⟨mark, c :: rest⟩)
  | [] => if pending.isSome then none else some (text, ⟨mark, []⟩)

/-- Reads the text of a tag after its beginning; together they are not empty. -/
def readTagRest (wide : Bool) (beginning : List Char) (cursor : Cursor) :
    Option (String × Cursor) := do
  let (text, cursor) ← readTagText wide beginning.reverse none cursor.mark cursor.rest
  some (String.ofList text.reverse, cursor)

/-- Reads the exclamation mark of a handle, the name after it, and the second exclamation mark if
one follows. -/
def readHandle (cursor : Cursor) : Option (List Char × Cursor) :=
  match cursor.rest with
  | '!' :: _ =>
    let (name, cursor) := (cursor.skip 1).span isNameChar
    match cursor.rest with
    | '!' :: _ => some ('!' :: name ++ ['!'], cursor.skip 1)
    | _ => some ('!' :: name, cursor)
  | _ => none

/-- Whether a handle has two exclamation marks. -/
def isFullHandle (handle : List Char) : Bool :=
  2 ≤ handle.length && handle.getLast? = some '!'

/-- Reads a tag, which ends before a gap or, in brackets, before a comma. -/
def readTag (flow : Bool) (cursor : Cursor) : Option (Tag × Cursor) := do
  let (tag, cursor) ← match cursor.rest with
    | '!' :: '<' :: _ => do
      let (text, cursor) ← readTagRest true [] (cursor.skip 2)
      if text = "" ∨ cursor.rest.head? ≠ some '>' then none
      else some ((⟨"", text⟩ : Tag), cursor.skip 1)
    | _ => do
      let (handle, cursor) ← readHandle cursor
      if isFullHandle handle then
        let (text, cursor) ← readTagRest false [] cursor
        if text = "" then none else some ((⟨String.ofList handle, text⟩ : Tag), cursor)
      else
        let (text, cursor) ← readTagRest false (handle.drop 1) cursor
        some (if text = "" then (⟨"", "!"⟩ : Tag) else ⟨"!", text⟩, cursor)
  if atGap cursor.rest || (flow && cursor.rest.head? = some ',') then some (tag, cursor) else none

/-! ## Directives -/

/-- What is stated before a document. -/
inductive Directive where
  /-- The version of the notation. -/
  | version (major minor : Nat)
  /-- The text that a handle stands for. -/
  | handle (handle text : String)
deriving DecidableEq, Repr

/-- Reads a number of at most nine digits. -/
def readVersionPart (cursor : Cursor) : Option (Nat × Cursor) :=
  let (digits, cursor) := cursor.span Char.isDigit
  if digits = [] ∨ 9 < digits.length then none else some (Nat.ofDigitChars 10 digits 0, cursor)

/-- Reads what follows the name of a version directive. -/
def readVersionDirective (cursor : Cursor) : Option (Directive × Cursor) := do
  let (major, cursor) ← readVersionPart cursor.skipBlanks
  if cursor.rest.head? ≠ some '.' then none
  else
    let (minor, cursor) ← readVersionPart (cursor.skip 1)
    some (.version major minor, cursor)

/-- Reads what follows the name of a handle directive. -/
def readHandleDirective (cursor : Cursor) : Option (Directive × Cursor) := do
  let (handle, cursor) ← readHandle cursor.skipBlanks
  let isHandle := handle = ['!'] || isFullHandle handle
  if !isHandle || !(cursor.rest.head?.any isBlank) then none
  else
    let (text, cursor) ← readTagRest true [] cursor.skipBlanks
    if text = "" || !atGap cursor.rest then none
    else some (.handle (String.ofList handle) text, cursor)

/-- Reads a directive after its percent sign, and the rest of its line. -/
def readDirective (cursor : Cursor) : Option (Directive × Cursor) := do
  let (name, cursor) := cursor.span isNameChar
  if !atGap cursor.rest then none
  else
    let (directive, cursor) ← match String.ofList name with
      | "YAML" => readVersionDirective cursor
      | "TAG" => readHandleDirective cursor
      | _ => none
    some (directive, ← cursor.finishLine?)

/-! ## Tags in full -/

/-- The handles that need no directive. -/
def customaryHandles : List (String × String) :=
  [("!", "!"), ("!!", "tag:yaml.org,2002:")]

/-- The full text of a tag, where directives have given `handles` their texts. -/
def Tag.full? (handles : List (String × String)) (tag : Tag) : Option String :=
  if tag.handle = "" then some tag.rest
  else ((handles ++ customaryHandles).lookup tag.handle).map (· ++ tag.rest)

/-- The handles that directives give a text to.  A version may be stated only once and has to be
a known one, and a handle may be given a text only once. -/
def handlesOf (directives : List Directive) : Option (List (String × String)) :=
  let handles := directives.filterMap fun
    | .handle handle text => some (handle, text)
    | .version _ _ => none
  let versions := directives.filterMap fun
    | .version major minor => some (major, minor)
    | .handle _ _ => none
  if versions.length ≤ 1 && versions.all (fun v => v = (1, 1) || v = (1, 2)) &&
      decide (handles.map Prod.fst).Nodup then some handles
  else none

end ReleaseVersion.Document.Yaml
