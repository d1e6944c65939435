import ReleaseVersion.Text.Invisible

/-!
# Quoted text

Text as messages show it: between double quotes, with a backslash before a quote or a backslash,
short escapes for tab, line ends and the zero character, and the code point in braces for every
other character that would not show.
-/

namespace ReleaseVersion.Text

/-- Whether a character can be read on a line by itself. -/
def shows (c : Char) : Bool :=
  let n := c.toNat
  if n < 0x7F then 0x20 ≤ n else !extending.has n && !shapeless.has n

/-- One character inside quotes. -/
def quotedChar (c : Char) : List Char :=
  if c = '"' then ['\\', '"']
  else if c = '\\' then ['\\', '\\']
  else if c = '\t' then ['\\', 't']
  else if c = '\r' then ['\\', 'r']
  else if c = '\n' then ['\\', 'n']
  else if c = '\x00' then ['\\', '0']
  else if shows c then [c]
  else ['\\', 'u', '\x7b'] ++ Nat.toDigits 16 c.toNat ++ ['\x7d']

/-- The text between double quotes. -/
def quoted (text : String) : String :=
  String.ofList ('"' :: text.toList.flatMap quotedChar ++ ['"'])

end ReleaseVersion.Text
