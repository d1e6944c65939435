/-!
# System errors

What the host answers when it cannot do what was asked.  The first group are the kernel's errors,
which are shown with their number; the others arise before or after the kernel is asked.
-/

namespace ReleaseVersion.Host

/-- A refusal by the host. -/
inductive SystemError where
  | noEntry
  | badFormat
  | permissionDenied
  | exists
  | notDirectory
  | isDirectory
  | nameTooLong
  | linkLoop
  /-- An argument or a variable holds a zero character. -/
  | zeroCharacter
  /-- A file name holds a zero character. -/
  | zeroInFileName
  /-- The content of a file is not text. -/
  | notText
  /-- Any other error of the kernel, by its wording and its number. -/
  | other (what : String) (number : Nat)
deriving DecidableEq, Repr

namespace SystemError

/-- A kernel error with its number. -/
def numbered (what : String) (number : Nat) : String :=
  what ++ " (os error " ++ toString number ++ ")"

/-- The wording of each refusal. -/
def message : SystemError → String
  | noEntry => numbered "No such file or directory" 2
  | badFormat => numbered "Exec format error" 8
  | permissionDenied => numbered "Permission denied" 13
  | «exists» => numbered "File exists" 17
  | notDirectory => numbered "Not a directory" 20
  | isDirectory => numbered "Is a directory" 21
  | nameTooLong => numbered "File name too long" 36
  | linkLoop => numbered "Too many levels of symbolic links" 40
  | zeroCharacter => "nul byte found in provided data"
  | zeroInFileName => "file name contained an unexpected NUL byte"
  | notText => "stream did not contain valid UTF-8"
  | other what number => numbered what number

end SystemError

end ReleaseVersion.Host
