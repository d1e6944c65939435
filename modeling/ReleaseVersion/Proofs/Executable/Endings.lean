import ReleaseVersion.Host.Script
import ReleaseVersion.Proofs.Executable.Running

/-!
# How runs end

An executable is run for its effect, with the streams of the program itself, or for the text it
prints, with nothing to read and its output collected.  Whether a process comes about does not
depend on its streams, so both ways fail to start for the same causes; a start that has failed is
told apart by a second look at the file: one that can be run is reported with the error of the
system, any other as not found, whatever that error is.  A process that has come about ends the
same both ways unless the program heeds its streams.
-/

namespace ReleaseVersion

namespace Host

/-- A program whose behaviour does not depend on where its streams lead or on what can be read. -/
def Program.Heedless (program : Program) : Prop :=
  ∀ invocation streams, program { invocation with streams := streams } = program invocation

theorem Script.heedless_program (script : Script) : script.program.Heedless :=
  fun _ _ => rfl

end Host

namespace Executable

open Host Text

variable {executable : Executable} {machine : Machine} {streams : Streams}
  {arguments : List String} {cause : SystemError} {completion seen collected : Completion}
  {ran : Except ExecutableFault Unit} {printed : Except ExecutableFault String}

/-! ## Starting -/

/-- What becomes of a process that was run for its effect. -/
inductive Effects (executable : Executable) (completion : Completion) :
    Except ExecutableFault Unit → Prop
  | well : completion.status = .exited 0 → Effects executable completion (.ok ())
  /-- It has ended with another code or by a signal. -/
  | badly :
      completion.status ≠ .exited 0 →
      Effects executable completion (.error (.failed executable.filename completion.status))

/-- What becomes of a process that was run for its text. -/
inductive Tells (executable : Executable) (completion : Completion) :
    Except ExecutableFault String → Prop
  | text {text : String} :
      completion.status = .exited 0 → completion.output = text.toUTF8 →
      Tells executable completion (.ok text)
  | notText :
      completion.status = .exited 0 → (∀ text : String, completion.output ≠ text.toUTF8) →
      Tells executable completion (.error (.outputNotText executable.filename))
  /-- It has ended with another code or by a signal, whatever it has printed. -/
  | badly :
      completion.status ≠ .exited 0 →
      Tells executable completion (.error (.failed executable.filename completion.status))

theorem Effects.unique {other : Except ExecutableFault Unit}
    (effects : executable.Effects completion ran)
    (effectsToo : executable.Effects completion other) : ran = other := by
  cases effects with
  | well success =>
      cases effectsToo with
      | well => rfl
      | badly failure => contradiction
  | badly failure =>
      cases effectsToo with
      | well success => contradiction
      | badly => rfl

theorem Tells.unique {other : Except ExecutableFault String}
    (tells : executable.Tells completion printed) (tellsToo : executable.Tells completion other) :
    printed = other := by
  cases tells with
  | text success isText =>
      cases tellsToo with
      | text _ isTextToo =>
          have decoded := fromUTF8?_eq_some_iff.mpr isText
          rw [Option.some.inj (decoded.symm.trans (fromUTF8?_eq_some_iff.mpr isTextToo))]
      | notText _ noText => exact absurd isText (noText _)
      | badly failure => contradiction
  | notText success noText =>
      cases tellsToo with
      | text _ isText => exact absurd isText (noText _)
      | notText => rfl
      | badly failure => contradiction
  | badly failure =>
      cases tellsToo with
      | text success => contradiction
      | notText success => contradiction
      | badly => rfl

/-! ## Both ways to run -/

/-- A program that fails unless there is something to read. -/
def reader : Program := fun invocation =>
  match invocation.streams.input with
  | .inherited content =>
    ⟨ByteArray.empty, ByteArray.empty, .exited (if content.isEmpty then 3 else 0)⟩
  | .null => ⟨ByteArray.empty, ByteArray.empty, .exited 3⟩

end Executable

end ReleaseVersion
