import ReleaseVersion.Host.Path
import ReleaseVersion.Host.Process

/-!
# Traces

What a computation does to the world beside coming to a result: the lines that it logs, the files
that it reads, looks up and starts, and what the programs that it has started write.  A traced
computation keeps these deeds in their order, whether it succeeds or fails.
-/

namespace ReleaseVersion.Host

/-- How much a line of the log matters. -/
inductive Severity where
  | debug
  | warn
deriving DecidableEq, Repr

/-- Something that a computation does. -/
inductive Deed where
  /-- It has a line for the log. -/
  | logged (severity : Severity) (message : String)
  /-- It reads a file. -/
  | read (path : Path)
  /-- It looks a name up, on a search path if there is one. -/
  | lookedUp (name : String) (searched : Option String)
  /-- It asks the system to start a file. -/
  | started (path : Path) (invocation : Invocation)
  /-- A program that it has started writes to the output that it has inherited. -/
  | wroteOutput (bytes : ByteArray)
  /-- A program that it has started writes to the stream of errors that it has inherited. -/
  | wroteErrors (bytes : ByteArray)

/-- A computation: what it does, and what it comes to. -/
structure Traced (ε α : Type) where
  deeds : List Deed
  result : Except ε α

namespace Traced

variable {ε δ α β : Type}

/-! ## Composing computations -/

/-- One computation after another, unless the first one fails. -/
def bind (first : Traced ε α) (next : α → Traced ε β) : Traced ε β :=
  match first.result with
  | .error fault => ⟨first.deeds, .error fault⟩
  | .ok value =>
    let rest := next value
    ⟨first.deeds ++ rest.deeds, rest.result⟩

instance : Monad (Traced ε) where
  pure value := ⟨[], .ok value⟩
  bind := Traced.bind

/-- A result without any deeds. -/
def ofExcept (result : Except ε α) : Traced ε α :=
  ⟨[], result⟩

/-- A failure. -/
def fail (fault : ε) : Traced ε α :=
  ofExcept (.error fault)

/-- A single deed. -/
def deed (done : Deed) : Traced ε Unit :=
  ⟨[done], .ok ()⟩

/-- A line for the log. -/
def log (severity : Severity) (message : String) : Traced ε Unit :=
  deed (.logged severity message)

/-- A computation, or another in its place when it fails. -/
def recover (first : Traced ε α) (next : ε → Traced δ α) : Traced δ α :=
  match first.result with
  | .ok value => ⟨first.deeds, .ok value⟩
  | .error fault =>
    let rest := next fault
    ⟨first.deeds ++ rest.deeds, rest.result⟩

/-- A computation with its failure told in another way. -/
def mapFault (tell : ε → δ) (first : Traced ε α) : Traced δ α :=
  ⟨first.deeds, first.result.mapError tell⟩

/-! ## Results -/

@[simp]
theorem result_pure (value : α) : (pure value : Traced ε α).result = .ok value :=
  rfl

@[simp]
theorem result_bind (first : Traced ε α) (next : α → Traced ε β) :
    (first >>= next).result = first.result >>= fun value => (next value).result := by
  show (first.bind next).result = _
  unfold bind
  cases first.result <;> rfl

@[simp]
theorem result_ofExcept (result : Except ε α) : (ofExcept result).result = result :=
  rfl

@[simp]
theorem result_fail (fault : ε) : (fail fault : Traced ε α).result = .error fault :=
  rfl

@[simp]
theorem result_deed (done : Deed) : (deed done : Traced ε Unit).result = .ok () :=
  rfl

@[simp]
theorem result_log (severity : Severity) (message : String) :
    (log severity message : Traced ε Unit).result = .ok () :=
  rfl

@[simp]
theorem result_mapFault (tell : ε → δ) (first : Traced ε α) :
    (first.mapFault tell).result = first.result.mapError tell :=
  rfl

/-! ## Deeds -/

@[simp]
theorem deeds_deed (done : Deed) : (deed done : Traced ε Unit).deeds = [done] :=
  rfl

@[simp]
theorem deeds_log (severity : Severity) (message : String) :
    (log severity message : Traced ε Unit).deeds = [.logged severity message] :=
  rfl

/-- The computation in the place of another does something only when that one fails. -/
@[simp]
theorem mem_deeds_recover {first : Traced ε α} {next : ε → Traced δ α} {done : Deed} :
    done ∈ (first.recover next).deeds ↔
      done ∈ first.deeds ∨ ∃ fault, first.result = .error fault ∧ done ∈ (next fault).deeds := by
  unfold recover
  cases first.result <;> simp

/-! ## Computations as a whole -/

end Traced

end ReleaseVersion.Host
