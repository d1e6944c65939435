import ReleaseVersion.Client
import ReleaseVersion.Proofs.Entries
import ReleaseVersion.Proofs.Executable.Overrides
import ReleaseVersion.Proofs.Executable.Running

/-!
# What a child is shown

The environment of a process that an executable is run as, said by what the process can look up in
it.  Overriding variables are the whole of it as far as they have a value, wherever the executable
was made and wherever it is run; without them it is the environment of the machine.  Each way of
running sees the program at work in that environment and nowhere else.
-/

namespace ReleaseVersion

open Host Text

/-- Variables that a process can be given: of different names that are neither empty nor hold an
equals sign, and without the zero character. -/
structure Variables.Proper (values : Variables) : Prop where
  keyed : (values.map Prod.fst).Nodup
  named : ∀ entry ∈ values, entry.1 ≠ "" ∧ '=' ∉ entry.1.toList
  zeroFree : ∀ entry ∈ values, '\x00' ∉ entry.1.toList ∧ '\x00' ∉ entry.2.toList

/-- The environment holds those of the variables that have a value, each once, and nothing else. -/
structure Host.Environment.Shows (environment : Environment) (values : Variables) : Prop where
  keyed : (environment.map Prod.fst).Nodup
  value?_eq_some_iff : ∀ name value,
    environment.value? name = some value ↔
      ∃ text, (name, text) ∈ values ∧ text ≠ "" ∧ text.toUTF8 = value

namespace Executable

variable {executable : Executable} {machine : Machine} {arguments : List String}
  {overrides : Option Variables} {values : Variables} {completion : Completion}

/-! ## Where executables come from -/

/-- The executables that are made with the overriding variables: from a path, or by looking a name
up on some machine. -/
inductive Built (overrides : Option Variables) : Executable → Prop
  | path (filename : Path) {executable : Executable} :
      ofPath filename overrides = .ok executable → Built overrides executable
  | name {machine : Machine} {name : String} {executable : Executable} :
      find machine name overrides = .ok executable → Built overrides executable

theorem overrides_of_ofPath {filename : Path}
    (made : ofPath filename overrides = .ok executable) :
    executable.overrides = overrides.map given := by
  rw [ofPath] at made
  split at made
  · contradiction
  · split at made
    · contradiction
    · cases made
      rfl

theorem exists_ofPath_of_find {name : String}
    (found : find machine name overrides = .ok executable) :
    ∃ filename, ofPath filename overrides = .ok executable := by
  by_cases empty : name.isEmpty = true
  · rw [find_of_isEmpty empty] at found
    contradiction
  · rw [find_of_given empty] at found
    cases located : locate? machine name.toList (searchPath machine overrides) with
    | none =>
        rw [located] at found
        contradiction
    | some filename =>
        rw [located] at found
        exact ⟨filename, found⟩

theorem Built.overrides_eq (built : Built overrides executable) :
    executable.overrides = overrides.map given := by
  cases built with
  | path filename made => exact overrides_of_ofPath made
  | name found =>
      obtain ⟨filename, made⟩ := exists_ofPath_of_find found
      exact overrides_of_ofPath made

/-! ## The environment -/

theorem mem_given_iff {name text : String} :
    (name, text) ∈ given values ↔ (name, text) ∈ values ∧ text ≠ "" := by
  simp [given]

theorem shows_given (proper : values.Proper) :
    Environment.Shows ((given values).map fun entry => (entry.1, entry.2.toUTF8)) values := by
  have keyed : (((given values).map fun entry => (entry.1, entry.2.toUTF8)).map
      Prod.fst).Nodup := by
    rw [List.map_map]
    exact proper.keyed.sublist (List.filter_sublist.map _)
  constructor
  · exact keyed
  · intro name value
    rw [Environment.value?, lookup_eq_some_iff_mem keyed, List.mem_map]
    constructor
    · rintro ⟨⟨first, text⟩, member, same⟩
      cases same
      obtain ⟨inside, filled⟩ := mem_given_iff.mp member
      exact ⟨text, inside, filled, rfl⟩
    · rintro ⟨text, inside, filled, rfl⟩
      exact ⟨(name, text), mem_given_iff.mpr ⟨inside, filled⟩, rfl⟩

theorem Built.environment_of_some (built : Built (some values) executable) (machine : Machine) :
    executable.environment machine =
      (given values).map fun entry => (entry.1, entry.2.toUTF8) := by
  rw [environment, built.overrides_eq]
  rfl

theorem Built.environment_of_none (built : Built none executable) (machine : Machine) :
    executable.environment machine = machine.environment := by
  rw [environment, built.overrides_eq]
  rfl

/-! ## Children -/

/-- Nothing that a built executable is given holds the zero character unless an argument does. -/
theorem Built.zeroFree (built : Built overrides executable)
    (proper : ∀ values, overrides = some values → values.Proper)
    (named : '\x00' ∉ executable.filename)
    (clean : ∀ argument ∈ arguments, '\x00' ∉ argument.toList) :
    executable.ZeroFree arguments where
  filename := named
  arguments := clean
  overrides := by
    rintro kept same ⟨name, text⟩ member
    rw [built.overrides_eq, Option.map_eq_some_iff] at same
    obtain ⟨values, held, rfl⟩ := same
    exact (proper values held).zeroFree _ (mem_given_iff.mp member).1

/-- A program that the executable holds is started with the arguments and the environment. -/
theorem Built.runs_of_holds (built : Built overrides executable)
    (proper : ∀ values, overrides = some values → values.Proper) {behaviour : Program}
    (holds : executable.Holds machine behaviour)
    (clean : ∀ argument ∈ arguments, '\x00' ∉ argument.toList) (streams : Streams) :
    executable.Runs machine streams arguments
      (behaviour ⟨arguments, executable.environment machine, streams⟩) := by
  have held := holds
  obtain ⟨file, leads, -, -⟩ := held
  exact .program (built.zeroFree proper leads.zeroFree clean) holds

/-! ## What is made of a child -/

/-- What a child leaves behind counts if its status is zero. -/
def judged (executable : Executable) (completion : Completion) :
    Except ExecutableFault Completion :=
  if completion.status = .exited 0 then .ok completion
  else .error (.failed executable.filename completion.status)

/-- The text that a child has printed. -/
def printed (executable : Executable) (completion : Completion) :
    Except ExecutableFault String := do
  let ended ← executable.judged completion
  match String.fromUTF8? ended.output with
  | some text => .ok text
  | none => .error (.outputNotText executable.filename)

/-- The version that a child has told. -/
def told (executable : Executable) (completion : Completion) :
    Except ExecutableFault Version := do
  let text ← executable.printed completion
  match Version.read (trim text.toList) with
  | .ok version => .ok version
  | .error fault => .error (.badVersion executable.filename fault)

/-- The executable with its version, unless a pattern refuses that. -/
def accepted (executable : Executable) (requested : Option Number) (found : Version) :
    Except ExecutableFault (Executable × Version) :=
  match requested with
  | none => .ok (executable, found)
  | some pattern =>
    if pattern.accepts found.number then .ok (executable, found)
    else .error (.mismatch pattern found)

theorem run_of_runs
    (runs : executable.Runs machine (.inherited machine.input) arguments completion) :
    executable.run machine arguments = (executable.judged completion).map fun _ => () := by
  have started : executable.start machine (streams machine false) arguments = .ok completion :=
    start_eq_ok_iff.mpr runs
  rw [run_eq, invoke_of_started started, result_collecting, judged]
  simp only [Status.isSuccess_eq_true_iff]
  split <;> rfl

theorem output_of_runs_captured (runs : executable.Runs machine .captured arguments completion) :
    executable.output machine arguments = executable.printed completion := by
  have started : executable.start machine (streams machine true) arguments = .ok completion :=
    start_eq_ok_iff.mpr runs
  rw [output_eq, invoke_of_started started, result_collecting, printed, judged]
  simp only [Status.isSuccess_eq_true_iff]
  split <;> rfl

theorem version_of_runs_captured
    (runs : executable.Runs machine .captured ["version"] completion) :
    executable.version machine = executable.told completion := by
  rw [version_eq, output_of_runs_captured runs]
  rfl

theorem result_checking (requested : Option Number) (executable : Executable) (found : Version) :
    (Client.checking requested executable found).result =
      executable.accepted requested found := by
  cases requested with
  | none => exact Client.result_checking_none executable found
  | some pattern =>
      cases accepts : pattern.accepts found.number with
      | true =>
          rw [Client.result_checking_of_accepts accepts, accepted]
          exact (if_pos accepts).symm
      | false =>
          rw [Client.result_checking_of_refuses accepts, accepted]
          exact (if_neg (by simp [accepts])).symm

/-- Running for the effect, for the text, for the version, and for the client all come to what is
made of the completions that the streams lead to: those of the machine itself when it is run for
the effect, and collected output in every other way. -/
structure Yields (executable : Executable) (machine : Machine) (arguments : List String)
    (completion : Streams → Completion) : Prop where
  run : executable.run machine arguments =
    (executable.judged (completion (.inherited machine.input))).map fun _ => ()
  output : executable.output machine arguments = executable.printed (completion .captured)
  version : arguments = ["version"] →
    executable.version machine = executable.told (completion .captured)
  client : arguments = ["version"] → ∀ name requested overrides,
    find machine name overrides = .ok executable →
      Client.find machine name requested overrides =
        (executable.told (completion .captured)).bind (executable.accepted requested)

theorem yields_of_runs {completion : Streams → Completion}
    (runs : ∀ streams, executable.Runs machine streams arguments (completion streams)) :
    executable.Yields machine arguments completion where
  run := run_of_runs (runs _)
  output := output_of_runs_captured (runs _)
  version := by
    rintro rfl
    exact version_of_runs_captured (runs _)
  client := by
    rintro rfl name requested overrides found
    simp only [Client.find_eq, found, ← version_of_runs_captured (runs _), result_checking]
    rfl

/-! ## Isolation -/

/-- Executables that the same variables and the same file make up are the same, whatever machines
they were found on. -/
theorem eq_of_find {first second : Machine} {name : String} {one other : Executable}
    (foundFirst : find first name overrides = .ok one)
    (foundSecond : find second name overrides = .ok other)
    (sameFile : one.filename = other.filename) : one = other := by
  have sameOverrides : one.overrides = other.overrides := by
    rw [(Built.name foundFirst).overrides_eq, (Built.name foundSecond).overrides_eq]
  cases one
  cases other
  cases sameFile
  cases sameOverrides
  rfl

/-- A child is shown the overriding variables that have a value and no others, whatever machine its
executable was found on and whatever machine it runs on, and every way of running comes to what the
program does with them.  Machines on which the same file is found show it the same environment.
Only without overriding variables is that of the machine shown. -/
theorem child_environment_of_built
    (proper : ∀ values, overrides = some values → values.Proper)
    (built : Built overrides executable) :
    (∀ values, overrides = some values →
        ∀ machine, (executable.environment machine).Shows values) ∧
      (overrides = none → ∀ machine, executable.environment machine = machine.environment) ∧
      (∀ machine arguments behaviour, executable.Holds machine behaviour →
        (∀ argument ∈ arguments, '\x00' ∉ argument.toList) →
          executable.Yields machine arguments fun streams =>
            behaviour ⟨arguments, executable.environment machine, streams⟩) ∧
      ∀ values, overrides = some values → ∀ first second name one other,
        find first name overrides = .ok one → find second name overrides = .ok other →
          one.filename = other.filename →
            one = other ∧ one.environment first = other.environment second := by
  refine ⟨?_, ?_, ?_, ?_⟩
  · rintro values rfl machine
    rw [built.environment_of_some]
    exact shows_given (proper values rfl)
  · rintro rfl machine
    exact built.environment_of_none machine
  · intro machine arguments behaviour holds zeroFree
    exact yields_of_runs (built.runs_of_holds proper holds zeroFree)
  · rintro values rfl first second name one other foundFirst foundSecond sameFile
    have same := eq_of_find foundFirst foundSecond sameFile
    subst same
    have made := Built.name foundFirst
    rw [made.environment_of_some, made.environment_of_some]
    exact ⟨rfl, rfl⟩

/-- A program that prints the names of its variables. -/
def roll : Program := fun invocation =>
  ⟨(String.join (invocation.environment.map fun entry => entry.1 ++ ";")).toUTF8, ByteArray.empty,
    .exited 0⟩

/-- A machine with this program, and with two variables. -/
def registry : Machine where
  files := ⟨[(["roll".toList], .file ⟨ByteArray.empty, 0o755, .program roll⟩)]⟩
  directory := ['/']
  environment := [("HOME", "/root".toUTF8), ("TOKEN", "secret".toUTF8)]

theorem holds_registry (overrides : Option Variables) :
    Holds ⟨"/roll".toList, overrides⟩ registry roll := by
  have leads : registry.files.PathLeads registry.directory "/roll".toList
      (.file ⟨ByteArray.empty, 0o755, .program roll⟩) :=
    FileTree.pathLeads_slash (by decide) (by decide) (by decide) rfl
  exact ⟨_, leads, by decide, rfl⟩

/-- A variable without a value is neither shown nor replaced by that of the machine, not even when
no other variable is left. -/
theorem child_environment_of_registry :
    (Variables.Proper [("HOME", ""), ("LANG", "C")] ∧
        Built (some [("HOME", ""), ("LANG", "C")]) ⟨"/roll".toList, some [("LANG", "C")]⟩ ∧
        output ⟨"/roll".toList, some [("LANG", "C")]⟩ registry [] = .ok "LANG;") ∧
      Variables.Proper [("HOME", "")] ∧ Built (some [("HOME", "")]) ⟨"/roll".toList, some []⟩ ∧
        output ⟨"/roll".toList, some []⟩ registry [] = .ok "" := by
  have shown (values : Variables) (proper : values.Proper) (kept : Variables)
      (built : Built (some values) ⟨"/roll".toList, some kept⟩) :
      output ⟨"/roll".toList, some kept⟩ registry [] =
        printed ⟨"/roll".toList, some kept⟩
          (roll ⟨[], kept.map fun entry => (entry.1, entry.2.toUTF8), .captured⟩) := by
    have properly : ∀ others, some values = some others → Variables.Proper others := by
      rintro others same
      exact Option.some.inj same ▸ proper
    obtain ⟨-, -, runs, -⟩ := child_environment_of_built properly built
    exact (runs registry [] roll (holds_registry _) (by simp)).output
  have properBoth : Variables.Proper [("HOME", ""), ("LANG", "C")] :=
    ⟨by decide, by simp, by simp⟩
  have properOne : Variables.Proper [("HOME", "")] := ⟨by decide, by simp, by simp⟩
  have builtBoth : Built (some [("HOME", ""), ("LANG", "C")])
      ⟨"/roll".toList, some [("LANG", "C")]⟩ := .path "/roll".toList rfl
  have builtOne : Built (some [("HOME", "")]) ⟨"/roll".toList, some []⟩ :=
    .path "/roll".toList rfl
  refine ⟨⟨properBoth, builtBoth, ?_⟩, properOne, builtOne, ?_⟩
  · rw [shown _ properBoth _ builtBoth]
    rfl
  · rw [shown _ properOne _ builtOne]
    rfl

end Executable

end ReleaseVersion
