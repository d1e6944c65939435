import ReleaseVersion.Proofs.Executable.Lookup
import ReleaseVersion.Proofs.Number.Reading
import ReleaseVersion.Proofs.Text.White

/-!
# What a run tells

Running an executable for its version may fail at the start, by the status, at the text of the
output, or at the version in it.  The outcomes are listed with what each of them takes, and they
leave no run out.
-/

namespace ReleaseVersion.Executable

open Host Text

variable {executable : Executable} {machine : Machine} {streams other : Streams}
  {arguments : List String} {completion : Completion} {cause : SystemError}

/-! ## Starting -/

/-- Nothing that the process would be given holds the zero character. -/
structure ZeroFree (executable : Executable) (arguments : List String) : Prop where
  filename : '\x00' ∉ executable.filename
  arguments : ∀ argument ∈ arguments, '\x00' ∉ argument.toList
  overrides : ∀ values, executable.overrides = some values →
    ∀ entry ∈ values, '\x00' ∉ entry.1.toList ∧ '\x00' ∉ entry.2.toList

theorem givesZero_eq_false_iff :
    executable.givesZero arguments = false ↔ executable.ZeroFree arguments := by
  have clean (text : String) : holdsZero text = false ↔ '\x00' ∉ text.toList := by
    simp [holdsZero]
  have given : (executable.overrides.getD []).any
        (fun entry => holdsZero entry.1 || holdsZero entry.2) = false ↔
      ∀ values, executable.overrides = some values →
        ∀ entry ∈ values, '\x00' ∉ entry.1.toList ∧ '\x00' ∉ entry.2.toList := by
    cases executable.overrides with
    | none => simp
    | some values => simp [clean]
  rw [givesZero, Bool.or_eq_false_iff, given, argumentList, List.any_cons, Bool.or_eq_false_iff,
    clean, String.toList_ofList, List.any_eq_false]
  simp only [Bool.not_eq_true, clean]
  exact ⟨fun ⟨⟨filename, arguments⟩, overrides⟩ => ⟨filename, arguments, overrides⟩,
    fun free => ⟨⟨free.filename, free.arguments⟩, free.overrides⟩⟩

theorem start_of_not_zeroFree (unfit : ¬executable.ZeroFree arguments) :
    executable.start machine streams arguments = .error .zeroCharacter := by
  rw [← givesZero_eq_false_iff, Bool.not_eq_false] at unfit
  rw [start_eq, if_pos unfit]

/-- With nothing amiss in what is given, the file alone decides what its start comes to. -/
theorem start_of_file {file : File} (zeroFree : executable.ZeroFree arguments)
    (leads : machine.files.PathLeads machine.directory executable.filename (.file file))
    (runnable : file.mode &&& 0o111 ≠ 0) :
    executable.start machine streams arguments =
      file.start.result (executable.invocation machine streams arguments) := by
  have found := FileTree.find_eq_ok_iff.mpr leads
  have permitted := File.isRunnable_eq_true_iff.mpr runnable
  rw [start_eq, if_neg (by simp [givesZero_eq_false_iff.mpr zeroFree]), Machine.start, found]
  exact if_pos permitted

/-- What cannot be run is not started. -/
theorem exists_start_eq_error (blocked : ¬machine.Runnable executable.filename)
    (arguments : List String) :
    ∃ cause, ∀ streams, executable.start machine streams arguments = .error cause := by
  by_cases zeroFree : executable.ZeroFree arguments
  · simp only [start_eq, givesZero_eq_false_iff.mpr zeroFree, Bool.false_eq_true, if_false,
      Machine.start]
    cases found : machine.files.find machine.directory executable.filename with
    | error cause => exact ⟨cause, fun _ => rfl⟩
    | ok entry =>
        cases entry with
        | directory => exact ⟨_, fun _ => rfl⟩
        | link target => exact ⟨_, fun _ => rfl⟩
        | file file =>
            have leads := FileTree.find_eq_ok_iff.mp found
            have barred : ¬file.isRunnable = true := fun permitted =>
              blocked ⟨file, leads, File.isRunnable_eq_true_iff.mp permitted⟩
            exact ⟨_, fun _ => if_neg barred⟩
  · exact ⟨_, fun _ => start_of_not_zeroFree zeroFree⟩

/-- The program in the file of the executable, when that file can be run. -/
def Holds (executable : Executable) (machine : Machine) (behaviour : Program) : Prop :=
  ∃ file : File, machine.files.PathLeads machine.directory executable.filename (.file file) ∧
    file.mode &&& 0o111 ≠ 0 ∧ file.start = .program behaviour

/-- A run: nothing that is given holds the zero character, the path leads to a runnable file that
is a program, and with the arguments, the environment and these streams the program leaves this
behind. -/
inductive Runs (executable : Executable) (machine : Machine) (streams : Streams)
    (arguments : List String) : Completion → Prop
  | program {behaviour : Program} :
      executable.ZeroFree arguments → executable.Holds machine behaviour →
      Runs executable machine streams arguments
        (behaviour ⟨arguments, executable.environment machine, streams⟩)

theorem Runs.runnable (runs : executable.Runs machine streams arguments completion) :
    machine.Runnable executable.filename := by
  cases runs with
  | program _ holds =>
      obtain ⟨file, leads, permitted, -⟩ := holds
      exact ⟨file, leads, permitted⟩

theorem start_eq_ok_iff :
    executable.start machine streams arguments = .ok completion ↔
      executable.Runs machine streams arguments completion := by
  constructor
  · intro started
    by_cases zeroFree : executable.ZeroFree arguments
    · by_cases runnable : machine.Runnable executable.filename
      · obtain ⟨file, leads, permitted⟩ := runnable
        rw [start_of_file zeroFree leads permitted] at started
        cases kind : file.start with
        | program behaviour =>
            rw [kind] at started
            cases started
            exact .program zeroFree ⟨file, leads, permitted, kind⟩
        | _ =>
            rw [kind] at started
            contradiction
      · obtain ⟨cause, fails⟩ := exists_start_eq_error runnable arguments
        rw [fails] at started
        contradiction
    · rw [start_of_not_zeroFree zeroFree] at started
      contradiction
  · rintro ⟨zeroFree, file, leads, runnable, isProgram⟩
    rw [start_of_file zeroFree leads runnable, isProgram]
    rfl

theorem Runs.unique {another : Completion}
    (runs : executable.Runs machine streams arguments completion)
    (runsToo : executable.Runs machine streams arguments another) : completion = another :=
  Except.ok.inj ((start_eq_ok_iff.mpr runs).symm.trans (start_eq_ok_iff.mpr runsToo))

/-! ## Running -/

/-- A run that does not come about or does not end well. -/
inductive Fails (executable : Executable) (machine : Machine) (streams : Streams)
    (arguments : List String) : ExecutableFault → Prop
  /-- It does not start, and the file cannot be run. -/
  | vanished {cause : SystemError} {searched : Option String} :
      executable.start machine streams arguments = .error cause →
      ¬machine.Runnable executable.filename → Searches machine executable.overrides searched →
      Fails executable machine streams arguments
        (.notFound (String.ofList executable.filename) searched)
  /-- It does not start, although the file can be run. -/
  | notStarted {cause : SystemError} :
      executable.start machine streams arguments = .error cause →
      machine.Runnable executable.filename →
      Fails executable machine streams arguments (.notStarted executable.filename cause)
  /-- It ends with another status than zero, whatever it has printed. -/
  | failed {completion : Completion} :
      executable.Runs machine streams arguments completion → completion.status ≠ .exited 0 →
      Fails executable machine streams arguments (.failed executable.filename completion.status)

theorem collecting_eq_ok_iff (executable : Executable) {capture : Bool} {collected : ByteArray} :
    (executable.collecting capture completion).result = .ok collected ↔
      completion.status = .exited 0 ∧
        collected = if capture then completion.output else ByteArray.empty := by
  rw [result_collecting, ← Status.isSuccess_eq_true_iff]
  by_cases success : completion.status.isSuccess = true
  · simp [success, eq_comm]
  · simp [success]

/-- A run ends well when the program does, and then nothing but its output is collected. -/
theorem invoke_eq_ok_iff {capture : Bool} {collected : ByteArray} :
    executable.invoke machine arguments capture = .ok collected ↔
      ∃ completion,
        executable.Runs machine (Executable.streams machine capture) arguments completion ∧
        completion.status = .exited 0 ∧
        collected = if capture then completion.output else ByteArray.empty := by
  simp only [← start_eq_ok_iff, ← collecting_eq_ok_iff executable]
  cases started : executable.start machine (Executable.streams machine capture) arguments with
  | error cause =>
      rw [invoke_of_unstarted started]
      simp
  | ok completion =>
      rw [invoke_of_started started]
      simp

theorem invoke_of_fails {capture : Bool} {fault : ExecutableFault}
    (fails : executable.Fails machine (Executable.streams machine capture) arguments fault) :
    executable.invoke machine arguments capture = .error fault := by
  cases fails with
  | vanished unstarted blocked searches =>
      rw [← Machine.isRunnable_eq_true_iff] at blocked
      rw [invoke_of_unstarted unstarted, startFault, if_neg blocked, searchPath_eq_iff.mpr searches]
  | notStarted unstarted runnable =>
      rw [← Machine.isRunnable_eq_true_iff] at runnable
      rw [invoke_of_unstarted unstarted, startFault, if_pos runnable]
  | failed runs status =>
      have unsuccessful := Status.isSuccess_eq_true_iff.not.mpr status
      rw [invoke_of_started (start_eq_ok_iff.mpr runs), result_collecting, if_neg unsuccessful]

theorem fails_of_invoke {capture : Bool} {fault : ExecutableFault}
    (failed : executable.invoke machine arguments capture = .error fault) :
    executable.Fails machine (Executable.streams machine capture) arguments fault := by
  cases started : executable.start machine (Executable.streams machine capture) arguments with
  | error cause =>
      rw [invoke_of_unstarted started] at failed
      cases failed
      rw [startFault]
      split
      · rename_i runnable
        exact .notStarted started (Machine.isRunnable_eq_true_iff.mp runnable)
      · rename_i blocked
        exact .vanished started (Machine.isRunnable_eq_true_iff.not.mp blocked)
          (searchPath_eq_iff.mp rfl)
  | ok completion =>
      rw [invoke_of_started started, result_collecting] at failed
      split at failed
      · contradiction
      · rename_i status
        cases failed
        exact .failed (start_eq_ok_iff.mp started) (Status.isSuccess_eq_true_iff.not.mp status)

/-! ## The version told -/

/-- What comes of asking an executable for its version. -/
inductive Telling (executable : Executable) (machine : Machine) :
    Except ExecutableFault Version → Prop
  /-- The run fails. -/
  | failed {fault : ExecutableFault} :
      executable.Fails machine .captured ["version"] fault →
      Telling executable machine (.error fault)
  /-- The output is not text. -/
  | outputNotText {output errors : ByteArray} :
      executable.Runs machine .captured ["version"] ⟨output, errors, .exited 0⟩ →
      (∀ text : String, output ≠ text.toUTF8) →
      Telling executable machine (.error (.outputNotText executable.filename))
  /-- The text, without white space around it, is refused as a version. -/
  | badVersion {text : String} {errors : ByteArray} {core : List Char} {fault : Fault} :
      executable.Runs machine .captured ["version"] ⟨text.toUTF8, errors, .exited 0⟩ →
      Trimmed text.toList core → Version.parse (String.ofList core) = .error fault →
      Telling executable machine (.error (.badVersion executable.filename fault))
  /-- The text, without white space around it, is a version. -/
  | told {text : String} {errors : ByteArray} {core : List Char} {version : Version} :
      executable.Runs machine .captured ["version"] ⟨text.toUTF8, errors, .exited 0⟩ →
      Trimmed text.toList core → Version.parse (String.ofList core) = .ok version →
      Telling executable machine (.ok version)

theorem output_of_runs {bytes errors : ByteArray}
    (runs : executable.Runs machine .captured arguments ⟨bytes, errors, .exited 0⟩) :
    executable.output machine arguments = executable.textOf bytes := by
  rw [output_eq, invoke_eq_ok_iff.mpr ⟨_, runs, rfl, rfl⟩]
  rfl

theorem textOf_of_text (text : String) : executable.textOf text.toUTF8 = .ok text := by
  rw [textOf, fromUTF8?_eq_some_iff.mpr rfl]

theorem textOf_of_not_text {bytes : ByteArray} (noText : ∀ text : String, bytes ≠ text.toUTF8) :
    executable.textOf bytes = .error (.outputNotText executable.filename) := by
  rw [textOf, fromUTF8?_eq_none_iff.mpr noText]

theorem version_of_runs {text : String} {errors : ByteArray} {core : List Char}
    (runs : executable.Runs machine .captured ["version"] ⟨text.toUTF8, errors, .exited 0⟩)
    (trimmed : Trimmed text.toList core) :
    executable.version machine =
      match Version.parse (String.ofList core) with
      | .ok version => .ok version
      | .error fault => .error (.badVersion executable.filename fault) := by
  rw [version_eq, output_of_runs runs, textOf_of_text, Version.parse, String.toList_ofList,
    ← trim_eq_iff.mpr trimmed]
  rfl

theorem version_of_telling {result : Except ExecutableFault Version}
    (telling : executable.Telling machine result) : executable.version machine = result := by
  cases telling with
  | failed fails =>
      rw [version_eq, output_eq, invoke_of_fails fails]
      rfl
  | outputNotText runs noText =>
      rw [version_eq, output_of_runs runs, textOf_of_not_text noText]
      rfl
  | badVersion runs trimmed refused => rw [version_of_runs runs trimmed, refused]
  | told runs trimmed parsed => rw [version_of_runs runs trimmed, parsed]

/-- Asking for the version comes to something. -/
theorem exists_telling (executable : Executable) (machine : Machine) :
    ∃ result, executable.Telling machine result := by
  cases invoked : executable.invoke machine ["version"] true with
  | error fault => exact ⟨_, .failed (fails_of_invoke invoked)⟩
  | ok collected =>
      obtain ⟨⟨output, errors, status⟩, runs, success, -⟩ := invoke_eq_ok_iff.mp invoked
      cases success
      cases decoded : String.fromUTF8? output with
      | none => exact ⟨_, .outputNotText runs (fromUTF8?_eq_none_iff.mp decoded)⟩
      | some text =>
          rw [fromUTF8?_eq_some_iff.mp decoded] at runs
          have trimmed := trimmed_trim text.toList
          cases parsed : Version.parse (String.ofList (trim text.toList)) with
          | error fault => exact ⟨_, .badVersion runs trimmed parsed⟩
          | ok version => exact ⟨_, .told runs trimmed parsed⟩

theorem version_eq_iff_telling (executable : Executable) (machine : Machine)
    (result : Except ExecutableFault Version) :
    executable.version machine = result ↔ executable.Telling machine result :=
  eq_iff_of_outcomes (exists_telling executable machine) version_of_telling result

end ReleaseVersion.Executable
