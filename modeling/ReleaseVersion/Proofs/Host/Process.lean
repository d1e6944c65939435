import ReleaseVersion.Host.Process

/-!
# Text at the border of processes

Variables and outputs are bytes.  They are text exactly when they are what some text is encoded as.
-/

namespace ReleaseVersion.Host

theorem fromUTF8?_eq_some_iff {bytes : ByteArray} {text : String} :
    String.fromUTF8? bytes = some text ↔ bytes = text.toUTF8 := by
  unfold String.fromUTF8?
  constructor
  · intro decoded
    split at decoded
    · cases decoded
      rfl
    · contradiction
  · rintro rfl
    rw [String.toUTF8_eq_toByteArray, dif_pos text.isValidUTF8]
    rfl

theorem fromUTF8?_eq_none_iff {bytes : ByteArray} :
    String.fromUTF8? bytes = none ↔ ∀ text : String, bytes ≠ text.toUTF8 := by
  simp only [Option.eq_none_iff_forall_ne_some, ne_eq, fromUTF8?_eq_some_iff]

namespace Environment

theorem text?_eq_some_iff {environment : Environment} {name text : String} :
    environment.text? name = some text ↔ environment.value? name = some text.toUTF8 := by
  simp only [text?, Option.bind_eq_some_iff, fromUTF8?_eq_some_iff, exists_eq_right]

end Environment

theorem Status.isSuccess_eq_true_iff {status : Status} :
    status.isSuccess = true ↔ status = .exited 0 := by
  simp [isSuccess]

end ReleaseVersion.Host
