import Mathlib.Data.List.Basic
import ReleaseVersion.Level
import ReleaseVersion.Proofs.Text.Lower
import ReleaseVersion.Proofs.Text.Numeral

/-!
# Dev tags and levels as they are spelt

The texts that are dev tags, said without the reading: a stage name, white space, an unsigned
numeral, white space.  The reading accepts exactly these and keeps the text, so a level that was
read once is read again from its own canonical text.  A dev tag is written in small characters
only, so a text that is one as it is written stays the same when it is lower-cased.
-/

namespace ReleaseVersion

open Text

namespace Stage

/-- A text is cut after the name of a stage exactly when it starts with that name. -/
theorem cut?_eq_some_iff {text rest : List Char} {stage : Stage} :
    cut? text = some (stage, rest) ↔ text = stage.chars ++ rest := by
  constructor
  · intro divided
    obtain ⟨tried, -, hit⟩ := List.exists_of_findSome?_eq_some divided
    obtain ⟨left, starts, same⟩ := Option.map_eq_some_iff.mp hit
    cases same
    exact (List.isPrefixOf?_eq_some_iff_append_eq.mp starts).symm
  · rintro rfl
    -- The names differ in their first letters, so the stages tried before are passed over.
    cases stage <;> rfl

/-- The names of the stages are written in small letters. -/
theorem isSmall_of_mem_chars {stage : Stage} {c : Char} (member : c ∈ stage.chars) :
    IsSmall c := by
  have small : (stage.chars.all fun c => IsSmall c) = true := by
    cases stage <;> decide +kernel
  exact of_decide_eq_true (List.all_eq_true.mp small c member)

end Stage

/-! ## Characters without case -/

/-- The code points of white space. -/
def whiteCodes : List Nat :=
  List.range' 9 5 ++ [0x20, 0x85, 0xA0, 0x1680] ++ List.range' 0x2000 11 ++
    [0x2028, 0x2029, 0x202F, 0x205F, 0x3000]

theorem isSmall_of_isWhite {c : Char} (white : isWhite c = true) : IsSmall c := by
  have listed : c.toNat ∈ whiteCodes := by
    simp only [isWhite, Bool.or_eq_true, Bool.and_eq_true, decide_eq_true_eq, beq_iff_eq] at white
    simp only [whiteCodes, List.mem_append, List.mem_range'_1, List.mem_cons, List.not_mem_nil]
    omega
  have small : ∀ n ∈ whiteCodes, IsSmall (Char.ofNat n) := by decide +kernel
  simpa using small c.toNat listed

theorem isSmall_of_isDigit {c : Char} (digit : c.isDigit = true) : IsSmall c :=
  of_isDigit (P := IsSmall) (by decide +kernel) digit

/-! ## Dev tags -/

/-- The tag is spelt by the text: the name of its stage, its serial as an unsigned numeral, and
white space around that.  The tag keeps the text as it is. -/
structure DevTag.SpeltBy (tag : DevTag) (text : List Char) : Prop where
  kept : tag.text = String.ofList text
  form : ∃ before numeral after, text = tag.stage.chars ++ (before ++ (numeral ++ after)) ∧
    (∀ c ∈ before, isWhite c = true) ∧ IsUnsigned numeral tag.serial ∧
      ∀ c ∈ after, isWhite c = true
  serial_pos : 1 ≤ tag.serial
  serial_le : tag.serial ≤ unsignedLimit

namespace DevTag

/-- Reading gives a tag exactly for the texts that spell it. -/
theorem read?_eq_some_iff {text : List Char} {tag : DevTag} :
    read? text = some tag ↔ tag.SpeltBy text := by
  constructor
  · intro tagRead
    unfold read? at tagRead
    split at tagRead
    · simp at tagRead
    · rename_i stage rest divided
      split at tagRead
      · rename_i n serialRead
        cases tagRead
        obtain ⟨numeral, small⟩ := unsigned?_eq_some_iff.mp serialRead
        obtain ⟨before, core, after, restEq, whiteBefore, spelt, whiteAfter⟩ :=
          isUnsigned_trim_iff.mp numeral
        have textEq : text = stage.chars ++ (before ++ (core ++ after)) := by
          rw [← restEq]
          exact Stage.cut?_eq_some_iff.mp divided
        exact ⟨rfl, ⟨before, core, after, textEq, whiteBefore, spelt, whiteAfter⟩,
          Nat.succ_pos n, small⟩
      · simp at tagRead
  · rintro ⟨kept, ⟨before, numeral, after, textEq, whiteBefore, spelt, whiteAfter⟩, positive, small⟩
    rcases tag with ⟨stage, serial, tagText⟩
    obtain ⟨n, rfl⟩ := Nat.exists_eq_add_of_le' positive
    have divided : Stage.cut? text = some (stage, before ++ (numeral ++ after)) :=
      Stage.cut?_eq_some_iff.mpr textEq
    have trimmed : IsUnsigned (trim (before ++ (numeral ++ after))) (n + 1) :=
      isUnsigned_trim_iff.mpr
        ⟨before, numeral, after, rfl, whiteBefore, spelt, whiteAfter⟩
    simp only [read?, divided, unsigned?_eq_some_iff.mpr ⟨trimmed, small⟩]
    exact congrArg (fun tagText => some (DevTag.mk stage (n + 1) tagText)) kept.symm

/-- A text spells one tag at most. -/
theorem SpeltBy.unique {first second : DevTag} {text : List Char} (one : first.SpeltBy text)
    (other : second.SpeltBy text) : first = second :=
  Option.some.inj ((read?_eq_some_iff.mpr one).symm.trans (read?_eq_some_iff.mpr other))

theorem SpeltBy.mem_name_or {tag : DevTag} {text : List Char} (spelt : tag.SpeltBy text) {c : Char}
    (member : c ∈ text) :
    c ∈ tag.stage.chars ∨ isWhite c = true ∨ c = '+' ∨ c.isDigit = true := by
  obtain ⟨before, numeral, after, textEq, whiteBefore, spelt, whiteAfter⟩ := spelt.form
  rw [textEq, List.mem_append, List.mem_append, List.mem_append] at member
  rcases member with name | front | number | back
  · exact .inl name
  · exact .inr (.inl (whiteBefore c front))
  · exact .inr (.inr (spelt.sign_or_digit number))
  · exact .inr (.inl (whiteAfter c back))

/-- A dev tag holds no dash, whatever white space it holds. -/
theorem SpeltBy.dash_not_mem {tag : DevTag} {text : List Char} (spelt : tag.SpeltBy text) :
    '-' ∉ text := by
  intro member
  rcases spelt.mem_name_or member with name | kind
  · revert name
    cases tag.stage <;> decide
  · exact absurd kind (by decide)

/-- A dev tag is written in small characters. -/
theorem SpeltBy.isSmall {tag : DevTag} {text : List Char} (spelt : tag.SpeltBy text) :
    ∀ c ∈ text, IsSmall c := by
  intro c member
  rcases spelt.mem_name_or member with name | white | rfl | digit
  · exact Stage.isSmall_of_mem_chars name
  · exact isSmall_of_isWhite white
  · decide +kernel
  · exact isSmall_of_isDigit digit

end DevTag

theorem isDevTag_eq_true_iff {text : List Char} :
    isDevTag text = true ↔ ∃ tag : DevTag, tag.SpeltBy text := by
  simp only [isDevTag, Option.isSome_iff_exists, DevTag.read?_eq_some_iff]

/-! ## Levels -/

namespace Level

/-- The level is spelt by the text, in letters of any case: final by nothing or by the word for
it, and a dev release by its tag. -/
inductive SpeltBy : Level → List Char → Prop
  | empty {raw : List Char} : lower raw = [] → SpeltBy final raw
  | word {raw : List Char} : lower raw = finalWord → SpeltBy final raw
  | tag {raw : List Char} {tag : DevTag} : tag.SpeltBy (lower raw) → SpeltBy (dev tag) raw

theorem read_eq_ok_iff {raw : List Char} {level : Level} :
    read raw = .ok level ↔ level.SpeltBy raw := by
  constructor
  · intro levelRead
    simp only [read] at levelRead
    split at levelRead
    · rename_i finished
      cases levelRead
      exact finished.elim .empty .word
    · split at levelRead
      · rename_i tag tagRead
        cases levelRead
        exact .tag (DevTag.read?_eq_some_iff.mp tagRead)
      · simp at levelRead
  · intro spelt
    cases spelt with
    | empty nothing => exact if_pos (.inl nothing)
    | word final => exact if_pos (.inr final)
    | @tag _ tag spelt =>
        have tagRead := DevTag.read?_eq_some_iff.mpr spelt
        have unfinished : ¬(lower raw = [] ∨ lower raw = finalWord) := by
          rintro (nothing | final)
          · rw [nothing] at tagRead
            exact Option.some_ne_none tag (tagRead.symm.trans rfl)
          · rw [final] at tagRead
            exact Option.some_ne_none tag (tagRead.symm.trans rfl)
        simp only [read, if_neg unfinished, tagRead]

/-- A text that spells no level is refused, and the fault shows its lower-case form. -/
theorem read_eq_error_of_not_speltBy {raw : List Char}
    (unspelt : ∀ level : Level, ¬level.SpeltBy raw) :
    read raw = .error (.unknownLevel (String.ofList (lower raw))) := by
  have unfinished : ¬(lower raw = [] ∨ lower raw = finalWord) := by
    rintro (nothing | final)
    · exact unspelt _ (.empty nothing)
    · exact unspelt _ (.word final)
  have noTag : DevTag.read? (lower raw) = none := by
    rw [Option.eq_none_iff_forall_ne_some]
    intro tag tagRead
    exact unspelt _ (.tag (DevTag.read?_eq_some_iff.mp tagRead))
  simp only [read, if_neg unfinished, noTag]

/-- What comes of the text of a level. -/
inductive Verdict (raw : List Char) : Except Fault Level → Prop
  /-- The text spells a level. -/
  | level {level : Level} : level.SpeltBy raw → Verdict raw (.ok level)
  /-- It spells none, and is shown in its lower-case form. -/
  | unknown :
      (∀ level : Level, ¬level.SpeltBy raw) →
      Verdict raw (.error (.unknownLevel (String.ofList (lower raw))))

theorem read_eq_iff_verdict {raw : List Char} {result : Except Fault Level} :
    read raw = result ↔ Verdict raw result := by
  constructor
  · rintro rfl
    by_cases spelt : ∃ level : Level, level.SpeltBy raw
    · obtain ⟨level, spelt⟩ := spelt
      rw [read_eq_ok_iff.mpr spelt]
      exact .level spelt
    · rw [read_eq_error_of_not_speltBy (not_exists.mp spelt)]
      exact .unknown (not_exists.mp spelt)
  · intro verdict
    cases verdict with
    | level spelt => exact read_eq_ok_iff.mpr spelt
    | unknown unspelt => exact read_eq_error_of_not_speltBy unspelt

/-- A level as it is stored: the text of a dev tag spells that very tag, in small characters. -/
def Stored : Level → Prop
  | final => True
  | dev tag => tag.SpeltBy tag.text.toList ∧ ∀ c ∈ tag.text.toList, IsSmall c

theorem stored_of_read {raw : List Char} {level : Level} (levelRead : read raw = .ok level) :
    level.Stored := by
  cases read_eq_ok_iff.mp levelRead with
  | empty _ => trivial
  | word _ => trivial
  | @tag _ tag spelt =>
      have kept : tag.text.toList = lower raw := by
        rw [spelt.kept, String.toList_ofList]
      rw [Stored, kept]
      exact ⟨spelt, fun _ => isSmall_of_mem_lower⟩

/-- A stored dev tag is read back from its text. -/
theorem read_text_of_stored {tag : DevTag} (stored : (dev tag).Stored) :
    read tag.text.toList = .ok (dev tag) := by
  apply read_eq_ok_iff.mpr
  apply SpeltBy.tag
  rw [lower_eq_self stored.2]
  exact stored.1

/-- A level that was read is read again from its canonical text. -/
theorem read_chars_of_stored {level : Level} (stored : level.Stored) :
    read level.chars = .ok level := by
  cases level with
  | final => rfl
  | dev tag => exact read_text_of_stored stored

/-- The grammar of release levels, for texts that are accepted and texts that are refused.  A text
is a dev tag as it is written exactly when it spells one, which is then the only one; lower-casing
leaves it alone, so the same tag is read from it as a level.  And whatever level is read is read
again from its canonical text. -/
theorem parse_eq_iff_verdict_of_lower (raw : String) :
    (∀ result, parse raw = result ↔ Verdict raw.toList result) ∧
      (isDevTag raw.toList = true ↔ ∃! tag : DevTag, tag.SpeltBy raw.toList) ∧
      (∀ tag : DevTag, tag.SpeltBy raw.toList →
        lower raw.toList = raw.toList ∧ parse raw = .ok (dev tag)) ∧
      ∀ level, parse raw = .ok level → parse level.text = .ok level := by
  refine ⟨fun result => read_eq_iff_verdict, ?_, fun tag spelt => ?_, fun level levelRead => ?_⟩
  · rw [isDevTag_eq_true_iff]
    constructor
    · rintro ⟨tag, spelt⟩
      exact ⟨tag, spelt, fun other otherSpelt => otherSpelt.unique spelt⟩
    · rintro ⟨tag, spelt, -⟩
      exact ⟨tag, spelt⟩
  · have unchanged : lower raw.toList = raw.toList := lower_eq_self spelt.isSmall
    refine ⟨unchanged, read_eq_ok_iff.mpr (.tag ?_)⟩
    rw [unchanged]
    exact spelt
  · exact read_chars_of_stored (stored_of_read levelRead)

/-- A tag in capitals is none as it is written, and what surrounds its serial is kept. -/
theorem parse_eq_iff_verdict_of_lower_padded :
    parse "RC +007 " = .ok (dev ⟨.candidate, 7, "rc +007 "⟩) ∧
      isDevTag "RC +007 ".toList = false ∧
      parse "rc +007 " = .ok (dev ⟨.candidate, 7, "rc +007 "⟩) := by
  have levelRead : parse "RC +007 " = .ok (dev ⟨.candidate, 7, "rc +007 "⟩) := rfl
  exact ⟨levelRead, by decide, (parse_eq_iff_verdict_of_lower "RC +007 ").2.2.2 _ levelRead⟩

end Level

end ReleaseVersion
