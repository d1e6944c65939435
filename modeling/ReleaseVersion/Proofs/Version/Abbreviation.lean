import ReleaseVersion.Proofs.Number.Grammar
import ReleaseVersion.Proofs.Version.Grammar

/-!
# Versions written without a micro

Before a dev tag a zero micro need not be written: `1.2-beta2` says the same as `1.2.0-beta2`,
whatever follows the tag and whatever is wrong with the number.  The one text goes through a number
that is completed afterwards and the other through a number with all its fields, so the two are
compared where the fields have been read and only the rules between them are left.  Without a dev
tag in the place of the level the micro stays open, and the version is refused.
-/

namespace ReleaseVersion

open Text

namespace Number

/-- The text has one dot, no dash, and no white space at either end. -/
structure IsShort (text : List Char) : Prop where
  dot : text.count '.' = 1
  dash : '-' ∉ text
  trimmed : Trimmed text text

section

variable {text : List Char}

theorem IsShort.exists_fields (short : IsShort text) :
    ∃ major minor, text = major ++ '.' :: minor ∧ '.' ∉ major ∧ '.' ∉ minor := by
  cases divided : cut? '.' text with
  | none =>
      have none := List.count_eq_zero.mpr (cut?_eq_none_iff.mp divided)
      exact absurd (none.symm.trans short.dot) (by decide)
  | some pieces =>
      obtain ⟨major, minor⟩ := pieces
      obtain ⟨textEq, majorFree⟩ := cut?_eq_some_iff.mp divided
      have one := short.dot
      rw [textEq, List.count_append, List.count_cons_self, List.count_eq_zero.mpr majorFree] at one
      exact ⟨major, minor, textEq, majorFree, List.count_eq_zero.mp (by omega)⟩

/-- With a zero micro written out there is still no white space at the ends. -/
theorem IsShort.trim_append_zero (short : IsShort text) :
    trim (text ++ ['.', '0']) = text ++ ['.', '0'] := by
  refine trim_eq_iff.mpr ⟨⟨[], [], by simp, by simp, by simp⟩, ?_, ?_⟩
  · intro c rest start
    obtain ⟨major, minor, textEq, -, -⟩ := short.exists_fields
    have something : text ≠ [] := by simp [textEq]
    obtain ⟨d, tail, textEq⟩ := List.exists_cons_of_ne_nil something
    rw [textEq, List.cons_append] at start
    obtain rfl := (List.cons.inj start).1
    exact short.trimmed.solidStart _ _ textEq
  · intro front c finish
    have last := congrArg List.getLast? finish
    simp only [List.getLast?_append, List.getLast?_cons_cons, List.getLast?_singleton,
      Option.some_or, Option.some.injEq] at last
    subst last
    decide

/-- Writing out a zero micro changes neither of the other two fields. -/
theorem IsShort.exists_divides (short : IsShort text) :
    ∃ major minor, Divides (trim text) major minor [] ∧
      Divides (trim (text ++ ['.', '0'])) major minor ['0'] := by
  obtain ⟨major, minor, textEq, majorFree, minorFree⟩ := short.exists_fields
  refine ⟨major, minor, ?_, ?_⟩
  · rw [trim_eq_iff.mpr short.trimmed, textEq]
    exact .minor majorFree minorFree
  · rw [short.trim_append_zero, textEq, List.append_assoc, List.cons_append]
    exact .micro majorFree minorFree (List.cons_ne_nil _ _)

/-- The rules between fields do not tell a zero micro that is added from one that is given. -/
theorem ofComponents_withMicro_zero (major : Nat) (minor : Component) :
    (ofComponents major minor .unset >>= fun number => number.withMicro (.exactly 0)) =
      ofComponents major minor (.exactly 0) := by
  cases minor with
  | exactly n =>
      -- Both ways a number is refused when it is zero in all its fields, and for nothing else.
      by_cases zero : major = 0 ∧ n = 0
      · obtain ⟨rfl, rfl⟩ := zero
        rfl
      · simp [ofComponents, withMicro, zero, bind, Except.bind]
  | wildcard => simp [ofComponents, withMicro, bind, Except.bind]
  | unset => rfl

/-- Reading a short text and adding a zero micro is reading the text with the micro written out,
for numbers and for faults. -/
theorem IsShort.read_append_zero (short : IsShort text) :
    read (text ++ ['.', '0']) = read text >>= fun number => number.withMicro (.exactly 0) := by
  obtain ⟨major, minor, divides, dividesLong⟩ := short.exists_divides
  have noMicro : readMicro (.text []) = .ok .unset := rfl
  have zeroMicro : readMicro (.text ['0']) = .ok (.exactly 0) := rfl
  rw [read_of_divides divides, read_of_divides dividesLong]
  simp only [ofTokens, noMicro, zeroMicro, bind_assoc]
  -- Major and minor are read alike, so only the rules between fields remain.
  refine congrArg _ (funext fun majorRead => congrArg _ (funext fun minorRead => ?_))
  exact (ofComponents_withMicro_zero majorRead minorRead).symm

theorem IsShort.micro_eq_unset (short : IsShort text) {number : Number}
    (numberRead : read text = .ok number) : number.micro = .unset := by
  obtain ⟨major, minor, divides, -⟩ := short.exists_divides
  rw [read_of_divides divides] at numberRead
  obtain ⟨-, -, microRead, -⟩ := ofTokens_eq_ok_iff.mp numberRead
  exact (Except.ok.inj microRead).symm

end

end Number

namespace Version

/-- What may follow a level: nothing, or series and arch. -/
inductive EndsVersion : List Char → Prop
  | nothing : EndsVersion []
  | platform {series arch : List Char} :
      '-' ∉ series → EndsVersion ('-' :: (series ++ '-' :: arch))

/-- Which labels follow a level depends on what ends the text, and not on the number. -/
theorem EndsVersion.exists_labels {level tail : List Char} (ends : EndsVersion tail)
    (levelFree : '-' ∉ level) :
    ∃ series arch, ∀ number, '-' ∉ number →
      Divides (number ++ '-' :: (level ++ tail)) number ⟨level, series, arch⟩ := by
  cases ends with
  | nothing =>
      refine ⟨[], [], fun number numberFree => ?_⟩
      rw [List.append_nil]
      exact .level numberFree levelFree
  | @platform series arch seriesFree =>
      exact ⟨series, arch, fun number numberFree => .full numberFree levelFree seriesFree⟩

/-- A text that is a number, or has one before its first dash, is cut at that number. -/
theorem exists_divides_of_starts {raw number : List Char} (numberFree : '-' ∉ number)
    (starts : raw = number ∨ ∃ rest, raw = number ++ '-' :: rest) :
    ∃ labels, Divides raw number labels := by
  rcases starts with rfl | ⟨rest, rfl⟩
  · exact ⟨.none, .bare numberFree⟩
  · exact exists_divides_append numberFree rest

section

variable {number : List Char} {labels : Labels}

/-- A zero micro that was supplied, or could not be, is not supplied again. -/
theorem withMicro_zero_supplyMicro (given : Number) (level : List Char) :
    (given.withMicro (.exactly 0) >>= fun completed => supplyMicro completed level) =
      given.withMicro (.exactly 0) := by
  cases changed : given.withMicro (.exactly 0) with
  | error fault => rfl
  | ok completed =>
      obtain ⟨rfl, -⟩ := Number.ofComponents_eq_ok_iff.mp changed
      have complete : ¬LacksMicro ⟨given.major, given.minor, .exactly 0⟩ level :=
        fun lacks => nomatch lacks.1
      exact supplyMicro_of_not_lacksMicro complete

/-- With a dev tag in the place of the level, a short number and the number with a zero micro come
to the same. -/
theorem readParts_append_zero (short : Number.IsShort number)
    (tag : isDevTag labels.level = true) :
    readParts (number ++ ['.', '0']) labels = readParts number labels := by
  rw [readParts, readParts, short.read_append_zero]
  cases numberRead : Number.read number with
  | error fault => rfl
  | ok given =>
      have supplied : supplyMicro given labels.level = given.withMicro (.exactly 0) :=
        if_pos ⟨short.micro_eq_unset numberRead, tag⟩
      calc
        _ = (given.withMicro (.exactly 0) >>= fun completed =>
              supplyMicro completed labels.level) >>= fun completed =>
                ofParts completed labels := (bind_assoc _ _ _).symm
        _ = supplyMicro given labels.level >>= fun completed => ofParts completed labels := by
          rw [withMicro_zero_supplyMicro, supplied]

/-- Without a dev tag in the place of the level a short number is refused for its open micro. -/
theorem readParts_of_short {given : Number} (short : Number.IsShort number)
    (numberRead : Number.read number = .ok given) (plain : isDevTag labels.level = false) :
    readParts number labels = .error (.openNumber given.text) :=
  readParts_of_micro_unset numberRead (short.micro_eq_unset numberRead) plain

end

/-- A number without a micro and the number with a zero micro make the same version, or are refused
for the same fault, when a dev tag follows; and only then may the micro be left out, for with
anything else in the place of the level the number counts as open. -/
theorem parse_without_micro {number : String} (short : Number.IsShort number.toList) :
    (∀ level tail : String, isDevTag level.toList = true → EndsVersion tail.toList →
        parse (number ++ "-" ++ level ++ tail) = parse (number ++ ".0-" ++ level ++ tail)) ∧
      ∀ given raw, Number.parse number = .ok given →
        (raw = number ∨ ∃ rest, raw = number ++ "-" ++ rest) →
        (∃ labels, Divides raw.toList number.toList labels) ∧
          ∀ labels, Divides raw.toList number.toList labels → isDevTag labels.level = false →
            parse raw = .error (.openNumber given.text) := by
  refine ⟨fun level tail tag ends => ?_, fun given raw numberRead starts => ⟨?_, ?_⟩⟩
  · obtain ⟨spelt, speltBy⟩ := isDevTag_eq_true_iff.mp tag
    obtain ⟨series, arch, divides⟩ := ends.exists_labels speltBy.dash_not_mem
    have brief := divides number.toList short.dash
    have long := divides (number.toList ++ ['.', '0']) (by simp [short.dash])
    have briefText : (number ++ "-" ++ level ++ tail).toList =
        number.toList ++ '-' :: (level.toList ++ tail.toList) := by simp
    have longText : (number ++ ".0-" ++ level ++ tail).toList =
        (number.toList ++ ['.', '0']) ++ '-' :: (level.toList ++ tail.toList) := by simp
    rw [parse, parse, briefText, longText, read_eq_readParts brief, read_eq_readParts long]
    exact (readParts_append_zero short tag).symm
  · refine exists_divides_of_starts short.dash (starts.imp (fun same => by rw [same]) ?_)
    rintro ⟨rest, rfl⟩
    exact ⟨rest.toList, by simp⟩
  · intro labels divides plain
    rw [parse, read_eq_readParts divides]
    exact readParts_of_short short numberRead plain

/-- A tag that is followed by two labels lets the micro go; two labels alone do not. -/
theorem parse_without_micro_before_platform :
    parse "1.2-beta2-xenial-arm-v7" = parse "1.2.0-beta2-xenial-arm-v7" ∧
      parse "1.2-beta2-amd64" = .error (.openNumber "1.2") := by
  have short : Number.IsShort "1.2".toList :=
    ⟨by decide, by decide, trim_eq_iff.mp (by decide)⟩
  obtain ⟨same, refused⟩ := parse_without_micro short
  obtain ⟨-, refused⟩ := refused ⟨1, .exactly 2, .unset⟩ "1.2-beta2-amd64" rfl
    (.inr ⟨"beta2-amd64", rfl⟩)
  have divides : Divides "1.2-beta2-amd64".toList "1.2".toList
      ⟨[], "beta2".toList, "amd64".toList⟩ :=
    @Divides.platform "1.2".toList "beta2".toList "amd64".toList (by decide) (by decide)
      (by decide)
  have ends : EndsVersion "-xenial-arm-v7".toList :=
    @EndsVersion.platform "xenial".toList "arm-v7".toList (by decide)
  exact ⟨same "beta2" "-xenial-arm-v7" (by decide) ends, refused _ divides (by decide)⟩

end Version

end ReleaseVersion
