import ReleaseVersion.Proofs.Number.Reading

/-!
# What a number text comes to

The outcome of reading any text as a number, said by the pieces between its dots: for the number
and for each fault the exact conditions under which it arises.  The conditions exclude one another
and leave no text out, so they fix which of several faults is reported.
-/

namespace ReleaseVersion

open Text

/-! ## The text of one field -/

/-- A spelling of the wildcard: one of these characters, and no white space around it. -/
def IsWildcard (text : List Char) : Prop :=
  ∃ c ∈ ['x', 'X', '*'], text = [c]

theorem Token.isWildcardText_eq_true_iff {text : List Char} :
    isWildcardText text = true ↔ IsWildcard text := by
  simp [isWildcardText, IsWildcard, or_assoc]

theorem IsWildcard.ne_nil {text : List Char} (wild : IsWildcard text) : text ≠ [] := by
  obtain ⟨c, -, rfl⟩ := wild
  exact List.cons_ne_nil c []

theorem IsWildcard.not_spells {text : List Char} {n : Int} (wild : IsWildcard text) :
    ¬Spells text n := by
  intro spelt
  obtain ⟨c, spelling, rfl⟩ := wild
  -- None of the spellings is white space, a sign or a digit.
  have kind := spelt.white_sign_or_digit (List.mem_singleton_self c)
  simp only [List.mem_cons, List.not_mem_nil, or_false] at spelling
  rcases spelling with rfl | rfl | rfl
  · exact absurd kind (by decide)
  · exact absurd kind (by decide)
  · exact absurd kind (by decide)

/-- How the text of a field is to be taken, before any rule of the field applies. -/
inductive Reads : List Char → Reading → Prop
  | absent : Reads [] .unset
  | wildcard {text : List Char} : IsWildcard text → Reads text .wildcard
  | int {text : List Char} {n : Int} : Spells text n → IsWord n → Reads text (.int n)
  | verbatim {text : List Char} :
      text ≠ [] → ¬IsWildcard text → (∀ n, IsWord n → ¬Spells text n) →
      Reads text (.verbatim text)

theorem reads_read (text : List Char) : Reads text (Token.read (.text text)) := by
  simp only [Token.read]
  split
  · rename_i nothing
    rw [nothing]
    exact .absent
  · rename_i something
    split
    · rename_i wild
      exact .wildcard (Token.isWildcardText_eq_true_iff.mp wild)
    · rename_i tame
      split
      · rename_i n found
        obtain ⟨spelt, word⟩ := signed?_trim_eq_some_iff.mp found
        exact .int spelt word
      · rename_i unfound
        refine .verbatim something (mt Token.isWildcardText_eq_true_iff.mpr tame) ?_
        intro n word spelt
        exact Option.some_ne_none n
          ((signed?_trim_eq_some_iff.mpr ⟨spelt, word⟩).symm.trans unfound)

theorem read_of_reads {text : List Char} {reading : Reading} (reads : Reads text reading) :
    Token.read (.text text) = reading := by
  cases reads with
  | absent => rfl
  | wildcard wild =>
      simp only [Token.read, if_neg wild.ne_nil, Token.isWildcardText_eq_true_iff.mpr wild, if_true]
  | int spelt word =>
      have tame : ¬Token.isWildcardText text = true := fun wild =>
        (Token.isWildcardText_eq_true_iff.mp wild).not_spells spelt
      simp only [Token.read, if_neg spelt.ne_nil, if_neg tame,
        signed?_trim_eq_some_iff.mpr ⟨spelt, word⟩]
  | verbatim something tame unspelt =>
      have tameText : ¬Token.isWildcardText text = true :=
        mt Token.isWildcardText_eq_true_iff.mp tame
      have unfound : signed? (trim text) = none := by
        rw [Option.eq_none_iff_forall_ne_some]
        intro n found
        obtain ⟨spelt, word⟩ := signed?_trim_eq_some_iff.mp found
        exact unspelt n word spelt
      simp only [Token.read, if_neg something, if_neg tameText, unfound]

namespace Field

/-- The text stands for the component in a field: a number up to the largest signed word, the
wildcard where the field is not the major, or nothing where it is the micro. -/
inductive Holds : Field → List Char → Component → Prop
  | number {field : Field} {text : List Char} {n : Nat} :
      Spells text n → n ≤ signedLimit → Holds field text (.exactly n)
  | wildcard {field : Field} {text : List Char} :
      field ≠ .major → IsWildcard text → Holds field text .wildcard
  | absent : Holds .micro [] .unset

/-- The text is refused in a field, and the fault names the field.  It shows the text as it is,
unless that spells a negative number of a signed word, which is shown in its canonical form. -/
inductive Refuses : Field → List Char → Fault → Prop
  | missing {field : Field} : field ≠ .micro → Refuses field [] (.missing field)
  | wildcard {text : List Char} : IsWildcard text → Refuses .major text .wildcardMajor
  | negative {field : Field} {text : List Char} {n : Int} :
      Spells text n → IsWord n → n < 0 →
      Refuses field text (.notNumber field (String.ofList (signedDecimal n)))
  | unspelt {field : Field} {text : List Char} :
      text ≠ [] → ¬IsWildcard text → (∀ n, IsWord n → ¬Spells text n) →
      Refuses field text (.notNumber field (String.ofList text))

theorem Holds.exists_of_major {text : List Char} {component : Component}
    (holds : Field.major.Holds text component) : ∃ n, component = .exactly n := by
  cases holds with
  | @number _ _ n _ _ => exact ⟨n, rfl⟩
  | wildcard notMajor _ => contradiction

/-- Every text either stands for a component or is refused. -/
theorem holds_or_refuses (field : Field) (text : List Char) :
    (∃ component, field.Holds text component) ∨ ∃ fault, field.Refuses text fault := by
  obtain ⟨reading, reads⟩ : ∃ reading, Reads text reading := ⟨_, reads_read text⟩
  cases reads with
  | absent =>
      by_cases micro : field = .micro
      · subst micro
        exact .inl ⟨_, .absent⟩
      · exact .inr ⟨_, .missing micro⟩
  | wildcard wild =>
      by_cases major : field = .major
      · subst major
        exact .inr ⟨_, .wildcard wild⟩
      · exact .inl ⟨_, .wildcard major wild⟩
  | @int _ n spelt word =>
      cases n with
      | ofNat n => exact .inl ⟨_, .number spelt (isWord_natCast.mp word)⟩
      | negSucc n => exact .inr ⟨_, .negative spelt word (Int.negSucc_lt_zero n)⟩
  | verbatim something tame unspelt => exact .inr ⟨_, .unspelt something tame unspelt⟩

end Field

namespace Number

/-! ## Reading one field -/

/-- Reads the token of any field. -/
def readField : Field → Token → Except Fault Component
  | .major, token => (readMajor token).map .exactly
  | .minor, token => readMinor token
  | .micro, token => readMicro token

/-- All fields treat what is neither the wildcard nor nothing in the same way. -/
theorem readField_eq_nonNegative {field : Field} {token : Token} (given : token.read ≠ .unset)
    (tame : token.read ≠ .wildcard) :
    readField field token = (nonNegative field token.read).map .exactly := by
  cases field with
  | major => simp only [readField, readMajor]
  | minor => simp only [readField, readMinor]
  | micro => simp only [readField, readMicro]

theorem readField_of_holds {field : Field} {text : List Char} {component : Component}
    (holds : field.Holds text component) : readField field (.text text) = .ok component := by
  cases holds with
  | number spelt small =>
      have read := read_of_reads (.int spelt (isWord_natCast.mpr small))
      rw [readField_eq_nonNegative (by simp [read]) (by simp [read]), read]
      rfl
  | wildcard notMajor wild =>
      have read := read_of_reads (.wildcard wild)
      cases field with
      | major => contradiction
      | minor => rw [readField, readMinor, read]
      | micro => rw [readField, readMicro, read]
  | absent => rfl

theorem readField_of_refuses {field : Field} {text : List Char} {fault : Fault}
    (refuses : field.Refuses text fault) : readField field (.text text) = .error fault := by
  cases refuses with
  | missing notMicro =>
      cases field with
      | major => rfl
      | minor => rfl
      | micro => contradiction
  | wildcard wild =>
      rw [readField, readMajor, read_of_reads (.wildcard wild)]
      rfl
  | @negative _ _ n spelt word below =>
      have read := read_of_reads (.int spelt word)
      obtain ⟨m, rfl⟩ := Int.eq_negSucc_of_lt_zero below
      rw [readField_eq_nonNegative (by simp [read]) (by simp [read]), read]
      rfl
  | unspelt something tame unspelt =>
      have read := read_of_reads (.verbatim something tame unspelt)
      rw [readField_eq_nonNegative (by simp [read]) (by simp [read]), read]
      rfl

theorem readMajor_of_readField {token : Token} {n : Nat}
    (read : readField .major token = .ok (.exactly n)) : readMajor token = .ok n := by
  obtain ⟨m, majorRead, same⟩ := map_eq_ok_iff.mp read
  cases same
  exact majorRead

/-! ## Fields -/

/-- A text that is not empty falls into fields at its first two dots: later dots stay with the
micro, and without a dot the minor, without a second one the micro, is empty.  After a second dot
there must be something. -/
inductive Divides : List Char → List Char → List Char → List Char → Prop
  | major {text : List Char} : text ≠ [] → '.' ∉ text → Divides text text [] []
  | minor {major minor : List Char} :
      '.' ∉ major → '.' ∉ minor → Divides (major ++ '.' :: minor) major minor []
  | micro {major minor micro : List Char} :
      '.' ∉ major → '.' ∉ minor → micro ≠ [] →
      Divides (major ++ '.' :: (minor ++ '.' :: micro)) major minor micro

/-- Nothing follows the second dot. -/
def EndsInDot (text : List Char) : Prop :=
  ∃ major minor, '.' ∉ major ∧ '.' ∉ minor ∧ text = major ++ '.' :: (minor ++ ['.'])

theorem exists_divides_or_endsInDot {text : List Char} (something : text ≠ []) :
    (∃ major minor micro, Divides text major minor micro) ∨ EndsInDot text := by
  cases first : cut? '.' text with
  | none => exact .inl ⟨_, _, _, .major something (cut?_eq_none_iff.mp first)⟩
  | some pieces =>
      obtain ⟨major, rest⟩ := pieces
      obtain ⟨rfl, majorFree⟩ := cut?_eq_some_iff.mp first
      cases second : cut? '.' rest with
      | none => exact .inl ⟨_, _, _, .minor majorFree (cut?_eq_none_iff.mp second)⟩
      | some pieces =>
          obtain ⟨minor, micro⟩ := pieces
          obtain ⟨rfl, minorFree⟩ := cut?_eq_some_iff.mp second
          by_cases nothing : micro = []
          · subst nothing
            exact .inr ⟨major, minor, majorFree, minorFree, rfl⟩
          · exact .inl ⟨_, _, _, .micro majorFree minorFree nothing⟩

theorem Divides.ne_nil {text major minor micro : List Char}
    (divides : Divides text major minor micro) : text ≠ [] := by
  cases divides with
  | major something _ => exact something
  | minor _ _ => simp
  | micro _ _ _ => simp

theorem fields?_of_divides {text major minor micro : List Char}
    (divides : Divides text major minor micro) : fields? text = some (major, minor, micro) := by
  cases divides with
  | major _ free => simp only [fields?, cut?_eq_none_iff.mpr free]
  | minor majorFree minorFree =>
      simp only [fields?, cut?_eq_some_iff.mpr ⟨rfl, majorFree⟩, cut?_eq_none_iff.mpr minorFree]
  | micro majorFree minorFree something =>
      obtain ⟨c, rest, rfl⟩ := List.exists_cons_of_ne_nil something
      simp only [fields?, cut?_eq_some_iff.mpr ⟨rfl, majorFree⟩,
        cut?_eq_some_iff.mpr ⟨rfl, minorFree⟩]

theorem fields?_of_endsInDot {text : List Char} (ends : EndsInDot text) : fields? text = none := by
  obtain ⟨major, minor, majorFree, minorFree, rfl⟩ := ends
  simp only [fields?, cut?_eq_some_iff.mpr ⟨rfl, majorFree⟩,
    cut?_eq_some_iff.mpr ⟨rfl, minorFree⟩]

theorem read_of_divides {chars major minor micro : List Char}
    (divides : Divides (trim chars) major minor micro) :
    read chars = ofTokens (.text major) (.text minor) (.text micro) := by
  simp only [read, if_neg divides.ne_nil, fields?_of_divides divides]

theorem read_of_endsInDot {chars : List Char} (ends : EndsInDot (trim chars)) :
    read chars = .error (.missing .micro) := by
  have something : trim chars ≠ [] := by
    obtain ⟨major, minor, -, -, textEq⟩ := ends
    simp [textEq]
  simp only [read, if_neg something, fields?_of_endsInDot ends]

/-! ## The rules between fields -/

/-- The pieces of the text stand for the fields of the number, whether or not these fields obey
the rules between them. -/
def Spelt (text : List Char) (number : Number) : Prop :=
  ∃ major minor micro, Divides text major minor micro ∧
    Field.major.Holds major (.exactly number.major) ∧ Field.minor.Holds minor number.minor ∧
    Field.micro.Holds micro number.micro

theorem Spelt.minor_ne_unset {text : List Char} {number : Number} (spelt : Spelt text number) :
    number.minor ≠ .unset := by
  obtain ⟨_, _, _, -, -, holds, -⟩ := spelt
  intro absent
  rw [absent] at holds
  nomatch holds

section

variable {major minor micro : Token} {number : Number} {fault : Fault}

theorem ofTokens_of_badMajor (refused : readField .major major = .error fault) :
    ofTokens major minor micro = .error fault := by
  rw [ofTokens, map_eq_error_iff.mp refused]
  rfl

theorem ofTokens_of_badMinor {n : Nat} (majorRead : readField .major major = .ok (.exactly n))
    (refused : readField .minor minor = .error fault) :
    ofTokens major minor micro = .error fault := by
  rw [readField] at refused
  rw [ofTokens, readMajor_of_readField majorRead, refused]
  rfl

theorem ofTokens_of_badMicro {n : Nat} {minorHeld : Component}
    (majorRead : readField .major major = .ok (.exactly n))
    (minorRead : readField .minor minor = .ok minorHeld)
    (refused : readField .micro micro = .error fault) :
    ofTokens major minor micro = .error fault := by
  simp only [readField] at minorRead refused
  rw [ofTokens, readMajor_of_readField majorRead, minorRead, refused]
  rfl

theorem ofTokens_of_fields (majorRead : readField .major major = .ok (.exactly number.major))
    (minorRead : readField .minor minor = .ok number.minor)
    (microRead : readField .micro micro = .ok number.micro) :
    ofTokens major minor micro = ofComponents number.major number.minor number.micro := by
  simp only [readField] at minorRead microRead
  rw [ofTokens, readMajor_of_readField majorRead, minorRead, microRead]
  rfl

end

theorem read_of_spelt {chars : List Char} {number : Number} (spelt : Spelt (trim chars) number) :
    read chars = ofComponents number.major number.minor number.micro := by
  obtain ⟨major, minor, micro, divides, majorHolds, minorHolds, microHolds⟩ := spelt
  rw [read_of_divides divides]
  exact ofTokens_of_fields (readField_of_holds majorHolds) (readField_of_holds minorHolds)
    (readField_of_holds microHolds)

/-! ## All outcomes -/

/-- What comes of a trimmed text.  The fields are looked at from left to right, then a micro beside
a wildcard minor, and last whether all is zero. -/
inductive Verdict (text : List Char) : Except Fault Number → Prop
  /-- Nothing is left of the text. -/
  | empty : text = [] → Verdict text (.error .empty)
  /-- Nothing follows the second dot. -/
  | endsInDot : EndsInDot text → Verdict text (.error (.missing .micro))
  /-- The major is refused. -/
  | badMajor {major minor micro : List Char} {fault : Fault} :
      Divides text major minor micro → Field.major.Refuses major fault →
      Verdict text (.error fault)
  /-- The minor is refused. -/
  | badMinor {major minor micro : List Char} {n : Nat} {fault : Fault} :
      Divides text major minor micro → Field.major.Holds major (.exactly n) →
      Field.minor.Refuses minor fault → Verdict text (.error fault)
  /-- The micro is refused. -/
  | badMicro {major minor micro : List Char} {n : Nat} {held : Component} {fault : Fault} :
      Divides text major minor micro → Field.major.Holds major (.exactly n) →
      Field.minor.Holds minor held → Field.micro.Refuses micro fault →
      Verdict text (.error fault)
  /-- A micro stands beside a wildcard minor. -/
  | microAfterWildcard {number : Number} :
      Spelt text number → number.minor = .wildcard → number.micro ≠ .unset →
      Verdict text (.error (.microAfterWildcard number.micro.text))
  /-- All that is there is zero. -/
  | allZero {number : Number} :
      Spelt text number → number.major = 0 → number.minor = .exactly 0 →
      number.micro = .exactly 0 ∨ number.micro = .unset → Verdict text (.error .allZero)
  /-- A number, whose fields are those of the text. -/
  | number {number : Number} :
      Spelt text number → number.WellFormed → Verdict text (.ok number)

/-- Every outcome of checking the rules between fields is accounted for. -/
theorem verdict_ofComponents {text : List Char} {number : Number} (spelt : Spelt text number) :
    Verdict text (ofComponents number.major number.minor number.micro) := by
  rw [ofComponents, if_neg spelt.minor_ne_unset]
  split
  · rename_i both
    exact .microAfterWildcard spelt both.1 both.2
  · rename_i apart
    split
    · rename_i zero
      exact .allZero spelt zero.1 zero.2.1 zero.2.2
    · rename_i nonzero
      refine .number spelt ⟨spelt.minor_ne_unset, fun wild => ?_, nonzero⟩
      exact Decidable.byContradiction fun set => apart ⟨wild, set⟩

/-- Every outcome of reading the fields is accounted for. -/
theorem verdict_of_divides {chars major minor micro : List Char}
    (divides : Divides (trim chars) major minor micro) : Verdict (trim chars) (read chars) := by
  rcases Field.holds_or_refuses .major major with ⟨held, majorHolds⟩ | ⟨fault, refuses⟩
  · obtain ⟨n, rfl⟩ := majorHolds.exists_of_major
    have majorRead := readField_of_holds majorHolds
    rcases Field.holds_or_refuses .minor minor with ⟨heldMinor, minorHolds⟩ | ⟨fault, refuses⟩
    · have minorRead := readField_of_holds minorHolds
      rcases Field.holds_or_refuses .micro micro with ⟨heldMicro, microHolds⟩ | ⟨fault, refuses⟩
      · have spelt : Spelt (trim chars) ⟨n, heldMinor, heldMicro⟩ :=
          ⟨major, minor, micro, divides, majorHolds, minorHolds, microHolds⟩
        rw [read_of_spelt spelt]
        exact verdict_ofComponents spelt
      · rw [read_of_divides divides,
          ofTokens_of_badMicro majorRead minorRead (readField_of_refuses refuses)]
        exact .badMicro divides majorHolds minorHolds refuses
    · rw [read_of_divides divides, ofTokens_of_badMinor majorRead (readField_of_refuses refuses)]
      exact .badMinor divides majorHolds refuses
  · rw [read_of_divides divides, ofTokens_of_badMajor (readField_of_refuses refuses)]
    exact .badMajor divides refuses

theorem verdict_read (chars : List Char) : Verdict (trim chars) (read chars) := by
  by_cases nothing : trim chars = []
  · simp only [read, if_pos nothing]
    exact .empty nothing
  · rcases exists_divides_or_endsInDot nothing with ⟨major, minor, micro, divides⟩ | ends
    · exact verdict_of_divides divides
    · rw [read_of_endsInDot ends]
      exact .endsInDot ends

/-- Under the conditions of an outcome reading has just this outcome. -/
theorem read_of_verdict {chars : List Char} {result : Except Fault Number}
    (verdict : Verdict (trim chars) result) : read chars = result := by
  cases verdict with
  | empty nothing => simp only [read, if_pos nothing]
  | endsInDot ends => exact read_of_endsInDot ends
  | badMajor divides refuses =>
      rw [read_of_divides divides, ofTokens_of_badMajor (readField_of_refuses refuses)]
  | badMinor divides majorHolds refuses =>
      rw [read_of_divides divides,
        ofTokens_of_badMinor (readField_of_holds majorHolds) (readField_of_refuses refuses)]
  | badMicro divides majorHolds minorHolds refuses =>
      rw [read_of_divides divides,
        ofTokens_of_badMicro (readField_of_holds majorHolds) (readField_of_holds minorHolds)
          (readField_of_refuses refuses)]
  | microAfterWildcard spelt wild set =>
      rw [read_of_spelt spelt, ofComponents, if_neg spelt.minor_ne_unset, if_pos ⟨wild, set⟩]
  | allZero spelt major minor micro =>
      have tame : ¬(Component.exactly 0 = .wildcard) := by simp
      rw [read_of_spelt spelt, ofComponents, if_neg spelt.minor_ne_unset, minor,
        if_neg fun both => tame both.1, if_pos ⟨major, rfl, micro⟩]
  | number spelt wellFormed =>
      rw [read_of_spelt spelt]
      exact ofComponents_eq_ok_iff.mpr ⟨rfl, wellFormed⟩

/-- The grammar of version numbers, for texts that are accepted and texts that are refused: with
the white space at both ends taken away, a text comes to just what its pieces between dots come
to. -/
theorem parse_eq_iff_verdict_of_trimmed (raw : String) (result : Except Fault Number) :
    parse raw = result ↔ ∃ text, Trimmed raw.toList text ∧ Verdict text result := by
  constructor
  · rintro rfl
    exact ⟨trim raw.toList, trimmed_trim raw.toList, verdict_read raw.toList⟩
  · rintro ⟨text, trimmed, verdict⟩
    rw [← trim_eq_iff.mpr trimmed] at verdict
    exact read_of_verdict verdict

end Number

end ReleaseVersion
