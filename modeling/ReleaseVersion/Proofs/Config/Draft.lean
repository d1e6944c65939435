import Mathlib.Data.Option.Defs
import ReleaseVersion.Config.Load
import ReleaseVersion.Proofs.Entries
import ReleaseVersion.Proofs.Number.Reading

/-!
# Configurations in every notation

A draft is what a document says whatever its notation: which texts stand under which keys.  Trees
may hold these texts in any order, and each notation has customs of its own, but every tree that
states a draft is decoded to the one configuration that the draft describes, or is refused because
one of its versions is none.
-/

namespace ReleaseVersion.Config

open Document

/-! ## Drafts -/

/-- The value is what a reader makes of the text, and without a text there is none. -/
def ReadAs {α : Type} (reader : String → Except Fault α) : Option String → Option α → Prop :=
  Option.Rel fun raw value => reader raw = .ok value

/-- What a document says, whatever its notation. -/
structure Draft where
  /-- The texts in the table of the client, when there is one, with their keys. -/
  client? : Option (List (String × String))
  /-- The texts beside that table, with their keys. -/
  others : List (String × String)
  keyed : ∀ entries, client? = some entries → (entries.map Prod.fst).Nodup
  apart : clientKey ∉ others.map Prod.fst

namespace Draft

/-- The text that is given for a field. -/
def text? (draft : Draft) (field : ChoiceField) : Option String :=
  draft.client?.bind fun entries => entries.lookup field.key

/-- The configuration has what is given, and defaults for the rest. -/
structure Describes (draft : Draft) (config : Config) : Prop where
  executable : config.client.executable = (draft.text? .executable).getD Client.defaultName
  version : ReadAs Number.parse (draft.text? .version) config.client.version
  agentVersion : ReadAs Version.parse (draft.text? .agentVersion) config.client.agentVersion

/-- A text that is given for a version is none. -/
inductive Refused (draft : Draft) : Prop
  | version {raw : String} {fault : Fault} :
      draft.text? .version = some raw → Number.parse raw = .error fault → Refused draft
  | agentVersion {raw : String} {fault : Fault} :
      draft.text? .agentVersion = some raw → Version.parse raw = .error fault → Refused draft

end Draft

/-! ## Fields -/

variable {Mark : Type} {customs : Customs} {owner : Mark} {path : List String}
  {field other : ChoiceField} {before middle after : ClientChoice} {text : String}
  {text? : Option String}

/-- A value after a text has been given for it, or none. -/
def Replaced {α : Type} (reader : String → Except Fault α) (before : Option α)
    (text? : Option String) (after : Option α) : Prop :=
  match text? with
  | none => after = before
  | some raw => ∃ value, reader raw = .ok value ∧ after = some value

/-- A choice after a text has been given for one field, or none, as far as that field goes. -/
def ChoiceField.Takes (field : ChoiceField) (before : ClientChoice) (text? : Option String)
    (after : ClientChoice) : Prop :=
  match field with
  | executable => after.executable = text?.getD before.executable
  | version => Replaced Number.parse before.version text? after.version
  | agentVersion => Replaced Version.parse before.agentVersion text? after.agentVersion

theorem ChoiceField.ofKey?_eq_none_iff {key : String} :
    ofKey? key = none ↔ ∀ field : ChoiceField, field.key ≠ key := by
  simp only [ofKey?, List.find?_eq_none, decide_eq_true_eq]
  constructor
  · intro unknown field
    apply unknown
    cases field <;> decide
  · intro unknown field _
    exact unknown field

theorem ChoiceField.key_of_ofKey? {key : String} (found : ofKey? key = some field) :
    field.key = key := by
  simpa using List.find?_some found

theorem ChoiceField.key_injective (same : field.key = other.key) : field = other := by
  revert same
  cases field <;> cases other <;> decide

/-- A field that has been left alone takes the next text as it would have before. -/
theorem ChoiceField.takes_iff_of_kept (kept : field.Takes before none middle) :
    field.Takes middle text? after ↔ field.Takes before text? after := by
  cases field with
  | executable =>
      have same : middle.executable = before.executable := kept
      simp only [Takes, same]
  | version =>
      have same : middle.version = before.version := kept
      simp only [Takes, same]
  | agentVersion =>
      have same : middle.agentVersion = before.agentVersion := kept
      simp only [Takes, same]

theorem replaced_none_iff_of_given {α : Type} {reader : String → Except Fault α}
    {before middle after : Option α} (given : Replaced reader before (some text) middle) :
    Replaced reader middle none after ↔ Replaced reader before (some text) after := by
  obtain ⟨value, read, rfl⟩ := given
  simp only [Replaced, read, Except.ok.injEq, exists_eq_left']

/-- A field that has taken a text has it exactly as long as it is left alone. -/
theorem ChoiceField.takes_none_iff_of_given (given : field.Takes before (some text) middle) :
    field.Takes middle none after ↔ field.Takes before (some text) after := by
  cases field with
  | executable =>
      have same : middle.executable = text := given
      simp only [Takes, same, Option.getD_none, Option.getD_some]
  | version =>
      have replaced : Replaced Number.parse before.version (some text) middle.version := given
      exact replaced_none_iff_of_given replaced
  | agentVersion =>
      have replaced : Replaced Version.parse before.agentVersion (some text) middle.agentVersion :=
        given
      exact replaced_none_iff_of_given replaced

theorem takes_none_self (field : ChoiceField) (choice : ClientChoice) :
    field.Takes choice none choice := by
  cases field <;> rfl

/-- Nothing changes when no field is given. -/
theorem eq_iff_takes_none :
    before = after ↔ ∀ field : ChoiceField, field.Takes before none after := by
  constructor
  · rintro rfl field
    exact takes_none_self field before
  · intro kept
    obtain ⟨executable, version, agentVersion⟩ := before
    obtain ⟨executableAfter, versionAfter, agentVersionAfter⟩ := after
    have sameExecutable : executableAfter = executable := kept .executable
    have sameVersion : versionAfter = version := kept .version
    have sameAgentVersion : agentVersionAfter = agentVersion := kept .agentVersion
    rw [sameExecutable, sameVersion, sameAgentVersion]

/-- A node that gives a text. -/
structure Gives (node : Node Mark) (text : String) : Prop where
  text : node.text? = some text
  presence : node.presence = .given

variable {node : Node Mark}

theorem decodeText_eq_ok (gives : Gives node text) : decodeText path owner node = .ok text := by
  simp only [decodeText, gives.text]

theorem decodeOptional_eq_ok_iff {α : Type} {reader : String → Except Fault α} {value? : Option α}
    (gives : Gives node text) :
    decodeOptional reader path owner node = .ok value? ↔
      ∃ value, reader text = .ok value ∧ value? = some value := by
  simp only [decodeOptional, gives.presence, decodeText_eq_ok gives]
  cases reader text with
  | error fault => simp
  | ok value => simp [eq_comm]

/-- When a node is decoded for a field, that field takes its text, and the others are kept. -/
theorem takes_of_decodeField (gives : Gives node text)
    (decoded : decodeField before field path owner node = .ok after) :
    field.Takes before (some text) after ∧
      ∀ other, other ≠ field → other.Takes before none after := by
  cases field with
  | executable =>
      obtain ⟨read, textDecoded, rfl⟩ := map_eq_ok_iff.mp decoded
      cases (decodeText_eq_ok gives).symm.trans textDecoded
      refine ⟨rfl, ?_⟩
      rintro (_ | _ | _) different
      · contradiction
      · rfl
      · rfl
  | version =>
      obtain ⟨number?, optionalDecoded, rfl⟩ := map_eq_ok_iff.mp decoded
      refine ⟨(decodeOptional_eq_ok_iff gives).mp optionalDecoded, ?_⟩
      rintro (_ | _ | _) different
      · rfl
      · contradiction
      · rfl
  | agentVersion =>
      obtain ⟨version?, optionalDecoded, rfl⟩ := map_eq_ok_iff.mp decoded
      refine ⟨(decodeOptional_eq_ok_iff gives).mp optionalDecoded, ?_⟩
      rintro (_ | _ | _) different
      · rfl
      · rfl
      · contradiction

/-- A node is decoded for a field that can take its text. -/
theorem exists_decodeField (gives : Gives node text)
    (takes : field.Takes before (some text) after) :
    ∃ changed, decodeField before field path owner node = .ok changed := by
  cases field with
  | executable => exact ⟨_, map_eq_ok_iff.mpr ⟨text, decodeText_eq_ok gives, rfl⟩⟩
  | version => exact ⟨_, map_eq_ok_iff.mpr ⟨_, (decodeOptional_eq_ok_iff gives).mpr takes, rfl⟩⟩
  | agentVersion =>
      exact ⟨_, map_eq_ok_iff.mpr ⟨_, (decodeOptional_eq_ok_iff gives).mpr takes, rfl⟩⟩

/-! ## Tables -/

/-- An entry that gives a text under a key. -/
structure GivesUnder (entry : Key Mark × Node Mark) (named : String × String) : Prop where
  name : entry.1.name? = some named.1
  value : Gives entry.2 named.2

/-- Entries that give these texts under their keys, in this order. -/
abbrev Lists (entries : List (Key Mark × Node Mark)) (texts : List (String × String)) : Prop :=
  List.Forall₂ GivesUnder entries texts

variable {seen : List ChoiceField} {key : Key Mark} {name : String}
  {entries rest : List (Key Mark × Node Mark)} {texts : List (String × String)}

theorem decodeEntries_cons_of_unknown (named : key.name? = some name)
    (unknown : ChoiceField.ofKey? name = none) :
    decodeEntries customs path owner seen before ((key, node) :: rest) =
      decodeEntries customs path owner seen before rest := by
  simp only [decodeEntries, keyName, named, unknown]

theorem decodeEntries_cons_of_decoded (named : key.name? = some name)
    (known : ChoiceField.ofKey? name = some field) (fresh : field ∉ seen)
    (decoded : decodeField before field (path ++ [key.label]) owner node = .ok middle) :
    decodeEntries customs path owner seen before ((key, node) :: rest) =
      decodeEntries customs path owner (field :: seen) middle rest := by
  simp only [decodeEntries, keyName, named, known, decoded]
  exact if_neg (by simp [fresh])

theorem decodeEntries_cons_of_refused {refusal : Refusal Mark} (named : key.name? = some name)
    (known : ChoiceField.ofKey? name = some field) (fresh : field ∉ seen)
    (refused : decodeField before field (path ++ [key.label]) owner node = .error refusal) :
    decodeEntries customs path owner seen before ((key, node) :: rest) = .error refusal := by
  simp only [decodeEntries, keyName, named, known, refused]
  exact if_neg (by simp [fresh])

/-- An entry of its own field: that field takes the text, and all fields take what follows. -/
theorem takes_cons_iff (absent : field.key ∉ texts.map Prod.fst)
    (takes : field.Takes before (some text) middle)
    (kept : ∀ other, other ≠ field → other.Takes before none middle) :
    (∀ other : ChoiceField, other.Takes middle (texts.lookup other.key) after) ↔
      ∀ other : ChoiceField, other.Takes before (((field.key, text) :: texts).lookup other.key)
        after := by
  apply forall_congr'
  intro other
  by_cases same : other = field
  · subst same
    rw [lookup_eq_none_iff_not_mem.mpr absent, List.lookup_cons_self]
    exact ChoiceField.takes_none_iff_of_given takes
  · have different : other.key ≠ field.key := fun equal => same (ChoiceField.key_injective equal)
    rw [List.lookup_cons, beq_eq_false_iff_ne.mpr different]
    exact ChoiceField.takes_iff_of_kept (kept other same)

/-- Every field takes the text that stands under its key, if there is one. -/
theorem decodeEntries_eq_ok_iff (lists : Lists entries texts)
    (keyed : (texts.map Prod.fst).Nodup) (fresh : ∀ field ∈ seen, field.key ∉ texts.map Prod.fst) :
    decodeEntries customs path owner seen before entries = .ok after ↔
      ∀ field : ChoiceField, field.Takes before (texts.lookup field.key) after := by
  induction lists generalizing seen before with
  | nil =>
      simp only [decodeEntries, Except.ok.injEq, List.lookup_nil]
      exact eq_iff_takes_none
  | @cons entry named entries texts gives lists inductionHypothesis =>
      obtain ⟨key, node⟩ := entry
      obtain ⟨name, text⟩ := named
      obtain ⟨absent, keyedRest⟩ := List.nodup_cons.mp keyed
      have freshRest : ∀ field ∈ seen, field.key ∉ texts.map Prod.fst := fun field member =>
        List.not_mem_of_not_mem_cons (fresh field member)
      cases known : ChoiceField.ofKey? name with
      | none =>
          rw [decodeEntries_cons_of_unknown gives.name known,
            inductionHypothesis keyedRest freshRest]
          apply forall_congr'
          intro field
          have different := ChoiceField.ofKey?_eq_none_iff.mp known field
          rw [List.lookup_cons, beq_eq_false_iff_ne.mpr different]
      | some field =>
          obtain rfl : field.key = name := ChoiceField.key_of_ofKey? known
          have unseen : field ∉ seen := fun member =>
            fresh field member List.mem_cons_self
          have freshToo : ∀ other ∈ field :: seen, other.key ∉ texts.map Prod.fst :=
            List.forall_mem_cons.mpr ⟨absent, freshRest⟩
          cases decoded : decodeField before field (path ++ [key.label]) owner node with
          | ok changed =>
              obtain ⟨takes, kept⟩ := takes_of_decodeField gives.value decoded
              rw [decodeEntries_cons_of_decoded gives.name known unseen decoded,
                ← takes_cons_iff absent takes kept]
              exact inductionHypothesis keyedRest freshToo
          | error refusal =>
              rw [decodeEntries_cons_of_refused gives.name known unseen decoded]
              constructor
              · intro accepted
                contradiction
              · intro all
                have takes := all field
                rw [List.lookup_cons_self] at takes
                obtain ⟨changed, accepted⟩ := exists_decodeField gives.value takes
                cases decoded.symm.trans accepted

/-- Entries under other keys than that of the client are passed over. -/
theorem decodeTop_append_of_passed {config : Config} {seenClient : Bool}
    (lists : Lists entries texts) (apart : clientKey ∉ texts.map Prod.fst)
    (rest : List (Key Mark × Node Mark)) :
    decodeTop customs owner seenClient config (entries ++ rest) =
      decodeTop customs owner seenClient config rest := by
  induction lists with
  | nil => rfl
  | @cons entry named entries texts gives lists inductionHypothesis =>
      obtain ⟨key, node⟩ := entry
      obtain ⟨notClient, apartRest⟩ := not_or.mp (List.mem_cons.not.mp apart)
      have name : key.name? = some named.1 := gives.name
      simp only [List.cons_append, decodeTop, keyName, name]
      rw [if_pos (Ne.symm notClient)]
      exact inductionHypothesis apartRest

/-! ## Trees -/

/-- A tree that states a draft, its entries in any order. -/
inductive Draft.StatedBy (draft : Draft) : Node Mark → Prop
  /-- There is no table of the client. -/
  | bare {mark : Mark} {entries : List (Key Mark × Node Mark)}
      {order : List (String × String)} :
      draft.client? = none →
      order.Perm draft.others → Lists entries order →
      StatedBy draft (.table mark entries)
  /-- The table of the client stands among the other entries. -/
  | choosing {mark inner : Mark} {key : Key Mark}
      {before entries after : List (Key Mark × Node Mark)}
      {texts order orderBefore orderAfter : List (String × String)} :
      draft.client? = some texts →
      order.Perm texts → Lists entries order → key.name? = some clientKey →
      (orderBefore ++ orderAfter).Perm draft.others →
      Lists before orderBefore → Lists after orderAfter →
      StatedBy draft (.table mark (before ++ (key, .table inner entries) :: after))

/-- The text of a node that gives one. -/
def given? (node : Node Mark) : Option String :=
  if node.presence = .given then node.text? else none

/-- The texts that entries give under their keys, when each of them gives one. -/
def listed? : List (Key Mark × Node Mark) → Option (List (String × String))
  | [] => some []
  | (key, node) :: rest => do
    let name ← key.name?
    let text ← given? node
    let texts ← listed? rest
    some ((name, text) :: texts)

/-- The texts before the table of the client, in it, and after it. -/
def divided? : List (Key Mark × Node Mark) →
    Option (List (String × String) × List (String × String) × List (String × String))
  | [] => none
  | (key, .table _ entries) :: rest => do
    let inner ← listed? entries
    let after ← listed? rest
    if key.name? = some clientKey then some ([], inner, after) else none
  | (key, node) :: rest => do
    let name ← key.name?
    let text ← given? node
    let (before, inner, after) ← divided? rest
    some ((name, text) :: before, inner, after)

/-- The texts before the table of the client, in it, and after it, when a tree has such a table. -/
def outline? : Node Mark →
    Option (List (String × String) × List (String × String) × List (String × String))
  | .table _ entries => divided? entries
  | _ => none

theorem given?_eq_some_iff : given? node = some text ↔ Gives node text := by
  unfold given?
  constructor
  · intro given
    split at given
    · rename_i present
      exact ⟨given, present⟩
    · contradiction
  · rintro ⟨given, present⟩
    rw [if_pos present, given]

theorem listed?_eq_some_iff : listed? entries = some texts ↔ Lists entries texts := by
  induction entries generalizing texts with
  | nil => simp [listed?, eq_comm]
  | cons entry rest inductionHypothesis =>
      obtain ⟨key, node⟩ := entry
      simp only [listed?, Option.bind_eq_bind, Option.bind_eq_some_iff, given?_eq_some_iff,
        inductionHypothesis, Option.some.injEq]
      constructor
      · rintro ⟨name, named, text, gives, others, lists, rfl⟩
        exact .cons ⟨named, gives⟩ lists
      · rintro (_ | ⟨⟨named, gives⟩, lists⟩)
        exact ⟨_, named, _, gives, _, lists, rfl⟩

theorem exists_of_divided? {before inner after : List (String × String)}
    (divided : divided? entries = some (before, inner, after)) :
    ∃ front key mark table back, entries = front ++ (key, .table mark table) :: back ∧
      key.name? = some clientKey ∧ Lists front before ∧ Lists table inner ∧ Lists back after := by
  induction entries generalizing before with
  | nil => contradiction
  | cons entry rest inductionHypothesis =>
      obtain ⟨key, node⟩ := entry
      cases node with
      | table mark table =>
          simp only [divided?, Option.bind_eq_bind, Option.bind_eq_some_iff,
            listed?_eq_some_iff] at divided
          obtain ⟨inner, lists, after, listsAfter, same⟩ := divided
          split at same
          · rename_i named
            cases same
            exact ⟨[], key, mark, table, rest, rfl, named, .nil, lists, listsAfter⟩
          · contradiction
      | row mark items =>
          -- A row gives no text.
          simp [divided?, given?, Node.text?] at divided
      | scalar mark content =>
          simp only [divided?, Option.bind_eq_bind, Option.bind_eq_some_iff,
            given?_eq_some_iff] at divided
          obtain ⟨name, named, text, gives, ⟨before, inner, after⟩, dividedRest, same⟩ := divided
          cases same
          obtain ⟨front, clientKey, mark, table, back, rfl, isClient, lists, others⟩ :=
            inductionHypothesis dividedRest
          exact ⟨_ :: front, clientKey, mark, table, back, rfl, isClient,
            .cons ⟨named, gives⟩ lists, others⟩

theorem statedBy_of_outline? {draft : Draft} {root : Node Mark}
    {before inner after : List (String × String)}
    (outlined : outline? root = some (before, inner, after))
    (client : draft.client? = some texts) (permuted : inner.Perm texts)
    (permutedOthers : (before ++ after).Perm draft.others) : draft.StatedBy root := by
  cases root with
  | table mark entries =>
      obtain ⟨front, key, inner, table, back, rfl, named, listsFront, lists, listsBack⟩ :=
        exists_of_divided? outlined
      exact .choosing client permuted lists named permutedOthers listsFront listsBack
  | row mark items => contradiction
  | scalar mark content => contradiction

theorem replaced_of_none_iff {α : Type} {reader : String → Except Fault α} {after : Option α} :
    Replaced reader none text? after ↔ ReadAs reader text? after := by
  cases text? with
  | none => cases after <;> simp [Replaced, ReadAs]
  | some raw => cases after <;> simp [Replaced, ReadAs]

theorem Draft.describes_iff_takes {draft : Draft} {choice : ClientChoice} :
    draft.Describes ⟨choice⟩ ↔
      ∀ field : ChoiceField, field.Takes .default (draft.text? field) choice := by
  constructor
  · rintro ⟨executable, version, agentVersion⟩ (_ | _ | _)
    · exact executable
    · exact replaced_of_none_iff.mpr version
    · exact replaced_of_none_iff.mpr agentVersion
  · intro takes
    exact ⟨takes .executable, replaced_of_none_iff.mp (takes .version),
      replaced_of_none_iff.mp (takes .agentVersion)⟩

theorem decode_of_bare {mark : Mark} (lists : Lists entries texts)
    (apart : clientKey ∉ texts.map Prod.fst) :
    decode customs (.table mark entries) = .ok .default := by
  rw [decode, ← List.append_nil entries]
  exact decodeTop_append_of_passed lists apart []

theorem decode_of_choosing {mark inner : Mark}
    {beforeClient afterClient : List (Key Mark × Node Mark)}
    {textsBefore textsAfter : List (String × String)} (named : key.name? = some clientKey)
    (listsBefore : Lists beforeClient textsBefore) (listsAfter : Lists afterClient textsAfter)
    (apartBefore : clientKey ∉ textsBefore.map Prod.fst)
    (apartAfter : clientKey ∉ textsAfter.map Prod.fst) :
    decode customs (.table mark (beforeClient ++ (key, .table inner entries) :: afterClient)) =
      (decodeEntries customs [key.label] inner [] .default entries).map Config.mk := by
  have passed (config : Config) : decodeTop customs mark true config afterClient = .ok config := by
    rw [← List.append_nil afterClient]
    exact decodeTop_append_of_passed listsAfter apartAfter []
  rw [decode, decodeTop_append_of_passed listsBefore apartBefore]
  simp only [decodeTop, keyName, named, ne_eq, not_true_eq_false, if_false, decodeChoice]
  rw [if_neg (by simp)]
  cases decodeEntries customs [key.label] inner [] ClientChoice.default entries with
  | error refusal => rfl
  | ok choice => exact passed ⟨choice⟩

/-- Whatever the customs are, a tree is decoded to what the draft describes, and to nothing else. -/
theorem decode_eq_ok_iff_describes (customs : Customs) {draft : Draft} {root : Node Mark}
    (stated : draft.StatedBy root) (config : Config) :
    decode customs root = .ok config ↔ draft.Describes config := by
  obtain ⟨choice⟩ := config
  rw [Draft.describes_iff_takes]
  cases stated with
  | bare client permuted lists =>
      have apart := mt (permuted.map Prod.fst).mem_iff.mp draft.apart
      rw [decode_of_bare lists apart]
      simp only [Except.ok.injEq, Config.default, Config.mk.injEq, Draft.text?, client,
        Option.bind_none]
      exact eq_iff_takes_none
  | @choosing _ _ _ _ _ _ texts order _ _ client permuted lists named permutedOthers listsBefore
      listsAfter =>
      have apart := mt (permutedOthers.map Prod.fst).mem_iff.mp draft.apart
      rw [List.map_append, List.mem_append, not_or] at apart
      have keyed : (order.map Prod.fst).Nodup :=
        (permuted.map Prod.fst).nodup_iff.mpr (draft.keyed texts client)
      have sameText (field : ChoiceField) : draft.text? field = order.lookup field.key := by
        rw [Draft.text?, client, Option.bind_some, lookup_eq_of_perm permuted keyed]
      rw [decode_of_choosing named listsBefore listsAfter apart.1 apart.2, map_eq_ok_iff]
      simp only [Config.mk.injEq, exists_eq_right', sameText]
      exact decodeEntries_eq_ok_iff lists keyed (by simp)

/-! ## Texts -/

/-- A text of a notation that its reader reads as a tree which states the draft. -/
inductive Draft.RenderedBy (draft : Draft) (readers : Readers) : Format → String → Prop
  | toml {text : String} {root : Node Span} :
      readers.toml text.toList = some root → draft.StatedBy root →
      RenderedBy draft readers .toml text
  | json {text : String} {part : Json.Part} :
      readers.json text.toList = some part → draft.StatedBy part.node →
      RenderedBy draft readers .json text
  | yaml {text : String} {document : Yaml.Linked} :
      readers.yaml text.toList = some document →
      draft.StatedBy (document.toNode Yaml.depth document.root) →
      RenderedBy draft readers .yaml text

variable {readers : Readers} {draft : Draft} {format : Format} {config : Config}

/-- In every notation a text is decoded to what the draft describes, and to nothing else. -/
theorem readers_decode_eq_ok_iff_describes (rendered : draft.RenderedBy readers format text) :
    readers.decode format text = .ok config ↔ draft.Describes config := by
  cases rendered with
  | toml read stated =>
      rw [← decode_eq_ok_iff_describes Toml.customs stated]
      simp only [Readers.decode, Toml.decode, read]
      split
      · rename_i decoded
        simp [decoded]
      · rename_i decoded
        simp [decoded]
  | json read stated =>
      rw [← decode_eq_ok_iff_describes Json.customs stated]
      simp only [Readers.decode, Json.decode, read]
      split
      · rename_i decoded
        simp [decoded]
      · rename_i decoded
        split <;> simp [decoded]
  | yaml read stated =>
      rw [← decode_eq_ok_iff_describes Yaml.customs stated]
      simp only [Readers.decode, Yaml.decode, read]
      split
      · rename_i decoded
        simp [decoded]
      · rename_i decoded
        split <;> simp [decoded]

/-! ## One configuration or none -/

section

variable {α : Type} {reader : String → Except ReleaseVersion.Fault α}

theorem ReadAs.ne_error {raw : String} {value? : Option α} {fault : ReleaseVersion.Fault}
    (read : ReadAs reader (some raw) value?) : reader raw ≠ .error fault := by
  cases read with
  | some parsed => simp [parsed]

theorem ReadAs.unique {one other : Option α} (read : ReadAs reader text? one)
    (readToo : ReadAs reader text? other) : one = other := by
  cases read with
  | none =>
      cases readToo
      rfl
  | some first =>
      cases readToo with
      | some second => rw [Except.ok.inj (first.symm.trans second)]

theorem exists_readAs_or_error (reader : String → Except ReleaseVersion.Fault α)
    (text? : Option String) :
    (∃ value?, ReadAs reader text? value?) ∨
      ∃ raw fault, text? = some raw ∧ reader raw = .error fault := by
  cases text? with
  | none => exact .inl ⟨none, .none⟩
  | some raw =>
      cases read : reader raw with
      | ok value => exact .inl ⟨some value, .some read⟩
      | error fault => exact .inr ⟨raw, fault, rfl, read⟩

end

namespace Draft

theorem Describes.not_refused (describes : draft.Describes config) : ¬draft.Refused := by
  intro refused
  cases refused with
  | version given bad => exact ReadAs.ne_error (given ▸ describes.version) bad
  | agentVersion given bad => exact ReadAs.ne_error (given ▸ describes.agentVersion) bad

theorem Describes.unique {another : Config} (describes : draft.Describes config)
    (describesToo : draft.Describes another) : config = another := by
  obtain ⟨⟨executable, version, agentVersion⟩⟩ := config
  obtain ⟨⟨executableToo, versionToo, agentVersionToo⟩⟩ := another
  obtain rfl : executable = executableToo :=
    describes.executable.trans describesToo.executable.symm
  obtain rfl : version = versionToo := describes.version.unique describesToo.version
  obtain rfl : agentVersion = agentVersionToo :=
    describes.agentVersion.unique describesToo.agentVersion
  rfl

theorem refused_or_describes (draft : Draft) :
    draft.Refused ∨ ∃ config, draft.Describes config := by
  rcases exists_readAs_or_error Number.parse (draft.text? .version) with
    ⟨version, versionRead⟩ | ⟨raw, fault, given, bad⟩
  · rcases exists_readAs_or_error Version.parse (draft.text? .agentVersion) with
      ⟨agentVersion, agentVersionRead⟩ | ⟨raw, fault, given, bad⟩
    · exact .inr ⟨⟨⟨_, version, agentVersion⟩⟩, rfl, versionRead, agentVersionRead⟩
    · exact .inl (.agentVersion given bad)
  · exact .inl (.version given bad)

end Draft

end ReleaseVersion.Config
