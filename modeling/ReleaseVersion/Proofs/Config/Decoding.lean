import ReleaseVersion.Config.Load
import ReleaseVersion.Proofs.Number.Reading

/-!
# Where the versions of a configuration come from

Whatever the notation of a document, a configuration is decoded by one walk over a tree, and the
only way by which a number or a version gets into it is by being read from a text.
-/

namespace ReleaseVersion

open Document

/-- The number and the version of the choice, where there are any, were read from texts. -/
structure ClientChoice.Parsed (choice : ClientChoice) : Prop where
  version : ∀ number, choice.version = some number → ∃ raw, Number.parse raw = .ok number
  agentVersion :
    ∀ version, choice.agentVersion = some version → ∃ raw, Version.parse raw = .ok version

theorem ClientChoice.parsed_default : ClientChoice.default.Parsed where
  version _ absent := nomatch absent
  agentVersion _ absent := nomatch absent

namespace Config

variable {Mark : Type}

/-! ## Fields -/

theorem exists_of_decodeOptional {α : Type} {reader : String → Except Fault α} {path : List String}
    {owner : Mark} {node : Node Mark} {value : α}
    (decoded : decodeOptional reader path owner node = .ok (some value)) :
    ∃ raw, reader raw = .ok value := by
  unfold decodeOptional at decoded
  split at decoded
  · simp at decoded
  · simp at decoded
  · split at decoded
    · simp at decoded
    · rename_i raw _
      split at decoded
      · rename_i found
        cases decoded
        exact ⟨raw, found⟩
      · simp at decoded

theorem parsed_of_decodeField {choice changed : ClientChoice} {field : ChoiceField}
    {path : List String} {owner : Mark} {node : Node Mark} (parsed : choice.Parsed)
    (decoded : decodeField choice field path owner node = .ok changed) : changed.Parsed := by
  cases field with
  | executable =>
      obtain ⟨text, -, rfl⟩ := map_eq_ok_iff.mp decoded
      exact ⟨parsed.version, parsed.agentVersion⟩
  | version =>
      obtain ⟨number, numberDecoded, rfl⟩ := map_eq_ok_iff.mp decoded
      refine ⟨fun held same => ?_, parsed.agentVersion⟩
      cases same
      exact exists_of_decodeOptional numberDecoded
  | agentVersion =>
      obtain ⟨version, versionDecoded, rfl⟩ := map_eq_ok_iff.mp decoded
      refine ⟨parsed.version, fun held same => ?_⟩
      cases same
      exact exists_of_decodeOptional versionDecoded

/-! ## Tables and rows -/

theorem parsed_of_decodeEntries {customs : Customs} {path : List String} {owner : Mark}
    {seen : List ChoiceField} {choice changed : ClientChoice}
    {entries : List (Key Mark × Node Mark)} (parsed : choice.Parsed)
    (decoded : decodeEntries customs path owner seen choice entries = .ok changed) :
    changed.Parsed := by
  induction entries generalizing seen choice with
  | nil =>
      cases decoded
      exact parsed
  | cons entry rest inductionHypothesis =>
      obtain ⟨key, node⟩ := entry
      unfold decodeEntries at decoded
      split at decoded
      · simp at decoded
      · split at decoded
        · exact inductionHypothesis parsed decoded
        · split at decoded
          · simp at decoded
          · split at decoded
            · simp at decoded
            · rename_i fieldDecoded
              exact inductionHypothesis (parsed_of_decodeField parsed fieldDecoded) decoded

theorem parsed_of_decodeItems {customs : Customs} {path : List String} {owner : Mark}
    {choice changed : ClientChoice} {fields : List ChoiceField} {items : List (Node Mark)}
    (parsed : choice.Parsed)
    (decoded : decodeItems customs path owner choice fields items = .ok changed) :
    changed.Parsed := by
  induction items generalizing fields choice with
  | nil =>
      simp only [decodeItems] at decoded
      cases decoded
      exact parsed
  | cons node rest inductionHypothesis =>
      cases fields with
      | nil =>
          simp only [decodeItems] at decoded
          split at decoded
          · simp at decoded
          · cases decoded
            exact parsed
      | cons field fields =>
          simp only [decodeItems] at decoded
          split at decoded
          · simp at decoded
          · rename_i fieldDecoded
            exact inductionHypothesis (parsed_of_decodeField parsed fieldDecoded) decoded

theorem parsed_of_decodeChoice {customs : Customs} {path : List String} {owner : Mark}
    {node : Node Mark} {choice : ClientChoice}
    (decoded : decodeChoice customs path owner node = .ok choice) : choice.Parsed := by
  cases node with
  | scalar mark content =>
      simp only [decodeChoice] at decoded
      split at decoded
      · cases decoded
        exact ClientChoice.parsed_default
      · simp at decoded
  | row mark items =>
      simp only [decodeChoice] at decoded
      split at decoded
      · exact parsed_of_decodeItems ClientChoice.parsed_default decoded
      · simp at decoded
  | table mark entries => exact parsed_of_decodeEntries ClientChoice.parsed_default decoded

theorem parsed_of_decodeTop {customs : Customs} {owner : Mark} {seen : Bool}
    {config changed : Config} {entries : List (Key Mark × Node Mark)}
    (parsed : config.client.Parsed)
    (decoded : decodeTop customs owner seen config entries = .ok changed) :
    changed.client.Parsed := by
  induction entries generalizing seen config with
  | nil =>
      cases decoded
      exact parsed
  | cons entry rest inductionHypothesis =>
      obtain ⟨key, node⟩ := entry
      unfold decodeTop at decoded
      split at decoded
      · simp at decoded
      · split at decoded
        · exact inductionHypothesis parsed decoded
        · split at decoded
          · simp at decoded
          · split at decoded
            · simp at decoded
            · rename_i choiceDecoded
              exact inductionHypothesis (parsed_of_decodeChoice choiceDecoded) decoded

/-- Decoding a tree puts nothing into a configuration that was not read from a text. -/
theorem parsed_of_decode {customs : Customs} {root : Node Mark} {config : Config}
    (decoded : decode customs root = .ok config) : config.client.Parsed := by
  cases root with
  | scalar mark content =>
      simp only [decode] at decoded
      split at decoded
      · cases decoded
        exact ClientChoice.parsed_default
      · simp at decoded
  | row mark items =>
      simp only [decode] at decoded
      split at decoded
      · split at decoded
        · cases decoded
          exact ClientChoice.parsed_default
        · split at decoded
          · simp at decoded
          · rename_i choiceDecoded
            cases decoded
            exact parsed_of_decodeChoice choiceDecoded
          · rename_i choiceDecoded
            split at decoded
            · simp at decoded
            · cases decoded
              exact parsed_of_decodeChoice choiceDecoded
      · simp at decoded
  | table mark entries => exact parsed_of_decodeTop ClientChoice.parsed_default decoded

/-! ## Documents -/

/-- Every notation decodes a document through its tree. -/
theorem parsed_of_readers_decode {readers : Readers} {format : Format} {raw : String}
    {config : Config} (decoded : readers.decode format raw = .ok config) :
    config.client.Parsed := by
  cases format with
  | toml =>
      simp only [Readers.decode, Toml.decode] at decoded
      split at decoded
      · simp at decoded
      · split at decoded
        · rename_i treeDecoded
          cases decoded
          exact parsed_of_decode treeDecoded
        · simp at decoded
  | json =>
      simp only [Readers.decode, Json.decode] at decoded
      split at decoded
      · simp at decoded
      · split at decoded
        · rename_i treeDecoded
          cases decoded
          exact parsed_of_decode treeDecoded
        · split at decoded
          · simp at decoded
          · simp at decoded
  | yaml =>
      simp only [Readers.decode, Yaml.decode] at decoded
      split at decoded
      · simp at decoded
      · split at decoded
        · rename_i treeDecoded
          cases decoded
          exact parsed_of_decode treeDecoded
        · split at decoded
          · simp at decoded
          · simp at decoded

theorem parsed_of_parse {readers : Readers} {format : Format} {raw : String} {config : Config}
    (decoded : parse format raw readers = .ok config) : config.client.Parsed := by
  unfold parse at decoded
  split at decoded
  · rename_i documentDecoded
    cases decoded
    exact parsed_of_readers_decode documentDecoded
  · simp at decoded

/-- A JSON document that is a single string gives what the reader makes of that string. -/
theorem Json.exists_of_decodeString {α : Type} {reader : String → Except ReleaseVersion.Fault α}
    {raw : String} {value : α} (decoded : Json.decodeString reader raw = .ok value) :
    ∃ content, reader content = .ok value := by
  simp only [Json.decodeString] at decoded
  split at decoded
  · simp at decoded
  · split at decoded
    · simp at decoded
    · split at decoded
      · simp at decoded
      · rename_i content _
        split at decoded
        · rename_i found
          cases decoded
          exact ⟨content, found⟩
        · simp at decoded

end Config

end ReleaseVersion
