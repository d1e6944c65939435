import ReleaseVersion.Proofs.Config.Draft
import ReleaseVersion.Proofs.Host.Following

/-!
# Loading configurations

What a file holds is looked at before its extension, and its extension before its content.  A draft
may be written down in any notation, in any file, on any machine: the configuration that is loaded
is the one that the draft describes, or else there is none to load.
-/

namespace ReleaseVersion

namespace Host

/-- The last name of the path ends with a dot and the extension, and has something before them. -/
def Path.EndsWith (path : Path) (extension : List Char) : Prop :=
  ∃ stem, stem ≠ [] ∧ '.' ∉ extension ∧ path.name? = some (stem ++ '.' :: extension)

theorem Path.extension?_eq_some_iff {path : Path} {extension : List Char} :
    path.extension? = some extension ↔ path.EndsWith extension := by
  unfold extension? EndsWith
  cases named : path.name? with
  | none => simp
  | some name =>
      simp only [Option.some.injEq]
      constructor
      · intro found
        split at found
        · rename_i reversed before rest cut
          cases found
          obtain ⟨divided, free⟩ := Text.cut?_eq_some_iff.mp cut
          refine ⟨(before :: rest).reverse, by simp, by simpa using free, ?_⟩
          rw [← List.reverse_reverse name, divided]
          simp
        · contradiction
      · rintro ⟨stem, filled, free, rfl⟩
        have cut : Text.cut? '.' (stem ++ '.' :: extension).reverse =
            some (extension.reverse, stem.reverse) := by
          apply Text.cut?_eq_some_iff.mpr
          constructor
          · simp
          · simpa using free
        rw [cut]
        cases reversed : stem.reverse with
        | nil => exact absurd (List.reverse_eq_nil_iff.mp reversed) filled
        | cons last front => simp

/-- The path leads to a file that holds the text. -/
def Machine.HoldsText (machine : Machine) (path : Path) (text : String) : Prop :=
  ∃ file : File, machine.files.PathLeads machine.directory path (.file file) ∧
    file.content = text.toUTF8

end Host

namespace Config

open Host Document

/-- The extensions of files in each notation. -/
inductive Format.HasExtension : Format → String → Prop
  | toml : HasExtension .toml "toml"
  | json : HasExtension .json "json"
  | yaml : HasExtension .yaml "yaml"
  | yml : HasExtension .yaml "yml"

/-- The path names a file in the notation. -/
def Format.Names (format : Format) (path : Path) : Prop :=
  ∃ extension : String, format.HasExtension extension ∧ path.EndsWith extension.toList

theorem Format.ofExtension?_eq_some_iff {format : Format} {extension : List Char} :
    ofExtension? extension = some format ↔ format.HasExtension (String.ofList extension) := by
  unfold ofExtension?
  generalize String.ofList extension = extension
  constructor
  · intro found
    split at found <;> cases found
    · exact .toml
    · exact .json
    · exact .yaml
    · exact .yml
  · intro has
    cases has <;> rfl

variable {readers : Readers} {machine : Machine} {path : Path} {format : Format} {text : String}
  {draft : Draft}

theorem bind_ofExtension?_eq_some_iff :
    path.extension?.bind Format.ofExtension? = some format ↔ format.Names path := by
  simp only [Option.bind_eq_some_iff, Path.extension?_eq_some_iff, Format.ofExtension?_eq_some_iff]
  constructor
  · rintro ⟨extension, ends, has⟩
    exact ⟨_, has, by simpa using ends⟩
  · rintro ⟨extension, has, ends⟩
    exact ⟨_, ends, by simpa using has⟩

/-! ## Files -/

theorem load_eq_notRead_iff {cause : SystemError} :
    load machine path readers = .error (.notRead path cause) ↔
      machine.files.readText machine.directory path = .error cause := by
  unfold load
  cases machine.files.readText machine.directory path with
  | error earlier => simp
  | ok text =>
      cases path.extension?.bind Format.ofExtension? with
      | none => simp
      | some format =>
          simp only [parse, reduceCtorEq, iff_false]
          cases readers.decode format text with
          | ok config => simp
          | error fault => simp

/-- A path is not read exactly when no text is where it leads. -/
theorem exists_load_eq_notRead_iff :
    (∃ cause, load machine path readers = .error (.notRead path cause)) ↔
      ∀ text, ¬machine.HoldsText path text := by
  simp only [load_eq_notRead_iff, Machine.HoldsText, ← FileTree.readText_eq_ok_iff]
  cases machine.files.readText machine.directory path with
  | error cause => simp
  | ok text => simp

theorem load_of_unsupported (held : machine.HoldsText path text)
    (unnamed : ∀ format : Format, ¬format.Names path) :
    load machine path readers = .error (.unsupported path) := by
  have unknown : path.extension?.bind Format.ofExtension? = none := by
    rw [Option.eq_none_iff_forall_ne_some]
    intro format known
    exact unnamed format (bind_ofExtension?_eq_some_iff.mp known)
  simp only [load, FileTree.readText_eq_ok_iff.mpr held, unknown]

theorem load_of_named (held : machine.HoldsText path text) (named : format.Names path) :
    load machine path readers = parse format text readers := by
  simp only [load, FileTree.readText_eq_ok_iff.mpr held, bind_ofExtension?_eq_some_iff.mpr named]

/-- The path names a file in the notation, and leads to one that states the draft. -/
def Draft.StandsAt (draft : Draft) (readers : Readers) (format : Format) (machine : Machine)
    (path : Path) : Prop :=
  format.Names path ∧ ∃ text, draft.RenderedBy readers format text ∧ machine.HoldsText path text

theorem load_eq_ok_iff_of_standsAt (stands : draft.StandsAt readers format machine path)
    (config : Config) : load machine path readers = .ok config ↔ draft.Describes config := by
  obtain ⟨named, text, rendered, held⟩ := stands
  rw [load_of_named held named, ← readers_decode_eq_ok_iff_describes rendered, parse]
  cases readers.decode format text with
  | ok found => simp
  | error fault => simp

theorem exists_load_eq_invalid_of_standsAt (stands : draft.StandsAt readers format machine path)
    (refused : draft.Refused) :
    ∃ fault, load machine path readers = .error (.invalid format fault) := by
  have undescribed (config : Config) : ¬draft.Describes config := fun describes =>
    describes.not_refused refused
  obtain ⟨named, text, rendered, held⟩ := stands
  rw [load_of_named held named, parse]
  cases decoded : readers.decode format text with
  | error fault => exact ⟨fault, rfl⟩
  | ok config =>
      exact absurd ((readers_decode_eq_ok_iff_describes rendered).mp decoded) (undescribed config)

/-- The notation of a draft does not matter, whatever reads it: wherever it stands, the one
configuration that it describes is loaded, or, exactly if one of its versions is none, it is
invalid.  A file that holds a text but is named for no notation is unsupported, and a path that
leads to no text is not read, whatever it is named. -/
theorem load_eq_in_every_format (readers : Readers) (draft : Draft) :
    ((draft.Refused ∧ ∀ format machine path, draft.StandsAt readers format machine path →
          ∃ fault, load machine path readers = .error (.invalid format fault)) ∨
        ∃ config, draft.Describes config ∧ ¬draft.Refused ∧
          ∀ format machine path, draft.StandsAt readers format machine path →
            load machine path readers = .ok config) ∧
      (∀ machine path text, machine.HoldsText path text → (∀ format : Format, ¬format.Names path) →
        load machine path readers = .error (.unsupported path)) ∧
      ∀ machine path, (∃ cause, load machine path readers = .error (.notRead path cause)) ↔
        ∀ text, ¬machine.HoldsText path text := by
  refine ⟨?_, ?_, ?_⟩
  · rcases draft.refused_or_describes with refused | ⟨config, describes⟩
    · exact .inl ⟨refused, fun _ _ _ stands => exists_load_eq_invalid_of_standsAt stands refused⟩
    · refine .inr ⟨config, describes, describes.not_refused, ?_⟩
      intro format machine path stands
      exact (load_eq_ok_iff_of_standsAt stands config).mpr describes
  · intro machine path text held unnamed
    exact load_of_unsupported held unnamed
  · intro machine path
    exact exists_load_eq_notRead_iff

/-- A draft that chooses a version, in a document with a title. -/
def titledDraft : Draft where
  client? := some [("version", "2.9.x")]
  others := [("title", "t")]
  keyed := by simp
  apart := by decide

/-- The draft in TOML, where the title has to come first. -/
def titledToml : String :=
  "title = \"t\"\n[juju]\nversion = \"2.9.x\"\n"

/-- The draft in JSON. -/
def titledJson : String :=
  "\x7b\"juju\": \x7b\"version\": \"2.9.x\"\x7d, \"title\": \"t\"\x7d"

/-- The draft in YAML. -/
def titledYaml : String :=
  "juju: \x7bversion: \"2.9.x\"\x7d\ntitle: \"t\"\n"

theorem renderedBy_titledToml : titledDraft.RenderedBy .standard .toml titledToml := by
  have read : (Document.Toml.read titledToml.toList).bind outline? =
      some ([("title", "t")], [("version", "2.9.x")], []) := by decide +kernel
  obtain ⟨root, rootRead, outlined⟩ := Option.bind_eq_some_iff.mp read
  exact .toml rootRead (statedBy_of_outline? outlined rfl (.refl _) (.refl _))

theorem renderedBy_titledJson : titledDraft.RenderedBy .standard .json titledJson := by
  have read : (Document.Json.read titledJson.toList).bind (fun part => outline? part.node) =
      some ([], [("version", "2.9.x")], [("title", "t")]) := by decide +kernel
  obtain ⟨part, partRead, outlined⟩ := Option.bind_eq_some_iff.mp read
  exact .json partRead (statedBy_of_outline? outlined rfl (.refl _) (.refl _))

theorem renderedBy_titledYaml : titledDraft.RenderedBy .standard .yaml titledYaml := by
  have read : (Document.Yaml.Linked.ofText? titledYaml.toList).bind
      (fun document => outline? (document.toNode Yaml.depth document.root)) =
        some ([], [("version", "2.9.x")], [("title", "t")]) := by decide +kernel
  obtain ⟨document, linked, outlined⟩ := Option.bind_eq_some_iff.mp read
  exact .yaml linked (statedBy_of_outline? outlined rfl (.refl _) (.refl _))

/-- A file that holds a text. -/
def document (text : String) : File :=
  ⟨text.toUTF8, 0o644, .unknownFormat⟩

/-- A machine on which the draft stands in every notation, and once under the name of none. -/
def library : Machine where
  files := ⟨[(["c.toml".toList], .file (document titledToml)),
    (["c.json".toList], .file (document titledJson)),
    (["c.yml".toList], .file (document titledYaml)),
    (["c.TOML".toList], .file (document titledToml))]⟩
  directory := ['/']
  environment := []

/-- The same version is chosen in the first three files, the fourth is unsupported, and a fifth is
not there to be read. -/
theorem load_eq_in_every_format_of_titled :
    (load library "/c.toml".toList = .ok ⟨⟨"juju", some ⟨2, .exactly 9, .wildcard⟩, none⟩⟩ ∧
        load library "/c.json".toList = .ok ⟨⟨"juju", some ⟨2, .exactly 9, .wildcard⟩, none⟩⟩ ∧
        load library "/c.yml".toList = .ok ⟨⟨"juju", some ⟨2, .exactly 9, .wildcard⟩, none⟩⟩) ∧
      load library "/c.TOML".toList = .error (.unsupported "/c.TOML".toList) ∧
      ∃ cause, load library "/c.yaml".toList = .error (.notRead "/c.yaml".toList cause) := by
  have inToml : titledDraft.StandsAt .standard .toml library "/c.toml".toList :=
    ⟨⟨"toml", .toml, "c".toList, by decide, by decide, by decide⟩, titledToml,
      renderedBy_titledToml, document titledToml,
        FileTree.pathLeads_slash (by decide) (by decide) (by decide) rfl, rfl⟩
  have inJson : titledDraft.StandsAt .standard .json library "/c.json".toList :=
    ⟨⟨"json", .json, "c".toList, by decide, by decide, by decide⟩, titledJson,
      renderedBy_titledJson, document titledJson,
        FileTree.pathLeads_slash (by decide) (by decide) (by decide) rfl, rfl⟩
  have inYaml : titledDraft.StandsAt .standard .yaml library "/c.yml".toList :=
    ⟨⟨"yml", .yml, "c".toList, by decide, by decide, by decide⟩, titledYaml,
      renderedBy_titledYaml, document titledYaml,
        FileTree.pathLeads_slash (by decide) (by decide) (by decide) rfl, rfl⟩
  have held : library.HoldsText "/c.TOML".toList titledToml :=
    ⟨document titledToml, FileTree.pathLeads_slash (by decide) (by decide) (by decide) rfl, rfl⟩
  have unnamed (format : Format) : ¬format.Names "/c.TOML".toList := by
    rw [← bind_ofExtension?_eq_some_iff]
    cases format <;> decide
  have unheld (text : String) : ¬library.HoldsText "/c.yaml".toList text := by
    rintro ⟨file, leads, -⟩
    exact FileTree.not_pathLeads_slash (by decide) (by decide) rfl leads
  have chosen : titledDraft.Describes ⟨⟨"juju", some ⟨2, .exactly 9, .wildcard⟩, none⟩⟩ :=
    ⟨rfl, .some (by decide), .none⟩
  obtain ⟨loaded, unsupported, unread⟩ := load_eq_in_every_format .standard titledDraft
  refine ⟨?_, unsupported _ _ _ held unnamed, (unread _ _).mpr unheld⟩
  rcases loaded with ⟨refused, -⟩ | ⟨config, describes, -, loads⟩
  · exact absurd refused chosen.not_refused
  · obtain rfl := describes.unique chosen
    exact ⟨loads _ _ _ inToml, loads _ _ _ inJson, loads _ _ _ inYaml⟩

end Config

end ReleaseVersion
