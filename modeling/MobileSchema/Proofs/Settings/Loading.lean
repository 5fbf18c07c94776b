import MobileSchema.Proofs.Answers
import MobileSchema.Proofs.Document.Json
import MobileSchema.Settings.Load

/-!
# What loading settings comes to

A settings file that is absent, cannot be read or holds no document is passed over, and any other
names settings by the entries of its document (`FileTree.Names`).  But not every file gets that far:
a path can be too long to be looked at, the bytes of a file need not be a text, a scalar of a
document can stand for no value, and a map can have a key that is no text (`FileTree.Refuses`).

Every file falls under one of the two (`names_or_refuses`), and loading gives settings in the first
case and a fault in the second (`loadSettings_iff`).  So it is not true that loading always gives
settings (`not_forall_loadSettings_ok`).  What takes some work is that the keys of JSON documents
are always texts and that their faults are few; the rest follows the stages of reading.
-/

namespace MobileSchema

variable {depths : Depths} {t files : FileTree} {p : Path} {content : ByteArray} {text : String}
  {v : Value} {entries : List (Value × Value)} {given : List (String × Value)} {fault : SettingsFault}

/-! ### Entries with a name -/

/-- The setting that an entry names. -/
def namedSetting? : Value × Value → Option (String × Value)
  | (.text name, v) => some (name, v)
  | _ => none

/-- The entries of a document, if it is a map. -/
def Value.mapEntries : Value → List (Value × Value)
  | .map entries => entries
  | _ => []

/-- The settings that a document names. -/
def Value.namedSettings (v : Value) : List (String × Value) := v.mapEntries.filterMap namedSetting?

/-- A value is keyed by texts just if all keys of its entries are texts; what is no mapping has
none. -/
theorem Value.isKeyedByText_iff : v.IsKeyedByText ↔ ∀ e ∈ v.mapEntries, e.1.IsText := by
  constructor
  · intro h
    cases v
    case map entries => exact h entries rfl
    all_goals exact nofun
  · rintro h entries rfl
    exact h

theorem namedEntry_of_isText {e : Value × Value} (h : e.1.IsText) :
    namedEntry e = .ok (namedSetting? e) := by
  obtain ⟨key, value⟩ := e
  cases h with
  | text name => rfl
  | halved codes => rfl

theorem namedEntry_of_not {e : Value × Value} (h : ¬ e.1.IsText) :
    namedEntry e = .error .keyNotText := by
  obtain ⟨key, value⟩ := e
  cases key
  case text name => exact absurd (.text name) h
  case halved codes => exact absurd (.halved codes) h
  all_goals rfl

/-- Entries with names are taken as they are. -/
theorem namedEntries_of_isText (h : ∀ e ∈ entries, e.1.IsText) :
    namedEntries entries = .ok (entries.filterMap namedSetting?) := by
  rw [namedEntries, mapM_eq_ok fun e he => namedEntry_of_isText (h e he)]
  show Except.ok ((entries.map namedSetting?).filterMap id) = _
  rw [List.filterMap_map, Function.id_comp]

/-- One entry without a name is enough to refuse all. -/
theorem namedEntries_of_not (h : ∃ e ∈ entries, ¬ e.1.IsText) :
    namedEntries entries = .error .keyNotText := by
  have hmap : entries.mapM namedEntry = .error .keyNotText := by
    induction entries with
    | nil => obtain ⟨e, he, -⟩ := h; cases he
    | cons first entries ih =>
      rw [List.mapM_cons]
      by_cases hfirst : first.1.IsText
      · obtain ⟨e, he, hnot⟩ := h
        rcases List.mem_cons.1 he with rfl | he
        · exact absurd hfirst hnot
        · rw [namedEntry_of_isText hfirst, ih ⟨e, he, hnot⟩]
          rfl
      · rw [namedEntry_of_not hfirst]
        rfl
  rw [namedEntries, hmap]
  rfl

/-! ### Files that are passed over, files that name settings, and files that are refused -/

namespace FileTree

/-- Whether a path leads to a file with a text. -/
def HasText (t : FileTree) (p : Path) (text : String) : Prop :=
  ∃ content, t.find p = .ok (.file content) ∧ textOfBytes? content = some text

/-- A settings file that is passed over. -/
inductive PassesOver (depths : Depths) (t : FileTree) (p : Path) : Prop
  | absent {reason : FileFault} (h : t.find p = .error reason) (hreason : reason ≠ .nameTooLong)
  | unreadable (h : t.find p = .ok .directory)
  | malformed {text : String} (h : t.HasText p text)
    (hjson : Json.read depths.json text.toList = .error .malformed)
    (hyaml : Yaml.read depths.yaml text.toList = .error .malformed)

/-- The settings that a settings file names. -/
inductive Names (depths : Depths) (t : FileTree) (p : Path) : List (String × Value) → Prop
  | nothing (h : t.PassesOver depths p) : Names depths t p []
  | json {text : String} {v : Value} (h : t.HasText p text)
    (hjson : Json.read depths.json text.toList = .ok v) : Names depths t p v.namedSettings
  | yaml {text : String} {v : Value} (h : t.HasText p text)
    (hjson : Json.read depths.json text.toList = .error .malformed)
    (hyaml : Yaml.read depths.yaml text.toList = .ok v)
    (hkeys : v.IsKeyedByText) : Names depths t p v.namedSettings

/-- Why a settings file is refused. -/
inductive Refuses (depths : Depths) (t : FileTree) (p : Path) : SettingsFault → Prop
  | tooLong (h : t.find p = .error .nameTooLong) :
    Refuses depths t p (.file ⟨.nameTooLong, p, none⟩)
  | notText {content : ByteArray} (h : t.find p = .ok (.file content))
    (hbytes : textOfBytes? content = none) : Refuses depths t p .notText
  | json {text : String} {fault : DocumentFault} (h : t.HasText p text)
    (hjson : Json.read depths.json text.toList = .error fault) (hfault : Json.IsFault fault)
    (hne : fault ≠ .malformed) : Refuses depths t p (.document fault)
  | yaml {text : String} {fault : DocumentFault} (h : t.HasText p text)
    (hjson : Json.read depths.json text.toList = .error .malformed)
    (hyaml : Yaml.read depths.yaml text.toList = .error fault) (hne : fault ≠ .malformed) :
    Refuses depths t p (.document fault)
  | key {text : String} {v : Value} (h : t.HasText p text)
    (hjson : Json.read depths.json text.toList = .error .malformed)
    (hyaml : Yaml.read depths.yaml text.toList = .ok v)
    (hkeys : ¬ v.IsKeyedByText) : Refuses depths t p .keyNotText

/-- Every settings file names settings or is refused. -/
theorem names_or_refuses (t : FileTree) (p : Path) :
    (∃ given, t.Names depths p given) ∨ ∃ fault, t.Refuses depths p fault := by
  cases hfind : t.find p with
  | error reason =>
    by_cases hreason : reason = .nameTooLong
    · exact .inr ⟨_, .tooLong (hreason ▸ hfind)⟩
    · exact .inl ⟨_, .nothing (.absent hfind hreason)⟩
  | ok node =>
    cases node with
    | directory => exact .inl ⟨_, .nothing (.unreadable hfind)⟩
    | file content =>
      cases hbytes : textOfBytes? content with
      | none => exact .inr ⟨_, .notText hfind hbytes⟩
      | some text =>
        have h : t.HasText p text := ⟨content, hfind, hbytes⟩
        -- YAML is asked only where there is no JSON at all
        cases hjson : Json.read depths.json text.toList with
        | ok v => exact .inl ⟨_, .json h hjson⟩
        | error fault =>
          by_cases hfault : fault = .malformed
          · rw [hfault] at hjson
            cases hyaml : Yaml.read depths.yaml text.toList with
            | ok v =>
              by_cases hkeys : v.IsKeyedByText
              · exact .inl ⟨_, .yaml h hjson hyaml hkeys⟩
              · exact .inr ⟨_, .key h hjson hyaml hkeys⟩
            | error other =>
              by_cases hother : other = .malformed
              · rw [hother] at hyaml
                exact .inl ⟨_, .nothing (.malformed h hjson hyaml)⟩
              · exact .inr ⟨_, .yaml h hjson hyaml hother⟩
          · exact .inr ⟨_, .json h hjson ((Json.proper_read _ _).isFault hjson) hfault⟩

end FileTree

/-! ### The entries of a settings file -/

theorem FileTree.contains_of_ok {node : FileNode} (h : t.find p = .ok node) :
    t.contains p = .ok true := by
  rw [contains, h]

theorem FileTree.read_of_file (h : t.find p = .ok (.file content)) : t.read p = .ok content := by
  rw [read, h]

theorem readSettingsFile_of_absent (h : t.contains p = .ok false) :
    readSettingsFile depths t p = (.ok [], []) := by
  rw [readSettingsFile, h]

theorem readSettingsFile_of_unreadable {error : FileError} (h : t.contains p = .ok true)
    (hread : t.read p = .error error) :
    readSettingsFile depths t p = (.ok [], [.settingsUnreadable p.text]) := by
  simp only [readSettingsFile, h, hread]

/-- What becomes of a file with a text, case by case. -/
theorem readSettingsFile_eq_of_hasText (h : t.HasText p text) :
    readSettingsFile depths t p = match readDocument depths text.toList with
      | .error .malformed => (.ok [], [.settingsUnparsable p.text])
      | .error fault => (.error (.document fault), [])
      | .ok .null => (.ok [], [])
      | .ok (.map entries) => (.ok entries, [.settingsLoaded entries.length p.text])
      | .ok v => (.ok [], [.settingsNotMapping p.text v.typeName]) := by
  obtain ⟨content, hfind, hbytes⟩ := h
  have hfile := FileTree.read_of_file hfind
  cases hdocument : readDocument depths text.toList with
  | error fault =>
    cases fault <;>
      simp only [readSettingsFile, FileTree.contains_of_ok hfind, hfile, hbytes, hdocument]
  | ok v =>
    cases v <;>
      simp only [readSettingsFile, FileTree.contains_of_ok hfind, hfile, hbytes, hdocument]

/-- What a file with a text gives, without what is noted. -/
theorem readSettingsFile_of_hasText (h : t.HasText p text) :
    (readSettingsFile depths t p).1 = match readDocument depths text.toList with
      | .error .malformed => .ok []
      | .error fault => .error (.document fault)
      | .ok v => .ok v.mapEntries := by
  rw [readSettingsFile_eq_of_hasText h]
  cases readDocument depths text.toList with
  | error fault => cases fault <;> rfl
  | ok v => cases v <;> rfl

/-- A fault of the document is passed on, unless it is that the document is malformed. -/
theorem readSettingsFile_of_error {fault : DocumentFault} (h : t.HasText p text)
    (hdocument : readDocument depths text.toList = .error fault) (hne : fault ≠ .malformed) :
    (readSettingsFile depths t p).1 = .error (.document fault) := by
  rw [readSettingsFile_of_hasText h, hdocument]
  cases fault with
  | malformed => exact absurd rfl hne
  | _ => rfl

/-- A text that is no JSON is read as YAML. -/
theorem readDocument_of_malformed (h : Json.read depths.json text.toList = .error .malformed) :
    readDocument depths text.toList = Yaml.read depths.yaml text.toList := by
  rw [readDocument, h]

/-- A text that is JSON, or is refused for another fault, is not read again. -/
theorem readDocument_of_json {result : Except DocumentFault Value}
    (h : Json.read depths.json text.toList = result) (hne : result ≠ .error .malformed) :
    readDocument depths text.toList = result := by
  rw [readDocument, h]
  split
  · exact absurd rfl hne
  · rfl

/-- What is passed over gives nothing. -/
theorem readSettingsFile_of_passesOver (h : t.PassesOver depths p) :
    (readSettingsFile depths t p).1 = .ok [] := by
  cases h with
  | @absent reason hfind hreason =>
    have hcontains : t.contains p = .ok false := by
      rw [FileTree.contains, hfind]
      cases reason with
      | nameTooLong => exact absurd rfl hreason
      | _ => rfl
    rw [readSettingsFile_of_absent hcontains]
  | unreadable hfind =>
    have hread : t.read p = .error ⟨.isDirectory, p, none⟩ := by rw [FileTree.read, hfind]
    rw [readSettingsFile_of_unreadable (FileTree.contains_of_ok hfind) hread]
  | malformed htext hjson hyaml =>
    rw [readSettingsFile_of_hasText htext, readDocument_of_malformed hjson, hyaml]

/-- What a file names is found in it. -/
theorem readSettingsFile_of_names (h : t.Names depths p given) :
    ((readSettingsFile depths t p).1 >>= namedEntries) = .ok given := by
  cases h with
  | nothing h =>
    rw [readSettingsFile_of_passesOver h]
    rfl
  | json htext hjson =>
    rw [readSettingsFile_of_hasText htext, readDocument_of_json hjson nofun]
    exact namedEntries_of_isText (Value.isKeyedByText_iff.1 ((Json.proper_read _ _).of_ok hjson))
  | yaml htext hjson hyaml hkeys =>
    rw [readSettingsFile_of_hasText htext, readDocument_of_malformed hjson, hyaml]
    exact namedEntries_of_isText (Value.isKeyedByText_iff.1 hkeys)

/-- A refused file is refused for its reason. -/
theorem readSettingsFile_of_refuses (h : t.Refuses depths p fault) :
    ((readSettingsFile depths t p).1 >>= namedEntries) = .error fault := by
  cases h with
  | tooLong hfind =>
    have hcontains : t.contains p = .error ⟨.nameTooLong, p, none⟩ := by
      rw [FileTree.contains, hfind]
    simp only [readSettingsFile, hcontains]
    rfl
  | notText hfind hbytes =>
    simp only [readSettingsFile, FileTree.contains_of_ok hfind, FileTree.read_of_file hfind, hbytes]
    rfl
  | json htext hjson _ hne =>
    have hdocument := readDocument_of_json hjson (fun h => hne (Except.error.inj h))
    rw [readSettingsFile_of_error htext hdocument hne]
    rfl
  | yaml htext hjson hyaml hne =>
    rw [readSettingsFile_of_error htext ((readDocument_of_malformed hjson).trans hyaml) hne]
    rfl
  | key htext hjson hyaml hkeys =>
    rw [readSettingsFile_of_hasText htext, readDocument_of_malformed hjson, hyaml]
    rw [Value.isKeyedByText_iff] at hkeys
    exact namedEntries_of_not (by simpa using hkeys)

/-- The fault that reading a document ends with. -/
def faultOf? : Except DocumentFault Value → Option DocumentFault
  | .error fault => some fault
  | .ok _ => none

theorem eq_error_of_faultOf? {result : Except DocumentFault Value} {fault : DocumentFault}
    (h : faultOf? result = some fault) : result = .error fault := by
  cases result with
  | error other => rw [Option.some.inj h]
  | ok v => cases h

/-! ### Loading settings -/

/-- Loading, without what is noted: the file is read, its keys have to be names, and the environment
has the last word. -/
theorem fst_loadSettings (env : Environment) (files : FileTree) (asked : Option Path) :
    (loadSettings env files asked).1 =
      ((readSettingsFile env.depths files (settingsPath env asked)).1 >>= namedEntries).map
        fun given => (settingsOrDefaults given).1.override env := by
  rw [loadSettings]
  obtain ⟨entries, log⟩ := readSettingsFile env.depths files (settingsPath env asked)
  dsimp only
  cases entries >>= namedEntries with
  | error fault => rfl
  | ok given => rfl

/-- Loading gives the settings that the file names, or the defaults if these are invalid, with the
directory of templates in the environment; it fails just if the file is refused.  A file that is
absent, unreadable or malformed leaves all settings but that directory at their defaults. -/
theorem loadSettings_iff (env : Environment) (files : FileTree) (asked : Option Path) :
    (∀ settings, (loadSettings env files asked).1 = .ok settings ↔
      ∃ given, files.Names env.depths (settingsPath env asked) given ∧
        settings = (settingsOrDefaults given).1.override env) ∧
    (∀ fault, (loadSettings env files asked).1 = .error fault ↔
      files.Refuses env.depths (settingsPath env asked) fault) ∧
    (files.PassesOver env.depths (settingsPath env asked) → (loadSettings env files asked).1 =
      .ok { templatesDir := (setting? env.templatesDir).map .ofString }) := by
  rw [fst_loadSettings]
  refine ⟨?_, ?_, ?_⟩
  · -- a file names settings or is refused, so each way round the other case is impossible
    intro settings
    constructor
    · intro hsettings
      rcases files.names_or_refuses (settingsPath env asked) with ⟨given, h⟩ | ⟨fault, h⟩
      · rw [readSettingsFile_of_names h] at hsettings
        exact ⟨given, h, (Except.ok.inj hsettings).symm⟩
      · rw [readSettingsFile_of_refuses h] at hsettings
        cases hsettings
    · rintro ⟨given, h, rfl⟩
      rw [readSettingsFile_of_names h]
      rfl
  · intro fault
    constructor
    · intro hfault
      rcases files.names_or_refuses (settingsPath env asked) with ⟨given, h⟩ | ⟨other, h⟩
      · rw [readSettingsFile_of_names h] at hfault
        cases hfault
      · rw [readSettingsFile_of_refuses h] at hfault
        exact Except.error.inj hfault ▸ h
    · intro h
      rw [readSettingsFile_of_refuses h]
      rfl
  · intro h
    rw [readSettingsFile_of_names (.nothing h)]
    show Except.ok (Settings.override {} env) = _
    rw [Settings.override]
    cases setting? env.templatesDir with
    | none => rfl
    | some directory => rfl

/-- A file with one opening bracket is malformed, and a directory in the environment wins. -/
theorem loadSettings_iff_bracket :
    (({} : FileTree).put ["realmgen.yaml"] (.file ⟨#[91]⟩)).PassesOver {}
        (settingsPath { templatesDir := some " mine " } none) ∧
      (loadSettings { templatesDir := some " mine " }
        (({} : FileTree).put ["realmgen.yaml"] (.file ⟨#[91]⟩)) none).1 =
          .ok { templatesDir := some (.path ⟨.relative, ["mine"]⟩) } := by
  have htext : (({} : FileTree).put ["realmgen.yaml"] (.file ⟨#[91]⟩)).HasText
      (.inWorkingDirectory "realmgen.yaml") "[" := ⟨⟨#[91]⟩, rfl, by decide⟩
  have hjson : Json.read ({} : Depths).json "[".toList = .error .malformed :=
    eq_error_of_faultOf? (by decide +kernel)
  have hyaml : Yaml.read ({} : Depths).yaml "[".toList = .error .malformed :=
    eq_error_of_faultOf? (by decide +kernel)
  have hpass : (({} : FileTree).put ["realmgen.yaml"] (.file ⟨#[91]⟩)).PassesOver {}
      (settingsPath { templatesDir := some " mine " } none) := .malformed htext hjson hyaml
  have hdirectory : (setting? (some " mine ")).map TemplatesDir.ofString =
      some (.path ⟨.relative, ["mine"]⟩) := by decide +kernel
  exact ⟨hpass, hdirectory ▸ (loadSettings_iff { templatesDir := some " mine " } _ none).2.2 hpass⟩

/-- It is not true that loading always gives settings: the file can be one byte that is no text. -/
theorem not_forall_loadSettings_ok : ¬ ∀ (env : Environment) (files : FileTree)
    (asked : Option Path), ∃ settings, (loadSettings env files asked).1 = .ok settings := by
  intro h
  obtain ⟨settings, hsettings⟩ :=
    h {} (({} : FileTree).put ["realmgen.yaml"] (.file ⟨#[0xff]⟩)) none
  have hrefuses : (({} : FileTree).put ["realmgen.yaml"] (.file ⟨#[0xff]⟩)).Refuses {}
      (settingsPath {} none) .notText := .notText rfl (by decide)
  rw [fst_loadSettings, readSettingsFile_of_refuses hrefuses] at hsettings
  cases hsettings

end MobileSchema
