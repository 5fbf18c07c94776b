import MobileSchema.Document.Json
import MobileSchema.Document.Yaml.Reading
import MobileSchema.Files.FileTree
import MobileSchema.Log
import MobileSchema.Settings.Basic
import MobileSchema.Text.Layout

/-!
# Loading settings

Settings come from a file, in JSON or YAML, and from the environment.  A file that is absent,
cannot be read, is no document or holds what no setting can be given leaves all settings at their
defaults, and all but the first of these are noted.  The directory of templates in the environment
wins over all.
-/

namespace MobileSchema

/-- How deep the collections of a document may stand in each other, in JSON and in YAML, and how
deep templates, blocks and the like can be run inside each other. -/
structure Depths where
  json : Nat := 985
  yaml : Nat := 480
  templates : Nat := 200
  deriving DecidableEq, Repr

/-- What matters of the environment: two variables, and how deep it lets calls go. -/
structure Environment where
  configFile : Option String := none
  templatesDir : Option String := none
  depths : Depths := {}
  deriving DecidableEq, Repr

/-- Why loading is refused. -/
inductive SettingsFault
  /-- the file is no text -/
  | notText
  /-- a scalar of the document stands for no value -/
  | document (fault : DocumentFault)
  /-- a key of the mapping is no text -/
  | keyNotText
  /-- the path of the file cannot be looked at -/
  | file (error : FileError)
  deriving DecidableEq, Repr

/-- The message of a refusal. -/
def SettingsFault.message : SettingsFault → String
  | notText => "the file is no text"
  | document fault => fault.message
  | keyNotText => "keywords must be strings"
  | file error => error.message

/-- The text of a variable without the white space around it, if anything is left. -/
def setting? (given : Option String) : Option String :=
  match given with
  | none => none
  | some s => if trimBlank s = "" then none else some (trimBlank s)

/-- The path of the settings file: the one asked for, else the one in the environment, else the
usual one in the working directory. -/
def settingsPath (env : Environment) (asked : Option Path) : Path :=
  match asked, setting? env.configFile with
  | some path, _ => path
  | none, some s => .ofString s
  | none, none => .inWorkingDirectory "realmgen.yaml"

/-- A document in JSON or else in YAML. -/
def readDocument (depths : Depths) (text : List Char) : Except DocumentFault Value :=
  match Json.read depths.json text with
  | .error .malformed => Yaml.read depths.yaml text
  | result => result

/-- The entries of the mapping in the file at `path`, and what is to be noted about the file. -/
def readSettingsFile (depths : Depths) (files : FileTree) (path : Path) :
    Except SettingsFault (List (Value × Value)) × List LogEntry :=
  match files.contains path with
  | .error error => (.error (.file error), [])
  | .ok false => (.ok [], [])
  | .ok true =>
    match files.read path with
    | .error _ => (.ok [], [.settingsUnreadable path.text])
    | .ok content =>
      match textOfBytes? content with
      | none => (.error .notText, [])
      | some text =>
        match readDocument depths text.toList with
        | .error .malformed => (.ok [], [.settingsUnparsable path.text])
        | .error fault => (.error (.document fault), [])
        | .ok .null => (.ok [], [])
        | .ok (.map entries) => (.ok entries, [.settingsLoaded entries.length path.text])
        | .ok v => (.ok [], [.settingsNotMapping path.text v.typeName])

/-- The entry of a mapping under a name, if its key is a text.  A text with halves of surrogate
pairs names no setting. -/
def namedEntry : Value × Value → Except SettingsFault (Option (String × Value))
  | (.text name, v) => .ok (some (name, v))
  | (.halved _, _) => .ok none
  | _ => .error .keyNotText

/-- The entries of a mapping whose keys are all texts. -/
def namedEntries (entries : List (Value × Value)) :
    Except SettingsFault (List (String × Value)) :=
  (entries.mapM namedEntry).map (·.filterMap id)

/-- The settings that a mapping gives, or the defaults with a note. -/
def settingsOrDefaults (given : List (String × Value)) : Settings × List LogEntry :=
  match Settings.ofNamed given with
  | .ok settings => (settings, [])
  | .error _ => ({}, [.settingsInvalid])

/-- The settings with the directory of templates in the environment. -/
def Settings.override (settings : Settings) (env : Environment) : Settings :=
  match setting? env.templatesDir with
  | some dir => { settings with templatesDir := some (.ofString dir) }
  | none => settings

/-- Loads the settings. -/
def loadSettings (env : Environment) (files : FileTree) (asked : Option Path) :
    Except SettingsFault Settings × List LogEntry :=
  let (entries, log) := readSettingsFile env.depths files (settingsPath env asked)
  match entries >>= namedEntries with
  | .error fault => (.error fault, log)
  | .ok given =>
    let (settings, note) := settingsOrDefaults given
    (.ok (settings.override env), log ++ note)

end MobileSchema
