import MobileSchema.Text.Quoted

/-!
# The log

What is noted while schemas are built and checked, settings are loaded and sources are written.  An
entry says what happened; `LogEntry.line` is the line that is written for it.
-/

namespace MobileSchema

/-- How much an entry matters. -/
inductive LogLevel
  | debug | info | warning
  deriving DecidableEq, Repr

/-- The word for a level. -/
def LogLevel.word : LogLevel → String
  | .debug => "DEBUG"
  | .info => "INFO"
  | .warning => "WARNING"

/-- Something worth noting. -/
inductive LogEntry
  /-- a backlink was made for a relation -/
  | linked (target link model property : String)
  /-- a schema was found to have issues -/
  | issuesFound (package : Option String) (count : Nat)
  /-- a template is about to be rendered -/
  | rendering (package : Option String) (language template : String) (models : Nat)
  /-- a source was written to a file -/
  | wrote (language : String) (package : Option String) (path : String)
  /-- a settings file was read -/
  | settingsLoaded (count : Nat) (path : String)
  /-- a settings file cannot be read -/
  | settingsUnreadable (path : String)
  /-- a settings file is no document -/
  | settingsUnparsable (path : String)
  /-- a settings file holds something that is not a mapping -/
  | settingsNotMapping (path typeName : String)
  /-- a setting has a value that is not allowed -/
  | settingsInvalid
  deriving DecidableEq, Repr

namespace LogEntry

/-- How much an entry matters. -/
def level : LogEntry → LogLevel
  | linked .. | issuesFound .. | rendering .. => .debug
  | wrote .. | settingsLoaded .. => .info
  | settingsUnreadable .. | settingsUnparsable .. | settingsNotMapping .. | settingsInvalid =>
    .warning

/-- The part of the program that an entry comes from. -/
def channel : LogEntry → String
  | linked .. | issuesFound .. => "realmgen.schema"
  | rendering .. | wrote .. => "realmgen.render"
  | settingsLoaded .. | settingsUnreadable .. | settingsUnparsable .. | settingsNotMapping ..
  | settingsInvalid => "realmgen.settings"

/-- The words of an entry.  The text of an error is left open. -/
def text : LogEntry → String
  | linked target link model property =>
    s!"linking objects {target}.{link} -> {model}.{property}"
  | issuesFound package count => s!"schema {quotedOrNone package} has {count} issue(s)"
  | rendering package language template models =>
    s!"render schema={quotedOrNone package} language={language} template={template} models={models}"
  | wrote language package path =>
    s!"Wrote {language} model source for {quotedOrNone package} to {path}"
  | settingsLoaded count path => s!"Loaded {count} generator settings from {path}"
  | settingsUnreadable path => s!"Cannot read settings file {path}: <error>"
  | settingsUnparsable path => s!"Failed to parse settings file {path} as JSON or YAML: <error>"
  | settingsNotMapping path typeName =>
    s!"Settings file {path} must be a mapping, got {typeName}"
  | settingsInvalid => "Invalid generator settings, using defaults: <error>"

/-- The line that is written for an entry. -/
def line (entry : LogEntry) : String :=
  s!"{entry.level.word} {entry.channel}: {entry.text}"

end LogEntry

end MobileSchema
