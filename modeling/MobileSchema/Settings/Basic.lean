import MobileSchema.Document.Value
import MobileSchema.Files.Path
import MobileSchema.Number.Arithmetic

/-!
# Settings

The settings of the generator, and the values that each of them can be given.  A switch can be given
as a truth value, as the number one or zero, or as one of a few words.
-/

namespace MobileSchema

/-! ### The directory of templates -/

/-- A directory of templates. -/
inductive TemplatesDir
  | path (p : Path)
  /-- a path with halves of surrogate pairs in it, its names by the numbers of their characters; no
  file has such a path -/
  | halved (root : PathRoot) (names : List (List Nat))
  deriving DecidableEq, Repr

namespace TemplatesDir

/-- Reads a written directory. -/
def ofString (s : String) : TemplatesDir := .path (.ofString s)

/-- Reads a written directory with halves of surrogate pairs in it, none of which is a slash. -/
def ofHalved (codes : List Nat) : TemplatesDir :=
  .halved (Path.rootOf (codes.map Char.ofNat))
    ((codes.splitOn '/'.toNat).filter fun name => name != [] && name != ['.'.toNat])

/-- The written directory, by the numbers of its characters. -/
def codes : TemplatesDir → List Nat
  | path p => codesOf p.text.toList
  | halved root names => codesOf root.start.toList ++ ['/'.toNat].intercalate names

end TemplatesDir

/-! ### Settings and their values -/

/-- The settings of the generator. -/
structure Settings where
  /-- the directory whose templates come before the bundled ones -/
  templatesDir : Option TemplatesDir := none
  validateBeforeRender : Bool := true
  trimBlocks : Bool := true
  lstripBlocks : Bool := true
  keepTrailingNewline : Bool := true
  deriving DecidableEq, Repr

/-- What is wrong with the value of a setting. -/
inductive SettingProblem
  /-- the value is of a sort that a switch can be given by, but says neither on nor off -/
  | notASwitch
  /-- the value is of a sort that no switch can be given by -/
  | wrongForSwitch
  /-- the value is no path -/
  | notAPath
  deriving DecidableEq, Repr

/-- The code of a problem. -/
def SettingProblem.code : SettingProblem → String
  | .notASwitch => "bool_parsing"
  | .wrongForSwitch => "bool_type"
  | .notAPath => "path_type"

/-- The words for on. -/
def onWords : List String := ["1", "on", "t", "true", "y", "yes"]

/-- The words for off. -/
def offWords : List String := ["0", "off", "f", "false", "n", "no"]

/-- The switch that a word gives; capitals of ASCII do not matter. -/
def switchOfText (s : String) : Except SettingProblem Bool :=
  let word := String.ofList (s.toList.map Char.toLower)
  if onWords.contains word then .ok true
  else if offWords.contains word then .ok false
  else .error .notASwitch

/-- The switch that an integer gives. -/
def switchOfInt (i : Int) : Except SettingProblem Bool :=
  if i = 0 then .ok false
  else if i = 1 then .ok true
  else .error .notASwitch

/-- The switch that a value gives; a fraction gives none, but a whole number may be written as
one. -/
def switchOfValue : Value → Except SettingProblem Bool
  | .bool b => .ok b
  | .text s => switchOfText s
  | .halved _ => .error .notASwitch
  | .bytes content =>
    match String.fromUTF8? ⟨content.toArray⟩ with
    | some s => switchOfText s
    | none => .error .notASwitch
  | .int i =>
    if fitsWord i then switchOfInt i else .error .wrongForSwitch
  | .float x =>
    match floatToInt? x with
    | some i => if -wordBound < i && i < wordBound then switchOfInt i else .error .wrongForSwitch
    | none => .error .wrongForSwitch
  | _ => .error .wrongForSwitch

/-- The directory that a value gives, if it gives one. -/
def pathOfValue : Value → Except SettingProblem (Option TemplatesDir)
  | .null => .ok none
  | .text s => .ok (some (.ofString s))
  | .halved codes => .ok (some (.ofHalved codes))
  | _ => .error .notAPath

/-- A setting with a value that is not allowed. -/
structure InvalidSetting where
  name : String
  problem : SettingProblem
  deriving DecidableEq, Repr

/-- The value of a setting: what it was given, or else its default. -/
def readSetting {α : Type} (given : List (String × Value)) (name : String) (default : α)
    (read : Value → Except SettingProblem α) : Except InvalidSetting α :=
  match given.lookup name with
  | none => .ok default
  | some v => (read v).mapError (⟨name, ·⟩)

/-- The problem of a setting, if it has one. -/
def problemOf {α : Type} : Except InvalidSetting α → List InvalidSetting
  | .ok _ => []
  | .error invalid => [invalid]

/-- The settings that are given by name; names of no setting mean nothing.  All problems are
reported together, in the order of the settings. -/
def Settings.ofNamed (given : List (String × Value)) : Except (List InvalidSetting) Settings :=
  let templatesDir := readSetting given "templates_dir" none pathOfValue
  let validateBeforeRender := readSetting given "validate_before_render" true switchOfValue
  let trimBlocks := readSetting given "trim_blocks" true switchOfValue
  let lstripBlocks := readSetting given "lstrip_blocks" true switchOfValue
  let keepTrailingNewline := readSetting given "keep_trailing_newline" true switchOfValue
  match templatesDir, validateBeforeRender, trimBlocks, lstripBlocks, keepTrailingNewline with
  | .ok templatesDir, .ok validateBeforeRender, .ok trimBlocks, .ok lstripBlocks,
      .ok keepTrailingNewline =>
    .ok { templatesDir, validateBeforeRender, trimBlocks, lstripBlocks, keepTrailingNewline }
  | _, _, _, _, _ =>
    .error (problemOf templatesDir ++ problemOf validateBeforeRender ++ problemOf trimBlocks
      ++ problemOf lstripBlocks ++ problemOf keepTrailingNewline)

end MobileSchema
