import MobileSchema.Files.FileTree
import MobileSchema.Settings.Basic
import MobileSchema.Template.Bundled
import MobileSchema.Template.Shown
import MobileSchema.Text.Layout

/-!
# Looking up templates

Where the template of a name comes from.  The names of templates are relative paths that lead
nowhere upwards.  A file in the directory of the settings comes before the bundled templates.
-/

namespace MobileSchema.Template

/-! ### Names -/

/-- The names along the path of a template; none if the path leads upwards. -/
def namesOf? (path : String) : Option (List String) :=
  let parts := (path.toList.splitOn '/').map String.ofList
  if parts.contains ".." then none else some (parts.filter fun part => part != "" && part != ".")

/-! ### Sources -/

/-- The file of a template in a directory. -/
def fileIn? (files : FileTree) (dir : TemplatesDir) (names : List String) : Option ByteArray :=
  match dir with
  | .halved .. => none
  | .path dir =>
    match files.find { dir with names := dir.names ++ names } with
    | .ok (.file content) => some content
    | _ => none

/-- The bundled template at a path. -/
def bundled? (names : List String) : Option (List Char) :=
  (Language.all.find? fun l => names = [l.templateName]).map bundledSource

/-- The source of the template of a name. -/
def source (settings : Settings) (files : FileTree) (name : TemplateName) :
    Except RenderFault (List Char) :=
  match namesOf? name.path with
  | none => .error (.notFound name.written)
  | some names =>
    match settings.templatesDir.bind fun dir => fileIn? files dir names with
    | some content => ((textOfBytes? content).map String.toList).elim (.error .notText) .ok
    | none => (bundled? names).elim (.error (.notFound name.written)) .ok

/-- Whether there is a template of a name, be it readable or not. -/
def hasSource (settings : Settings) (files : FileTree) (name : TemplateName) : Bool :=
  match source settings files name with
  | .error (.notFound _) => false
  | _ => true

end MobileSchema.Template
