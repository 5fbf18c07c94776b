import MobileSchema.Text.Quoted

/-!
# Paths

A path is a root and a list of names.  Repeated slashes, single dots and a slash at the end say
nothing and are dropped; a double dot is a name like any other, since only the file system knows
where it leads.

A file is replaced through a neighbour, `Path.temporary?`: the same name with one more suffix.
-/

namespace MobileSchema

/-- Where a path starts. -/
inductive PathRoot
  /-- in the directory from which it is used -/
  | relative
  /-- at the root of the file system -/
  | slash
  /-- at the root, written with exactly two slashes -/
  | doubleSlash
  /-- at the absolute place of the working directory -/
  | workingDirectory
  deriving DecidableEq, Repr

/-- What is written before the names of a path. -/
def PathRoot.start : PathRoot → String
  | .relative => ""
  | .slash => "/"
  | .doubleSlash => "//"
  | .workingDirectory => "<cwd>/"

/-- A path: its root, and the names to follow from there. -/
structure Path where
  root : PathRoot
  names : List String
  deriving DecidableEq, Repr

namespace Path

/-- The root of a written path. -/
def rootOf : List Char → PathRoot
  | '/' :: '/' :: '/' :: _ => .slash
  | '/' :: '/' :: _ => .doubleSlash
  | '/' :: _ => .slash
  | _ => .relative

/-- Whether a written component says anything. -/
def isName (component : List Char) : Bool :=
  component != [] && component != ['.']

/-- Reads a written path. -/
def ofString (s : String) : Path where
  root := rootOf s.toList
  names := ((s.toList.splitOn '/').filter isName).map String.ofList

/-- The path of a name in the working directory, as an absolute path. -/
def inWorkingDirectory (name : String) : Path := ⟨.workingDirectory, [name]⟩

/-- The written path. -/
def text (p : Path) : String :=
  match p.root, p.names with
  | .relative, [] => "."
  | .workingDirectory, [] => "<cwd>"
  | root, names => root.start ++ "/".intercalate names

/-- Whether a null character is in the path. -/
def hasNull (p : Path) : Bool := p.names.any (·.toList.contains '\x00')

/-- The last name, if the path has one. -/
def finalName? (p : Path) : Option String := p.names.getLast?

/-- The path with another last name. -/
def withFinalName (p : Path) (name : String) : Path :=
  { p with names := p.names.dropLast ++ [name] }

/-- The suffix of a name: its last dot and what follows, if something stands on both sides of that
dot. -/
def suffixOf (name : List Char) : List Char :=
  let extension := (name.reverse.takeWhile (· != '.')).reverse
  let stemLength := name.length - (extension.length + 1)
  if extension != [] && 0 < stemLength && name.contains '.' then '.' :: extension else []

/-- The suffix of a path's last name. -/
def suffix (p : Path) : List Char :=
  match p.finalName? with
  | none => []
  | some name => suffixOf name.toList

/-- The path with another suffix on its last name; none if it has no last name. -/
def withSuffix? (p : Path) (new : List Char) : Option Path :=
  p.finalName?.map fun name =>
    let stem := name.toList.take (name.toList.length - (suffixOf name.toList).length)
    p.withFinalName (String.ofList (stem ++ new))

/-- The neighbour through which a file at this path is replaced. -/
def temporary? (p : Path) : Option Path := p.withSuffix? (p.suffix ++ ".tmp".toList)

end Path

end MobileSchema
