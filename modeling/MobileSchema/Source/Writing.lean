import MobileSchema.Source.Rendering

/-!
# Writing sources

A source is written to a sink or to a file, and only after all of it has been rendered.  A file is
replaced through its temporary neighbour: the text goes there first, and then the neighbour takes
the place of the file.  If the files refuse either step the neighbour is removed.  A text with
halves of surrogate pairs in it cannot be written at all, which is found out only when the neighbour
is open.
-/

namespace MobileSchema

/-! ### Sinks -/

/-- What is done to a sink. -/
inductive SinkCall
  /-- a text is written, which is given by the numbers of its characters -/
  | write (codes : List Nat)
  | flush
  deriving DecidableEq, Repr

/-- What is done to a sink when a source is written to it. -/
def RenderRequest.writeTo (request : RenderRequest) (g : Graph) (site : Site) :
    Rendered Template.RenderFault (List SinkCall) :=
  let rendered := request.renderCodes g site
  { rendered with result := rendered.result.map fun codes => [.write codes, .flush] }

/-! ### Texts in files -/

/-- Why a text is not written to a file. -/
inductive WriteFault
  /-- the path has no last name -/
  | noFinalName (path : Path)
  /-- the path has a null character in it -/
  | nullInPath
  /-- halves of surrogate pairs are in the text, for which there are no bytes -/
  | halved (codes : List Nat)
  | file (error : FileError)

/-- The message about the first halves of surrogate pairs in a text. -/
def halvesMessage (codes : List Nat) : String :=
  let place := codes.findIdx isHalf
  let count := ((codes.drop place).takeWhile isHalf).length
  let first := quotedCodes ((codes.drop place).take 1)
  let what := if count = 1 then s!" {first} in position {place}"
    else s!"s in position {place}-{place + count - 1}"
  s!"'utf-8' codec can't encode character{what}: surrogates not allowed"

/-- The message of a fault. -/
def WriteFault.message : WriteFault → String
  | noFinalName path => s!"PosixPath({quoted path.text}) has an empty name"
  | nullInPath => "embedded null byte"
  | halved codes => halvesMessage codes
  | file error => error.message

namespace FileTree

/-- The files without a temporary one, and the error that is left. -/
def cleanUp (files : FileTree) (temporary : Path) (error : FileError) :
    FileTree × Option FileError :=
  match files.remove temporary with
  | .ok cleaned => (cleaned, some error)
  | .error other => (files, some other)

/-- The files after a write through a temporary neighbour, and the error that it ended with. -/
def replace (files : FileTree) (path temporary : Path) (content : ByteArray) :
    FileTree × Option FileError :=
  match files.write temporary content with
  | .error error => files.cleanUp temporary error
  | .ok written =>
    match written.rename temporary path with
    | .error error => written.cleanUp temporary error
    | .ok replaced => (replaced, none)

/-- The files after the temporary neighbour was opened for a text without bytes, and the fault that
it ended with.  That fault is no error of the files, so the neighbour is left as it was opened. -/
def spoil (files : FileTree) (temporary : Path) (codes : List Nat) : FileTree × Option WriteFault :=
  match files.write temporary .empty with
  | .error error =>
    let (files, error) := files.cleanUp temporary error
    (files, error.map .file)
  | .ok opened => (opened, some (.halved codes))

/-- Writes a text to a file, which is given by the numbers of its characters: the files behind that,
and the fault if there is one. -/
def writeText (files : FileTree) (path : Path) (codes : List Nat) : FileTree × Option WriteFault :=
  match path.temporary? with
  | none => (files, some (.noFinalName path))
  | some temporary =>
    if temporary.hasNull then (files, some .nullInPath)
    else
      match textOfCodes? codes with
      | none => files.spoil temporary codes
      | some text =>
        let (files, error) := files.replace path temporary text.toUTF8
        (files, error.map .file)

end FileTree

/-! ### Sources in files -/

/-- What renders sources; its faults are of some sort, and it can change the graph. -/
abbrev Renderer (ε : Type) := RenderRequest → Graph → Site → Rendered ε (List Nat)

/-- Why a source is not written to a file. -/
inductive SourceFault (ε : Type)
  | render (fault : ε)
  | write (fault : WriteFault)

/-- What writing a source to a file comes to. -/
structure Written (ε : Type) where
  fault : Option (SourceFault ε)
  graph : Graph
  files : FileTree
  log : List LogEntry

namespace RenderRequest

/-- The note about a source that was written to a file. -/
def writtenEntry (request : RenderRequest) (g : Graph) (path : Path) : LogEntry :=
  let language := (Language.ofValue? request.language).elim "" Language.value
  let package := match request.schema with
    | .schema s => (g.schema s).packageName
    | _ => none
  .wrote language package path.text

/-- Writes the source to a file that something renders. -/
def writeFileBy {ε : Type} (render : Renderer ε) (request : RenderRequest) (g : Graph) (site : Site)
    (path : Path) : Written ε :=
  let rendered := render request g site
  let graph := rendered.graph
  match rendered.result with
  | .error fault =>
    { fault := some (.render fault), graph, files := site.files, log := rendered.log }
  | .ok codes =>
    match site.files.writeText path codes with
    | (files, some fault) =>
      { fault := some (.write fault), graph, files, log := rendered.log }
    | (files, none) =>
      { fault := none, graph, files, log := rendered.log ++ [request.writtenEntry graph path] }

/-- Writes a source to a file. -/
def writeFile (request : RenderRequest) (g : Graph) (site : Site) (path : Path) :
    Written Template.RenderFault :=
  request.writeFileBy renderCodes g site path

end RenderRequest

end MobileSchema
