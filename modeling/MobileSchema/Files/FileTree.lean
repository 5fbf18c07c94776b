import MobileSchema.Files.Path

/-!
# A tree of files

The files and directories of a file system, seen from a working directory, and the operations that
writing a file takes part in.  A path is followed name by name, so that a double dot means the
parent of the directory reached so far; the root is its own parent.  Names and paths have a greatest
length in bytes.
-/

namespace MobileSchema

/-- What stands at a place of the tree. -/
inductive FileNode
  | file (content : ByteArray)
  | directory

/-- Why an operation on a file is refused. -/
inductive FileFault
  | notFound | busy | notDirectory | isDirectory | nameTooLong
  deriving DecidableEq, Repr

/-- A refused operation: the reason, the path it was asked for, and the second path of a
renaming. -/
structure FileError where
  fault : FileFault
  path : Path
  target : Option Path := none
  deriving DecidableEq, Repr

/-- The number that operating systems give to a fault. -/
def FileFault.number : FileFault → Nat
  | .notFound => 2
  | .busy => 16
  | .notDirectory => 20
  | .isDirectory => 21
  | .nameTooLong => 36

/-- The words that operating systems give to a fault. -/
def FileFault.text : FileFault → String
  | .notFound => "No such file or directory"
  | .busy => "Device or resource busy"
  | .notDirectory => "Not a directory"
  | .isDirectory => "Is a directory"
  | .nameTooLong => "File name too long"

/-- The message of a refused operation. -/
def FileError.message (e : FileError) : String :=
  let operands := match e.target with
    | none => quoted e.path.text
    | some target => quoted e.path.text ++ " -> " ++ quoted target.text
  s!"[Errno {e.fault.number}] {e.fault.text}: {operands}"

/-- The files and directories, each under the names that lead to it from the root. -/
structure FileTree where
  entries : List (List String × FileNode) := []
  /-- the names that lead to the working directory, which is always there -/
  home : List String := ["home"]

namespace FileTree

/-- The files and directories below the working directory, each under the names that lead to it from
there. -/
def nodes (t : FileTree) : List (List String × FileNode) :=
  t.entries.filterMap fun (names, node) => (t.home.isPrefixOf? names).map (·, node)

/-- What stands under a list of names. -/
def get? (t : FileTree) (names : List String) : Option FileNode :=
  if names <+: t.home then some .directory else t.entries.lookup names

/-- Puts a node under a list of names, over what stood there. -/
def insert (t : FileTree) (names : List String) (node : FileNode) : FileTree :=
  { t with entries := (t.entries.filter (·.1 != names)) ++ [(names, node)] }

/-- Enters a directory, which is made if nothing stands there. -/
def enter (t : FileTree) (directory : List String) (name : String) : FileTree × List String :=
  if name = ".." then (t, directory.dropLast)
  else
    let inner := directory ++ [name]
    (if (t.get? inner).isNone then t.insert inner .directory else t, inner)

/-- Puts a node where some names lead from the working directory, with the directories on the
way. -/
def put (t : FileTree) (names : List String) (node : FileNode) : FileTree :=
  let (t, directory) := names.dropLast.foldl (fun (t, directory) name => t.enter directory name)
    (t, t.home)
  match names.getLast? with
  | some name => if name = ".." then t else t.insert (directory ++ [name]) node
  | none => t

/-- Takes away what stands under a list of names. -/
def erase (t : FileTree) (names : List String) : FileTree :=
  { t with entries := t.entries.filter (·.1 != names) }

/-- The number of bytes that a name can have. -/
def nameLimit : Nat := 255

/-- The number of bytes that a path can have. -/
def pathLimit : Nat := 4095

/-- Follows one name from a place, which has to be a directory. -/
def follow (t : FileTree) (place : List String) (name : String) :
    Except FileFault (List String) :=
  match t.get? place with
  | none => .error .notFound
  | some (.file _) => .error .notDirectory
  | some .directory =>
    if nameLimit < name.utf8ByteSize then .error .nameTooLong
    else if name = ".." then .ok place.dropLast
    else .ok (place ++ [name])

/-- Follows names from a place, one by one. -/
def walk (t : FileTree) (place names : List String) : Except FileFault (List String) :=
  names.foldlM t.follow place

/-- The place from which a root starts. -/
def start (t : FileTree) : PathRoot → List String
  | .relative | .workingDirectory => t.home
  | .slash | .doubleSlash => []

/-- The place that a path leads to, whether or not something stands there.  A path with a null
character leads nowhere. -/
def place (t : FileTree) (p : Path) : Except FileFault (List String) :=
  if p.hasNull then .error .notFound
  else if pathLimit < p.text.utf8ByteSize then .error .nameTooLong
  else t.walk (t.start p.root) p.names

/-- What stands at a path. -/
def find (t : FileTree) (p : Path) : Except FileFault FileNode :=
  match t.place p with
  | .error fault => .error fault
  | .ok names => (t.get? names).elim (.error .notFound) .ok

/-- Whether something stands at a path; a path that is too long cannot be looked at. -/
def contains (t : FileTree) (p : Path) : Except FileError Bool :=
  match t.find p with
  | .ok _ => .ok true
  | .error .nameTooLong => .error { fault := .nameTooLong, path := p }
  | .error _ => .ok false

/-- The content of the file at a path. -/
def read (t : FileTree) (p : Path) : Except FileError ByteArray :=
  match t.find p with
  | .error fault => .error { fault, path := p }
  | .ok .directory => .error { fault := .isDirectory, path := p }
  | .ok (.file content) => .ok content

/-- Writes a file at a path, over the file that stood there.  Its directory has to be there. -/
def write (t : FileTree) (p : Path) (content : ByteArray) : Except FileError FileTree :=
  match t.place p with
  | .error fault => .error { fault, path := p }
  | .ok names =>
    match t.get? names with
    | some .directory => .error { fault := .isDirectory, path := p }
    | _ => .ok (t.insert names (.file content))

/-- Moves the file at one path to another, over the file that stood there. -/
def rename (t : FileTree) (source target : Path) : Except FileError FileTree :=
  let refuse (fault : FileFault) : Except FileError FileTree :=
    .error { fault, path := source, target := some target }
  if target.finalName? = some ".." then refuse .busy
  else
    match t.place source, t.place target with
    | .error fault, _ | _, .error fault => refuse fault
    | .ok old, .ok new =>
      match t.get? old with
      | none => refuse .notFound
      | some .directory => refuse .isDirectory
      | some (.file content) =>
        match t.get? new with
        | some .directory => refuse .isDirectory
        | _ => .ok ((t.erase old).insert new (.file content))

/-- Removes the file at a path; that nothing stands there is no error. -/
def remove (t : FileTree) (p : Path) : Except FileError FileTree :=
  match t.place p with
  | .error .notFound => .ok t
  | .error fault => .error { fault, path := p }
  | .ok names =>
    match t.get? names with
    | some .directory => .error { fault := .isDirectory, path := p }
    | _ => .ok (t.erase names)

/-! ### What is under the names after a change -/

theorem lookup_filter_ne {β : Type} (nodes : List (List String × β)) {names other : List String}
    (h : other ≠ names) :
    (nodes.filter (·.1 != names)).lookup other = nodes.lookup other := by
  induction nodes with
  | nil => rfl
  | cons node nodes ih =>
    obtain ⟨place, value⟩ := node
    by_cases hp : place = names
    · subst hp
      rw [List.filter_cons_of_neg (by simp), List.lookup_cons, beq_false_of_ne h, ih]
    · rw [List.filter_cons_of_pos (by simpa using hp), List.lookup_cons, List.lookup_cons, ih]

theorem lookup_filter_self {β : Type} (nodes : List (List String × β)) (names : List String) :
    (nodes.filter (·.1 != names)).lookup names = none := by
  rw [List.lookup_eq_none_iff]
  intro node hn
  have := (List.mem_filter.1 hn).2
  simp_all [bne, BEq.comm]

theorem get?_insert_self (t : FileTree) {names : List String} (h : ¬ names <+: t.home)
    (node : FileNode) : (t.insert names node).get? names = some node := by
  simp [get?, insert, h, List.lookup_append, lookup_filter_self]

theorem get?_insert_of_ne (t : FileTree) {names other : List String} (h : other ≠ names)
    (node : FileNode) : (t.insert names node).get? other = t.get? other := by
  simp [get?, insert, List.lookup_append, lookup_filter_ne _ h, List.lookup_cons,
    beq_false_of_ne h]

theorem get?_erase_self (t : FileTree) {names : List String} (h : ¬ names <+: t.home) :
    (t.erase names).get? names = none := by
  simp [get?, erase, h, lookup_filter_self]

theorem get?_erase_of_ne (t : FileTree) {names other : List String} (h : other ≠ names) :
    (t.erase names).get? other = t.get? other := by
  simp [get?, erase, lookup_filter_ne _ h]

end FileTree

end MobileSchema
