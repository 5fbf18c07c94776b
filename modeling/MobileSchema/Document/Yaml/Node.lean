import MobileSchema.Document.Yaml.Scalar
import MobileSchema.Document.Yaml.Token

/-!
# Nodes

The tokens of a document as a graph of nodes.  A node is known by its number, so that an alias is
the number of the node with that anchor; a collection may in this way hold itself.
-/

namespace MobileSchema.Yaml

open DocumentFault

/-- A node; the nodes that it holds are given by their numbers. -/
inductive Node
  | scalar (tag : Tag) (text : String)
  /-- a scalar with halves of surrogate pairs, by the numbers of its characters -/
  | halved (tag : Tag) (codes : List Nat)
  | sequence (tag : Tag) (items : List Nat)
  | mapping (tag : Tag) (entries : List (Nat × Nat))

/-- The tag of a node. -/
def Node.tag : Node → Tag
  | scalar tag _ | halved tag _ | sequence tag _ | mapping tag _ => tag

/-- A node with another tag. -/
def Node.withTag (tag : Tag) : Node → Node
  | scalar _ text => scalar tag text
  | halved _ codes => halved tag codes
  | sequence _ items => sequence tag items
  | mapping _ entries => mapping tag entries

/-- The state of building nodes from tokens. -/
structure Composition where
  tokens : List Token
  nodes : Array Node := #[]
  anchors : List (String × Nat) := []
  /-- what the handles of tags are short for -/
  handles : List (String × String) := [("!", "!"), ("!!", standardPrefix)]
  /-- how many more collections may be opened in each other -/
  room : Nat

/-- A step of building nodes from tokens. -/
abbrev Compose := StateT Composition (Except DocumentFault)

namespace Compose

/-- The next token.  Where the text cannot be read there is none. -/
def peek : Compose Token := do
  match (← get).tokens.headD (.broken malformed) with
  | .broken fault => throw fault
  | token => return token

/-- Passes the next token. -/
def skip : Compose Unit := modify fun s => { s with tokens := s.tokens.tail }

/-- Whether the next token is one of some tokens. -/
def sees (choices : List Token) : Compose Bool := do return choices.contains (← peek)

/-- Passes a token that has to come next. -/
def expect (token : Token) : Compose Unit := do
  if ← sees [token] then skip else throw malformed

/-- Adds a node. -/
def add (node : Node) : Compose Nat := do
  let s ← get
  set { s with nodes := s.nodes.push node }
  return s.nodes.size

/-- Replaces a node. -/
def replace (id : Nat) (node : Node) : Compose Unit :=
  modify fun s => { s with nodes := s.nodes.setIfInBounds id node }

/-- Adds the empty node, which stands where nothing is written. -/
def addEmpty : Compose Nat := add (.scalar (Tag.ofForm "") "")

/-- Gives a node an anchor. -/
def anchor (name : Option String) (id : Nat) : Compose Unit :=
  match name with
  | none => pure ()
  | some name => modify fun s => { s with anchors := (name, id) :: s.anchors }

/-- The full name of a tag. -/
def fullTag (handle : Option String) (suffix : String) : Compose String := do
  match handle with
  | none => return suffix
  | some handle =>
    match (← get).handles.lookup handle with
    | none => throw malformed
    | some beginning => return beginning ++ suffix

/-- The anchor and the tag before a node, in either order. -/
def properties : Compose (Option String × Option String) := do
  match ← peek with
  | .anchor name =>
    skip
    match ← peek with
    | .tag handle suffix => skip; return (some name, some (← fullTag handle suffix))
    | _ => return (some name, none)
  | .tag handle suffix =>
    skip
    match ← peek with
    | .anchor name => skip; return (some name, some (← fullTag handle suffix))
    | _ => return (none, some (← fullTag handle suffix))
  | _ => return (none, none)

/-- The tag of a collection: the lone exclamation mark leaves it to the kind of the collection. -/
def collectionTag (written : Option String) (kind : Tag) : Tag :=
  match written with
  | none | some "!" => kind
  | some name => .ofName name

/-- The tag of a scalar: if none is written a plain scalar has one by its form. -/
def scalarTag (written : Option String) (plain : Bool) (text : String) : Tag :=
  match written with
  | none => if plain then .ofForm text else .str
  | some "!" => .ofForm text
  | some name => .ofName name

/-- The tag of a scalar with halves of surrogate pairs, which has no form of its own. -/
def halvedTag (written : Option String) : Tag := collectionTag written .str

/-- Counts a collection that opens; how deep they can stand in each other is limited. -/
def descend : Compose Unit := do
  let s ← get
  if s.room = 0 then throw (nestedTooDeep .yaml)
  set { s with room := s.room - 1 }

/-- Counts a collection that ends. -/
def ascend : Compose Unit := modify fun s => { s with room := s.room + 1 }

mutual

/-- The node that comes next.  Block collections are allowed if `inBlock`; a sequence whose hyphens
are not indented further than the key before it, if `unindented`. -/
def node (fuel : Nat) (inBlock unindented : Bool) : Compose Nat := do
  match fuel with
  | 0 => throw malformed
  | fuel + 1 =>
    if let .alias name ← peek then
      skip
      match (← get).anchors.lookup name with
      | none => throw malformed
      | some id => return id
    let (name, tag) ← properties
    let next ← peek
    if let some name := name then
      if ((← get).anchors.lookup name).isSome then throw malformed
    let addSequence (items : Compose (List Nat)) : Compose Nat := do
      let kind := collectionTag tag .seq
      let id ← add (.sequence kind [])
      anchor name id
      descend
      replace id (.sequence kind (← items))
      ascend
      return id
    let addMapping (entries : Compose (List (Nat × Nat))) : Compose Nat := do
      let kind := collectionTag tag .map
      let id ← add (.mapping kind [])
      anchor name id
      descend
      replace id (.mapping kind (← entries))
      ascend
      return id
    match next with
    | .blockEntry => if unindented then addSequence (unindentedItems fuel) else empty name tag
    | .scalar text plain =>
      skip
      let id ← add (.scalar (scalarTag tag plain text) text)
      anchor name id
      return id
    | .halved codes =>
      skip
      let id ← add (.halved (halvedTag tag) codes)
      anchor name id
      return id
    | .flowSequenceStart => skip; addSequence (flowItems fuel true)
    | .flowMappingStart => skip; addMapping (flowEntries fuel true)
    | .blockSequenceStart =>
      if inBlock then skip; addSequence (blockItems fuel) else empty name tag
    | .blockMappingStart =>
      if inBlock then skip; addMapping (blockEntries fuel) else empty name tag
    | _ => empty name tag
where
  /-- A node of which only the anchor or the tag is written. -/
  empty (name tag : Option String) : Compose Nat := do
    if name.isNone && tag.isNone then throw malformed
    let id ← add (.scalar (scalarTag tag true "") "")
    anchor name id
    return id

/-- The node that comes next, or the empty node before some tokens. -/
def nodeUnless (fuel : Nat) (inBlock unindented : Bool) (ends : List Token) : Compose Nat := do
  match fuel with
  | 0 => throw malformed
  | fuel + 1 => if ← sees ends then addEmpty else node fuel inBlock unindented

/-- The items of a block sequence, its end included. -/
def blockItems (fuel : Nat) : Compose (List Nat) := do
  match fuel with
  | 0 => throw malformed
  | fuel + 1 =>
    if ← sees [.blockEntry] then
      skip
      let item ← nodeUnless fuel true false [.blockEntry, .blockEnd]
      return item :: (← blockItems fuel)
    else
      expect .blockEnd
      return []

/-- The items of a sequence without an indentation of its own. -/
def unindentedItems (fuel : Nat) : Compose (List Nat) := do
  match fuel with
  | 0 => throw malformed
  | fuel + 1 =>
    if ← sees [.blockEntry] then
      skip
      let item ← nodeUnless fuel true false [.blockEntry, .key, .value, .blockEnd]
      return item :: (← unindentedItems fuel)
    else return []

/-- The entries of a block mapping, its end included. -/
def blockEntries (fuel : Nat) : Compose (List (Nat × Nat)) := do
  match fuel with
  | 0 => throw malformed
  | fuel + 1 =>
    if ← sees [.key] then
      skip
      let ends := [Token.key, .value, .blockEnd]
      let key ← nodeUnless fuel true true ends
      let value ← valueUnless fuel true ends
      return (key, value) :: (← blockEntries fuel)
    else
      expect .blockEnd
      return []

/-- The value of an entry, or the empty node if no colon comes next. -/
def valueUnless (fuel : Nat) (inBlock : Bool) (ends : List Token) : Compose Nat := do
  match fuel with
  | 0 => throw malformed
  | fuel + 1 =>
    if ← sees [.value] then
      skip
      nodeUnless fuel inBlock inBlock ends
    else addEmpty

/-- The items of a flow sequence, its closing bracket included.  A single entry of a mapping may
stand as an item. -/
def flowItems (fuel : Nat) (first : Bool) : Compose (List Nat) := do
  match fuel with
  | 0 => throw malformed
  | fuel + 1 =>
    if !first && !(← sees [.flowSequenceEnd]) then expect .flowEntry
    if ← sees [.flowSequenceEnd] then
      skip
      return []
    else if ← sees [.key] then
      skip
      let id ← add (.mapping .map [])
      let key ← nodeUnless fuel false false [.value, .flowEntry, .flowSequenceEnd]
      let value ← valueUnless fuel false [.flowEntry, .flowSequenceEnd]
      replace id (.mapping .map [(key, value)])
      return id :: (← flowItems fuel false)
    else
      let item ← node fuel false false
      return item :: (← flowItems fuel false)

/-- The entries of a flow mapping, its closing brace included.  A lone node is a key. -/
def flowEntries (fuel : Nat) (first : Bool) : Compose (List (Nat × Nat)) := do
  match fuel with
  | 0 => throw malformed
  | fuel + 1 =>
    if !first && !(← sees [.flowMappingEnd]) then expect .flowEntry
    if ← sees [.flowMappingEnd] then
      skip
      return []
    else if ← sees [.key] then
      skip
      let key ← nodeUnless fuel false false [.value, .flowEntry, .flowMappingEnd]
      let value ← valueUnless fuel false [.flowEntry, .flowMappingEnd]
      return (key, value) :: (← flowEntries fuel false)
    else
      let key ← node fuel false false
      let value ← addEmpty
      return (key, value) :: (← flowEntries fuel false)

end

/-- The directives before a document.  The version may be given once, and so may each handle. -/
def directives : Nat → Bool → List (String × String) → Compose (List (String × String))
  | 0, _, handles => return handles
  | fuel + 1, versioned, handles => do
    match ← peek with
    | .versionDirective major =>
      if versioned || major ≠ 1 then throw malformed
      skip
      directives fuel true handles
    | .tagDirective handle beginning =>
      if (handles.lookup handle).isSome then throw malformed
      skip
      directives fuel versioned ((handle, beginning) :: handles)
    | .otherDirective =>
      skip
      directives fuel versioned handles
    | _ => return handles

/-- Passes the markers that end a document. -/
def skipEnds : Nat → Compose Unit
  | 0 => pure ()
  | fuel + 1 => do
    if ← sees [.documentEnd] then
      skip
      skipEnds fuel

/-- The only document of a text, if there is one.  What follows it is looked at up to the start of
another document. -/
def document : Compose (Option Nat) := do
  let count := (← get).tokens.length
  let fuel := 4 * count + 8
  if ← sees [.streamEnd] then return none
  let root ←
    match ← peek with
    | .versionDirective _ | .tagDirective _ _ | .otherDirective | .documentStart => do
      let handles ← directives count false []
      modify fun s => { s with handles := handles ++ s.handles }
      expect .documentStart
      match ← peek with
      | .versionDirective _ | .tagDirective _ _ | .otherDirective | .documentStart | .documentEnd
      | .streamEnd => addEmpty
      | _ => node fuel true false
    | _ => node fuel true false
  skipEnds count
  if ← sees [.streamEnd] then return some root
  let _ ← directives count false []
  throw malformed

end Compose

/-- The nodes of a text, and the number of the outermost one if there is any.  Collections may stand
in each other as deep as `room`. -/
def nodes (room : Nat) (text : List Char) : Except DocumentFault (Option Nat × Array Node) :=
  (Compose.document.run { tokens := tokens text, room }).map fun (root, s) => (root, s.nodes)

end MobileSchema.Yaml
