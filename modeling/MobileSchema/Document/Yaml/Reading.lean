import MobileSchema.Document.Yaml.Node

/-!
# YAML documents

Reading a YAML text as one value.  The nodes are read in layers: a collection first counts as
read, and its parts are read after everything that was met before it.  Of several faults in the
scalars of a document the first one in this order is reported.  A collection that holds itself is
cut off at its second occurrence.

No number is the same as not-a-number, not even another one.  So two keys that are not-a-number are
one key only if they come from one node or are both written by its own word.
-/

namespace MobileSchema.Yaml

open DocumentFault

/-- What a node has been read as. -/
inductive Made
  /-- a scalar; two that are not-a-number are told apart by `origin` -/
  | scalar (value : Value) (origin : Nat)
  /-- a collection whose parts have not been read yet -/
  | pending
  | list (items : List Nat)
  | pairs (entries : List (Nat × Nat))
  | set (members : List Value)
  | map (entries : List (Value × Nat))

/-- The state of reading nodes as values. -/
structure Construction where
  nodes : Array Node
  made : Array (Option Made)
  /-- the collections whose parts are to be read, the next one first -/
  queue : List Nat := []

/-- A step of reading nodes as values. -/
abbrev Construct := StateT Construction (Except DocumentFault)

namespace Construct

/-- The node of a number. -/
def nodeAt (id : Nat) : Construct Node := do
  match (← get).nodes[id]? with
  | some node => return node
  | none => throw malformed

/-- Notes what a node has been read as. -/
def note (id : Nat) (made : Made) : Construct Unit :=
  modify fun s => { s with made := s.made.setIfInBounds id (some made) }

/-- The text of a node where a scalar is wanted, by the numbers of its characters.  A mapping gives
the text of its default value. -/
def scalarCodes : Nat → Nat → Construct (List Nat)
  | 0, _ => throw malformed
  | fuel + 1, id => do
    match ← nodeAt id with
    | .scalar _ text => return codesOf text.toList
    | .halved _ codes => return codes
    | .sequence _ _ => throw malformed
    | .mapping _ entries =>
      let nodes := (← get).nodes
      match entries.find? fun e => nodes[e.1]?.any (·.tag = .defaultValue) with
      | some (_, value) => scalarCodes fuel value
      | none => throw malformed

/-- The value that a scalar tag gives to the text of a node. -/
def readScalar (tag : Tag) (codes : List Nat) : Except DocumentFault Value :=
  match textOfCodes? codes with
  | some text => (scalarValue? tag text).getD (.error malformed)
  | none => halvedValue tag codes

/-- What tells a scalar that is not-a-number from others: one that is written by its own word has
the same origin everywhere. -/
def originOf (id : Nat) (codes : List Nat) : Nat :=
  if (textOfCodes? codes).any fun text => isNotANumber text.toList then 0 else id + 1

/-- Reads a node, the parts of a collection left for later. -/
def visit (id : Nat) : Construct Unit := do
  let s ← get
  if let some (some _) := s.made[id]? then return
  let node ← nodeAt id
  match node.tag with
  | .seq | .map | .set | .orderedMap | .pairs =>
    note id .pending
    modify fun s => { s with queue := s.queue ++ [id] }
  | tag =>
    if (scalarValue? tag "").isNone then throw malformed
    let codes ← scalarCodes (s.nodes.size + 1) id
    match tag, node with
    | .timestamp, .mapping _ _ => throw mappingForTime
    | _, _ => note id (.scalar (← readScalar tag codes) (originOf id codes))

/-- The entries of a mapping node. -/
def entriesOf (id : Nat) : Construct (List (Nat × Nat)) := do
  match ← nodeAt id with
  | .mapping _ entries => return entries
  | _ => throw malformed

/-- Replaces the entries of a mapping node. -/
def setEntries (id : Nat) (entries : List (Nat × Nat)) : Construct Unit := do
  match ← nodeAt id with
  | .mapping tag _ =>
    modify fun s => { s with nodes := s.nodes.setIfInBounds id (.mapping tag entries) }
  | _ => throw malformed

mutual

/-- Puts the entries of the mappings that a mapping merges before its own. -/
def expandMerges (fuel : Nat) (id : Nat) : Construct Unit := do
  match fuel with
  | 0 => pure ()
  | fuel + 1 =>
    let merged ← takeMerges fuel id [] (← entriesOf id)
    if merged ≠ [] then setEntries id (merged ++ (← entriesOf id))

/-- The entries to be merged into a mapping, whose entries `kept` have been looked at and whose
entries of the last argument have not.  The merge keys are taken out of it. -/
def takeMerges (fuel : Nat) (id : Nat) (kept : List (Nat × Nat)) :
    List (Nat × Nat) → Construct (List (Nat × Nat))
  | [] => return []
  | (key, value) :: rest => do
    let keyNode ← nodeAt key
    match keyNode.tag with
    | .merge =>
      setEntries id (kept ++ rest)
      let merged ← match ← nodeAt value with
        | .mapping _ _ => do
          match fuel with
          | 0 => pure ()
          | fuel + 1 => expandMerges fuel value
          entriesOf value
        | .sequence _ items => mergedItems fuel items
        | _ => throw malformed
      return merged ++ (← takeMerges fuel id kept rest)
    | .defaultValue =>
      modify fun s => { s with nodes := s.nodes.setIfInBounds key (keyNode.withTag .str) }
      takeMerges fuel id (kept ++ [(key, value)]) rest
    | _ => takeMerges fuel id (kept ++ [(key, value)]) rest

/-- The entries of the mappings in a list to be merged, those of the last mapping first. -/
def mergedItems (fuel : Nat) : List Nat → Construct (List (Nat × Nat))
  | [] => return []
  | item :: rest => do
    match fuel with
    | 0 => pure ()
    | fuel + 1 => expandMerges fuel item
    let entries ← entriesOf item
    return (← mergedItems fuel rest) ++ entries

end

/-- The key of a map, with what tells it from others if it is not-a-number. -/
structure MadeKey where
  value : Value
  origin : Nat

/-- Whether a value is not-a-number. -/
def isNaN : Value → Bool
  | .float x => x.isNaN
  | _ => false

/-- Whether two keys are one. -/
def MadeKey.same (a b : MadeKey) : Bool :=
  a.value.same b.value && (!isNaN a.value || a.origin = b.origin)

/-- Puts an entry into a map whose values are given by their numbers. -/
def insertMade (entries : List (MadeKey × Nat)) (key : MadeKey) (value : Nat) :
    List (MadeKey × Nat) :=
  if entries.any (·.1.same key) then
    entries.map fun e => if e.1.same key then (e.1, value) else e
  else entries ++ [(key, value)]

/-- Reads the entries of a mapping node.  A key is a scalar. -/
def readEntries (id : Nat) : Construct (List (Value × Nat)) := do
  let s ← get
  match ← nodeAt id with
  | .mapping _ _ => expandMerges (s.nodes.size + 1) id
  | _ => throw malformed
  let made ← (← entriesOf id).foldlM (fun map (key, value) => do
    visit key
    match (← get).made[key]? with
    | some (some (.scalar k origin)) =>
      visit value
      return insertMade map ⟨k, origin⟩ value
    | _ => throw malformed) []
  return made.map fun (key, value) => (key.value, value)

/-- Reads the items of a list of single entries. -/
def readPairs (items : List Nat) : Construct (List (Nat × Nat)) :=
  items.mapM fun item => do
    match ← nodeAt item with
    | .mapping _ [(key, value)] =>
      visit key
      visit value
      return (key, value)
    | _ => throw malformed

/-- Reads the parts of a collection. -/
def readParts (id : Nat) : Construct Unit := do
  let node ← nodeAt id
  match node.tag, node with
  | .seq, .sequence _ items =>
    items.forM visit
    note id (.list items)
  | .orderedMap, .sequence _ items | .pairs, .sequence _ items =>
    note id (.pairs (← readPairs items))
  | .map, _ => note id (.map (← readEntries id))
  | .set, _ => note id (.set ((← readEntries id).map (·.1)))
  | _, _ => throw malformed

/-- Reads the parts of all collections that wait for it. -/
def readQueue : Nat → Construct Unit
  | 0 => pure ()
  | fuel + 1 => do
    match (← get).queue with
    | [] => pure ()
    | id :: rest =>
      modify fun s => { s with queue := rest }
      readParts id
      readQueue fuel

end Construct

/-! ### The value -/

/-- How far the value of a node has been put together. -/
inductive Assembly
  | untouched
  | opened
  | done (value : Value)

mutual

/-- Puts the value of a node together. -/
def assemble (made : Array (Option Made)) (fuel : Nat) (id : Nat) :
    StateM (Array Assembly) Value := do
  match fuel with
  | 0 => return .null
  | fuel + 1 =>
    match (← get)[id]? with
    | some (.done value) => return value
    | some .untouched =>
      modify fun s => s.setIfInBounds id .opened
      let value ← match made[id]? with
        | some (some (.scalar value _)) => pure value
        | some (some (.list items)) => Value.list <$> assembleItems made fuel items
        | some (some (.pairs entries)) => Value.list <$> assemblePairs made fuel entries
        | some (some (.set members)) => pure (Value.set members)
        | some (some (.map entries)) => Value.map <$> assembleEntries made fuel entries
        | _ => pure Value.null
      modify fun s => s.setIfInBounds id (.done value)
      return value
    | _ => return .null

/-- The values of a list of nodes. -/
def assembleItems (made : Array (Option Made)) (fuel : Nat) :
    List Nat → StateM (Array Assembly) (List Value)
  | [] => return []
  | id :: rest => do
    match fuel with
    | 0 => return []
    | fuel + 1 =>
      let value ← assemble made fuel id
      return value :: (← assembleItems made (fuel + 1) rest)

/-- The values of a list of pairs of nodes. -/
def assemblePairs (made : Array (Option Made)) (fuel : Nat) :
    List (Nat × Nat) → StateM (Array Assembly) (List Value)
  | [] => return []
  | (key, value) :: rest => do
    match fuel with
    | 0 => return []
    | fuel + 1 =>
      let key ← assemble made fuel key
      let value ← assemble made fuel value
      return .list [key, value] :: (← assemblePairs made (fuel + 1) rest)

/-- The entries of a map. -/
def assembleEntries (made : Array (Option Made)) (fuel : Nat) :
    List (Value × Nat) → StateM (Array Assembly) (List (Value × Value))
  | [] => return []
  | (key, value) :: rest => do
    match fuel with
    | 0 => return []
    | fuel + 1 =>
      let value ← assemble made fuel value
      return (key, value) :: (← assembleEntries made (fuel + 1) rest)

end

/-- Reads a YAML document in which collections may stand in each other as deep as `room`.  The empty
text is the empty value. -/
def read (room : Nat) (text : List Char) : Except DocumentFault Value := do
  let (root, nodes) ← nodes room text
  match root with
  | none => return .null
  | some root =>
    let reading : Construct Unit := do
      Construct.visit root
      Construct.readQueue (nodes.size + 1)
    let (_, s) ← reading.run { nodes, made := Array.replicate nodes.size none }
    return ((assemble s.made (3 * nodes.size + 3) root).run
      (Array.replicate nodes.size .untouched)).1

end MobileSchema.Yaml
