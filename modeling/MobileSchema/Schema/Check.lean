import MobileSchema.Schema.Attribute

/-!
# What is wrong with a schema

`Graph.issues` finds the breaches of all rules: those of the names of models first, then model by
model those of the names of properties, of the single properties in order, and of the primary key.
Names are compared as texts, everything else as objects.

An issue is reported by names.  Where a place that should hold a model or a property holds something
without a name, or nothing, the check itself is refused.
-/

namespace MobileSchema

/-- The names that occur more than once, in order, each with the number of its occurrences. -/
def repeatedNames (names : List String) : List (String × Nat) :=
  ((names.eraseDups.filter fun name => 1 < names.count name).mergeSort fun a b => a ≤ b).map
    fun name => (name, names.count name)

namespace Graph

variable (g : Graph)

/-! ### One property -/

/-- The breach of a property that the model `m` lists but does not own. -/
def ownerIssues (m : ModelId) (p : PropertyId) : Except SchemaFault (List Issue) :=
  let property := g.property p
  if property.owner = .model m then .ok []
  else (g.nameOf property.owner).map fun owner =>
    [.orphan (g.modelName m) property.name owner]

/-- The breach of a relation that leads out of the schema `s`. -/
def targetIssues (s : SchemaId) (m : ModelId) (p : PropertyId) :
    Except SchemaFault (List Issue) :=
  let property := g.property p
  match property.shape.target? with
  | none => .ok []
  | some target =>
    if target ∈ (g.schema s).slots then .ok []
    else (g.nameOf target).map fun target =>
      [.unknownTarget (g.modelName m) property.name target]

/-- The breach of a backlink whose relation its target does not declare. -/
def forwardIssues (m : ModelId) (p : PropertyId) : Except SchemaFault (List Issue) := do
  let property := g.property p
  match property.shape with
  | .inverse target forward _ =>
    if forward ∈ (← g.slotsOf target) then return []
    else
      return [.missingForward (g.modelName m) property.name (← g.nameOf target)
        (← g.nameOf forward)]
  | _ => return []

/-- The breaches of what the model `m` of the schema `s` lists in one place. -/
def slotIssues (s : SchemaId) (m : ModelId) : Reference → Except SchemaFault (List Issue)
  | .property p => do
    return (← g.ownerIssues m p) ++ (← g.targetIssues s m p) ++ (← g.forwardIssues m p)
  | r => g.lacks r "model"

/-! ### One model -/

/-- The breaches of the names of a model's properties. -/
def nameIssues (m : ModelId) : Except SchemaFault (List Issue) :=
  (g.namesOf (g.model m).slots).map fun names =>
    (repeatedNames names).map fun (name, count) => .duplicateProperty (g.modelName m) name count

/-- The breach of a model's primary key. -/
def keyIssues (m : ModelId) : Except SchemaFault (List Issue) :=
  let key := (g.model m).primaryKey
  let isTyped := key.property?.any fun p => (g.property p).shape.isTyped
  if key = .nothing then .ok []
  else if !isTyped then
    (g.nameOf key).map fun key => [.keyNotTyped (g.modelName m) key]
  else if key ∈ (g.model m).slots then .ok []
  else (g.nameOf key).map fun key => [.foreignKey (g.modelName m) key]

/-- The breaches inside what the schema `s` lists in one place. -/
def modelIssues (s : SchemaId) : Reference → Except SchemaFault (List Issue)
  | .model m => do
    let names ← g.nameIssues m
    let slots ← (g.model m).slots.mapM (g.slotIssues s m)
    return names ++ slots.flatten ++ (← g.keyIssues m)
  | r => g.lacks r "properties"

/-! ### All -/

/-- All breaches in a schema. -/
def issues (s : SchemaId) : Except SchemaFault (List Issue) := do
  let names ← g.namesOf (g.schema s).slots
  let models ← (g.schema s).slots.mapM (g.modelIssues s)
  return (repeatedNames names).map (fun (name, count) => .duplicateModel name count)
    ++ models.flatten

/-- Refuses a schema with issues. -/
def validate (s : SchemaId) : Except SchemaFault Unit := do
  let issues ← g.issues s
  if issues ≠ [] then throw (.invalid (g.schema s).packageName issues)

end Graph

end MobileSchema
