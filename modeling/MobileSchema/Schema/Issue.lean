import MobileSchema.Text.Quoted

/-!
# What can be wrong with a schema

The rules that a schema has to keep, each with the issue that reports its breach: names are given
once, a listed property belongs to its model, a relation leads to a model of the schema, a
backlink reverses a relation that its target declares, and a primary key is a typed field that its
model lists.
-/

namespace MobileSchema

/-- A breach of a rule; models and properties are given by their names. -/
inductive Issue
  | duplicateModel (model : String) (count : Nat)
  | duplicateProperty (model property : String) (count : Nat)
  | orphan (model property owner : String)
  | unknownTarget (model property target : String)
  | missingForward (model property target forward : String)
  | keyNotTyped (model key : String)
  | foreignKey (model key : String)
  deriving DecidableEq, Repr

namespace Issue

/-- The code of the rule. -/
def code : Issue → String
  | duplicateModel .. => "model.duplicate"
  | duplicateProperty .. => "property.duplicate"
  | orphan .. => "property.orphan"
  | unknownTarget .. => "relation.unknown_target"
  | missingForward .. => "linking_objects.missing_property"
  | keyNotTyped .. => "primary_key.not_typed_field"
  | foreignKey .. => "primary_key.foreign"

/-- What is wrong, in words. -/
def message : Issue → String
  | duplicateModel model count => s!"schema declares model {quoted model} {count} times"
  | duplicateProperty model property count =>
    s!"{model} declares property {quoted property} {count} times"
  | orphan model property owner => s!"{model}.{property} belongs to another model ({owner})"
  | unknownTarget model property target =>
    s!"{model}.{property} targets {target}, which is not in this schema"
  | missingForward model property target forward =>
    s!"{model}.{property} links to {target}.{forward}, which {target} does not declare"
  | keyNotTyped model key => s!"{model} primary key {quoted key} is not a typed field"
  | foreignKey model key => s!"{model} primary key {quoted key} is not one of its own properties"

/-- The model that is concerned. -/
def model : Issue → String
  | duplicateModel model _ | duplicateProperty model .. | orphan model .. | unknownTarget model ..
  | missingForward model .. | keyNotTyped model _ | foreignKey model _ => model

/-- The property that is concerned, if there is one. -/
def property? : Issue → Option String
  | duplicateModel .. => none
  | duplicateProperty _ property _ | orphan _ property _ | unknownTarget _ property _
  | missingForward _ property .. => some property
  | keyNotTyped _ key | foreignKey _ key => some key

end Issue

/-- All issues in one message. -/
def issuesMessage (issues : List Issue) : String :=
  s!"Schema validation failed ({issues.length} issue(s)): " ++
    "; ".intercalate (issues.map fun issue => s!"[{issue.code}] {issue.message}")

end MobileSchema
