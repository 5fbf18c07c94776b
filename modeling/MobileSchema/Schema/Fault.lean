import MobileSchema.Catalog
import MobileSchema.Log
import MobileSchema.Schema.Issue

/-!
# Refusals

Why an operation on schemas, models and properties is refused.
-/

namespace MobileSchema

/-- Why an operation is refused. -/
inductive SchemaFault
  /-- a value, as messages show it, that names no field kind -/
  | unknownKind (given : String)
  /-- a value, as messages show it, that names no language -/
  | unknownLanguage (given : String)
  /-- a backlink was asked for without a name for it -/
  | missingLinkName (model property : String)
  /-- an option that a call does not know -/
  | unexpectedOption (call option : String)
  /-- an option for what the call was given already -/
  | repeatedOption (call option : String)
  /-- what was to be removed from a list is not in it -/
  | notListed
  /-- a list has no such place -/
  | noSuchPlace
  /-- a place is named by a number beyond the machine's integers -/
  | placeTooFar
  /-- something is to be put into a list at a place beyond the machine's integers -/
  | insertTooFar
  /-- an object of a type has no such attribute -/
  | noAttribute (typeName asked : String)
  /-- an object of a type is called, but is no method -/
  | notCallable (typeName : String)
  /-- a question about a schema that lists itself has no end -/
  | endless
  /-- the schema of a package breaks rules -/
  | invalid (package : Option String) (issues : List Issue)
  deriving DecidableEq, Repr

/-- The message of a refusal. -/
def SchemaFault.message : SchemaFault → String
  | unknownKind given => s!"{given} is not a valid FieldKind"
  | unknownLanguage given => s!"{given} is not a valid Language"
  | missingLinkName model property =>
    s!"{model}.{property}: linking_objects_name is required when create_linking_objects is set"
  | unexpectedOption call option =>
    s!"{call}() got an unexpected keyword argument {quoted option}"
  | repeatedOption call option => s!"{call}() got multiple values for argument {quoted option}"
  | notListed => "list.remove(x): x not in list"
  | noSuchPlace => "list index out of range"
  | placeTooFar => "cannot fit 'int' into an index-sized integer"
  | insertTooFar => "Python int too large to convert to C ssize_t"
  | noAttribute typeName asked =>
    s!"{quoted typeName} object has no attribute {quoted asked}"
  | notCallable typeName => s!"{quoted typeName} object is not callable"
  | endless => "maximum recursion depth exceeded"
  | invalid _ issues => issuesMessage issues

/-- What a refusal has to note. -/
def SchemaFault.log : SchemaFault → List LogEntry
  | invalid package issues => [.issuesFound package issues.length]
  | _ => []

/-- The language that a value names. -/
def Language.ofValue (v : Value) : Except SchemaFault Language :=
  match ofValue? v with
  | some language => .ok language
  | none => .error (.unknownLanguage v.shown)

/-- The kind that a value names. -/
def FieldKind.ofValue (v : Value) : Except SchemaFault FieldKind :=
  match ofValue? v with
  | some kind => .ok kind
  | none => .error (.unknownKind v.shown)

/-- How the fields of the kind that a value names are declared. -/
def FieldType.lookup (v : Value) : Except SchemaFault FieldType :=
  (FieldKind.ofValue v).map FieldKind.fieldType

end MobileSchema
