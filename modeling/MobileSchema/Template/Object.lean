import MobileSchema.Schema.Build
import MobileSchema.Template.TextFunction

/-!
# The objects of templates

What an expression in a template can stand for.  An expression that finds nothing stands for an
undefined object, which can be passed on and tested, but not used.

Lists, tables, loops and the like can change while a template is rendered, so an object only says
which one is meant.  The lists of a schema's models and of a model's properties are those of the
graph.
-/

namespace MobileSchema.Template

/-! ### Absence -/

/-- Why there is nothing where something was looked for. -/
inductive Absence
  /-- nothing has this name -/
  | name (s : String)
  /-- a holder, as messages name it, has no such attribute, as messages show it -/
  | member (holder missing : String)
  /-- a holder, as messages name it, has no element for a key, as messages show it -/
  | element (holder key : String)
  /-- a loop has no item before its first one -/
  | noPrevious
  /-- a loop has no item behind its last one -/
  | noNext
  /-- there is no first item -/
  | noFirst
  /-- there is no last item -/
  | noLast
  /-- a choice without an alternative was not made, on a line of a template -/
  | noAlternative (line : Nat) (template : String)
  /-- there is nothing to compare -/
  | noExtreme
  /-- there is nothing to choose from -/
  | noChoice
  /-- a parameter is not given -/
  | parameter (name : String)
  /-- a body that can be called is not given -/
  | noCaller
  /-- no template that is extended has this block -/
  | noParentBlock (name : String)
  /-- a template does not define a name that is brought in on a line of another -/
  | notDefined (template name : String) (line : Nat) (other : String)
  deriving DecidableEq, Repr

/-- The message about an undefined object that is used. -/
def Absence.message : Absence → String
  | .name s => s!"{quoted s} is undefined"
  | .member holder missing => s!"{quoted holder} has no attribute {missing}"
  | .element holder key => s!"{holder} has no element {key}"
  | .noPrevious => "there is no previous item"
  | .noNext => "there is no next item"
  | .noFirst => "No first item, sequence was empty."
  | .noLast => "No last item, sequence was empty."
  | .noAlternative line template =>
    s!"the inline if-expression on line {line} in {quoted template} evaluated to false and no " ++
      "else section was defined."
  | .noExtreme => "No aggregated item, sequence was empty."
  | .noChoice => "No random item, sequence was empty."
  | .parameter s => s!"parameter {quoted s} was not provided"
  | .noCaller => "No caller defined"
  | .noParentBlock s => s!"there is no parent block called {quoted s}."
  | .notDefined template s line other =>
    s!"the template {quoted template} (imported on line {line} in {quoted other}) " ++
      s!"does not export the requested name {quoted s}"

/-- Whether what is absent counts as an empty text.  Otherwise any use of it is refused. -/
def Absence.isEmptyText : Absence → Bool
  | noAlternative .. => true
  | _ => false

/-! ### Methods -/

/-- A method of a schema. -/
inductive SchemaMethod
  | model | getModel | usesKind | validate | render | writeTo
  deriving DecidableEq, Repr

/-- The name of a method. -/
def SchemaMethod.name : SchemaMethod → String
  | model => "model"
  | getModel => "get_model"
  | usesKind => "uses_kind"
  | validate => "validate"
  | render => "render"
  | writeTo => "write_to"

/-- The methods of a schema. -/
def SchemaMethod.all : List SchemaMethod := [model, getModel, usesKind, validate, render, writeTo]

/-- A method of a model. -/
inductive ModelMethod
  | field
  | typed (builder : FieldBuilder)
  | obj | list | linkingObjects | usesKind | property
  deriving DecidableEq, Repr

/-- The name of a method. -/
def ModelMethod.name : ModelMethod → String
  | field => "field"
  | typed builder => builder.name
  | obj => "obj"
  | list => "list"
  | linkingObjects => "linking_objects"
  | usesKind => "uses_kind"
  | property => "property"

/-- The methods of a model. -/
def ModelMethod.all : List ModelMethod :=
  FieldBuilder.all.map typed ++ [field, obj, list, linkingObjects, usesKind, property]

/-- A method of a property. -/
inductive PropertyMethod
  | declaration | renderedDeclaration
  deriving DecidableEq, Repr

/-- A method of a pair for the two platforms. -/
inductive PairMethod
  | both | forLanguage
  deriving DecidableEq, Repr

/-- A method of a loop. -/
inductive LoopMethod
  | cycle | changed
  deriving DecidableEq, Repr

/-- A method of what gives items in turn. -/
inductive CyclerMethod
  | next | reset
  deriving DecidableEq, Repr

/-- A method. -/
inductive Method
  | schema (m : SchemaMethod)
  | model (m : ModelMethod)
  | property (m : PropertyMethod)
  | pair (m : PairMethod)
  | loop (m : LoopMethod)
  | cycler (m : CyclerMethod)
  /-- a method of a text, a number, a list, a table or a span -/
  | plain (name : String)
  deriving DecidableEq, Repr

/-! ### Objects -/

/-- Which list is meant. -/
inductive ListRef
  | models (s : SchemaId)
  | properties (m : ModelId)
  /-- a list that a template has made -/
  | own (index : Nat)
  deriving DecidableEq, Repr

/-- What of a table is looked at. -/
inductive DictPart
  | keys | values | items
  deriving DecidableEq, Repr

/-- What makes objects of a type when it is called. -/
inductive Maker
  | span | dict | record | cycler | joiner
  deriving DecidableEq, Repr

/-- The name of the type that a maker makes objects of. -/
def Maker.typeName : Maker → String
  | span => "range"
  | dict => "dict"
  | record => "Namespace"
  | cycler => "Cycler"
  | joiner => "Joiner"

/-- The module of a maker's type, with the dot behind it. -/
def Maker.typeModule : Maker → String
  | span | dict => ""
  | record | cycler | joiner => "jinja2.utils."

/-- What an expression in a template stands for. -/
inductive Object
  | undefined (cause : Absence)
  | none
  | bool (b : Bool)
  | number (n : Int)
  | fraction (x : Float)
  | text (s : String)
  /-- a text with halves of surrogate pairs in it, by the numbers of its characters -/
  | halved (codes : List Nat)
  /-- a text that is safe in a page -/
  | markup (s : String)
  | language (l : Language)
  | kind (k : FieldKind)
  /-- all field kinds -/
  | kinds
  | list (r : ListRef)
  | tuple (items : List Object)
  /-- items that agree in something, with what they agree in -/
  | group (agreed items : Object)
  | dict (index : Nat)
  | view (part : DictPart) (dict : Nat)
  /-- the numbers from `start` to before `stop` at a distance of `step` -/
  | span (start stop step : Int)
  /-- what gives its items once, of a type -/
  | stream (type : String) (index : Nat)
  | maker (m : Maker)
  /-- what makes up texts -/
  | textMaker
  /-- names that a template can give values to wherever it sees them -/
  | record (index : Nat)
  /-- what gives items in turn -/
  | cycler (index : Nat)
  /-- what gives a text at all calls but the first -/
  | joiner (index : Nat)
  | schema (s : SchemaId)
  | model (m : ModelId)
  | property (p : PropertyId)
  | withComma (data : Object) (comma : Option String)
  | pair (ios android : Object)
  | function (f : TextFunction)
  | method (receiver : Object) (m : Method)
  | loop (index : Nat)
  /-- a body of a template that can be called -/
  | routine (index : Nat)
  /-- what a template defines -/
  | library (rendering : Nat) (body : String)
  /-- the blocks of a rendering -/
  | blocks (rendering : Nat)
  /-- a block of a rendering, `depth` templates up -/
  | block (rendering : Nat) (name : String) (depth : Nat)

namespace Object

/-- What a reference leads to. -/
def ofReference : Reference → Object
  | .nothing => none
  | .schema s => schema s
  | .model m => model m
  | .property p => property p
  | .text s => text s

/-- The reference that leads to an object. -/
def reference? : Object → Option Reference
  | none => some .nothing
  | schema s => some (.schema s)
  | model m => some (.model m)
  | property p => some (.property p)
  | text s => some (.text s)
  | _ => Option.none

theorem reference?_ofReference (r : Reference) : (ofReference r).reference? = some r := by
  cases r <;> rfl

/-- The text of characters that are given by their numbers. -/
def ofCodes (codes : List Nat) : Object := (textOfCodes? codes).elim (halved codes) text

/-- A text that may be absent. -/
def ofText? : Option String → Object
  | some s => text s
  | Option.none => none

/-- The text that an object is, if it is one; languages and kinds are texts with a name. -/
def text? : Object → Option String
  | text s | markup s => some s
  | language l => some l.value
  | kind k => some k.value
  | _ => Option.none

/-- The text that an object is, by the numbers of its characters. -/
def codes? : Object → Option (List Nat)
  | halved codes => some codes
  | o => o.text?.map fun s => codesOf s.toList

/-- The integer that an object is, if it is one; the truth values count as one and zero. -/
def integer? : Object → Option Int
  | number n => some n
  | bool b => some (if b then 1 else 0)
  | _ => Option.none

/-- The items of an object that holds them for good. -/
def tuple? : Object → Option (List Object)
  | tuple items => some items
  | group agreed items => some [agreed, items]
  | _ => Option.none

/-- The name of an object's type. -/
def typeName (g : Graph) : Object → String
  | undefined cause => if cause.isEmptyText then "Undefined" else "StrictUndefined"
  | none => "NoneType"
  | bool _ => "bool"
  | number _ => "int"
  | fraction _ => "float"
  | text _ | halved _ => "str"
  | markup _ => "Markup"
  | language _ => "Language"
  | kind _ => "FieldKind"
  | kinds => "EnumType"
  | list _ => "list"
  | tuple _ => "tuple"
  | group .. => "_GroupTuple"
  | dict _ => "dict"
  | view .keys _ => "dict_keys"
  | view .values _ => "dict_values"
  | view .items _ => "dict_items"
  | span .. => "range"
  | stream type _ => type
  | maker _ => "type"
  | record _ => "Namespace"
  | cycler _ => "Cycler"
  | joiner _ => "Joiner"
  | schema s => g.typeName (.schema s)
  | model m => g.typeName (.model m)
  | property p => g.typeName (.property p)
  | withComma .. => "CommaPair"
  | pair .. => "PlatformPair"
  | function f => if f.parameter.isSome then "function" else "method_descriptor"
  | textMaker => "function"
  | method (markup _) (.plain _) => "method"
  | method _ (.plain _) => "builtin_function_or_method"
  | method .. => "method"
  | loop _ => "LoopContext"
  | routine _ => "Macro"
  | library .. => "TemplateModule"
  | blocks _ => "TemplateReference"
  | block .. => "BlockReference"

/-- The module of an object's type, with the dot behind it. -/
def typeModule : Object → String
  | language _ | kind _ | pair .. => "realmgen.core.field_types."
  | kinds => "enum."
  | schema _ | model _ | withComma .. => "realmgen.core.schema."
  | property _ => "realmgen.core.properties."
  | undefined _ | loop _ | routine _ | blocks _ | block .. => "jinja2.runtime."
  | library .. => "jinja2.environment."
  | record _ | cycler _ | joiner _ => "jinja2.utils."
  | group .. => "jinja2.filters."
  | markup _ => "markupsafe."
  | _ => ""

/-- An object as messages name it that miss something in it. -/
def holder (g : Graph) : Object → String
  | none => "None"
  | o => o.typeModule ++ o.typeName g ++ " object"

end Object

end MobileSchema.Template
