import MobileSchema.Schema.Declaration
import MobileSchema.Schema.Edit
import MobileSchema.Template.Equality

/-!
# Attributes

What an object has under names.  An attribute whose computation asks some object for an attribute
that it lacks is lacking itself.
-/

namespace MobileSchema.Template

/-! ### Schemas -/

/-- What is computed for an attribute, unless the computation comes to a lacking one. -/
def unlessLacking (a : Act Object) : Act (Option Object) :=
  try return some (← a)
  catch fault => if fault.isLack then return none else throw fault

/-- A truth value that is computed for an attribute. -/
def truthAttribute (a : Graph → Except SchemaFault Bool) : Act (Option Object) :=
  unlessLacking do return .bool (← ask (a (← currentGraph)))

/-- A reference as the value of an attribute. -/
def referenceAttribute (r : Reference) : Act (Option Object) := return some (.ofReference r)

/-- The method of a name among some methods. -/
def methodOf? {α : Type} (receiver : Object) (all : List α) (nameOf : α → String)
    (method : α → Method) (name : String) : Option Object :=
  (all.find? fun m => nameOf m = name).map fun m => .method receiver (method m)

/-- An attribute of a schema. -/
def schemaAttribute? (s : SchemaId) (name : String) : Act (Option Object) := do
  let schema := (← currentGraph).schema s
  match name with
  | "package_name" => return some (.ofText? schema.packageName)
  | "module_name" => return some (.ofText? schema.moduleName)
  | "models" => return some (.list (.models s))
  | "model_and_comma" => return some (← newCommaList (← contents (.models s)))
  | "has_linking_objects" => truthAttribute (·.schemaHasBacklinks s)
  | "has_list_relations" => truthAttribute (·.schemaHasListRelations s)
  | "has_indexed_properties" => truthAttribute (·.schemaHasIndexed s)
  | "has_primary_keys" => truthAttribute (·.hasPrimaryKeys s)
  | name => return methodOf? (.schema s) SchemaMethod.all SchemaMethod.name .schema name

/-- An attribute of a model. -/
def modelAttribute? (m : ModelId) (name : String) : Act (Option Object) := do
  let g ← currentGraph
  let model := g.model m
  match name with
  | "name" => return some (.text model.name)
  | "schema" => return some (.schema model.schema)
  | "properties" => return some (.list (.properties m))
  | "primary_key" => referenceAttribute model.primaryKey
  | "property_and_comma" => return some (← newCommaList (← contents (.properties m)))
  | "indexed_property_names" =>
    unlessLacking do newList ((← ask (g.indexedNames m)).map .text)
  | "indexed_property_and_comma" =>
    unlessLacking do newCommaList ((← ask (g.indexedNames m)).map .text)
  | "has_indexed_properties" => truthAttribute (·.hasIndexed m)
  | "has_linking_objects" => truthAttribute (·.hasBacklinks m)
  | "has_list_relations" => truthAttribute (·.hasListRelations m)
  | name => return methodOf? (.model m) ModelMethod.all ModelMethod.name .model name

/-- An attribute that only some sorts of properties have. -/
def shapeAttribute? (p : PropertyId) (name : String) : Act (Option Object) := do
  match ((← currentGraph).property p).shape, name with
  | .typed (.known kind) _, "kind" => return some (.kind kind)
  | .typed (.raw text) _, "kind" => return some (.text text)
  | .typed _ required, "required" => return some (.bool required)
  | .typed .., "is_primary_key" => truthAttribute (·.isPrimaryKey p)
  | .toOne target, "target" | .toMany target, "target" | .inverse target .., "target" =>
    referenceAttribute target
  | .inverse _ forward _, "property" => referenceAttribute forward
  | .inverse _ _ isPrivate, "is_private" => return some (.bool isPrivate)
  | _, _ => return none

/-- An attribute of a property. -/
def propertyAttribute? (p : PropertyId) (name : String) : Act (Option Object) := do
  let g ← currentGraph
  let property := g.property p
  match name with
  | "name" => return some (.text property.name)
  | "model" => referenceAttribute property.owner
  | "indexed" => return some (.bool property.indexed)
  | "is_relation" => return some (.bool property.shape.isRelation)
  | "is_list_relation" => return some (.bool property.shape.isListRelation)
  | "is_linking_objects" => return some (.bool property.shape.isBacklink)
  | "primary_key_annotation" => unlessLacking do return .text (← ask (g.markBefore p))
  | "declaration" => return some (.method (.property p) (.property .declaration))
  | "rendered_declaration" => return some (.method (.property p) (.property .renderedDeclaration))
  | name => shapeAttribute? p name

/-! ### Languages and kinds -/

/-- An attribute of a language that is no method of texts. -/
def languageAttribute? (l : Language) (name : String) : Option Object :=
  match name with
  | "value" => some (.text l.value)
  | "name" => some (.text l.constant)
  | "file_name" => some (.text l.templateName)
  | "is_ios" => some (.bool l.isIos)
  | name => (Language.all.find? fun l => l.constant = name).map .language

/-- The field kind that a constant names. -/
def kindNamed? (name : String) : Option Object :=
  (FieldKind.all.find? fun k => k.constant = name).map .kind

/-- An attribute of a field kind that is no method of texts. -/
def kindAttribute? (k : FieldKind) (name : String) : Option Object :=
  match name with
  | "value" => some (.text k.value)
  | "name" => some (.text k.constant)
  | name => kindNamed? name

/-! ### Simple objects -/

/-- The names of the methods of texts. -/
def textMethods : List String :=
  ["capitalize", "casefold", "center", "count", "endswith", "expandtabs", "find", "format",
    "format_map", "index", "isalnum", "isalpha", "isascii", "isdecimal", "isdigit", "isidentifier",
    "islower", "isnumeric", "isprintable", "isspace", "istitle", "isupper", "join", "ljust", "lower",
    "lstrip", "maketrans", "partition", "removeprefix", "removesuffix", "replace", "rfind", "rindex",
    "rjust", "rpartition", "rsplit", "rstrip", "split", "splitlines", "startswith", "strip",
    "swapcase", "title", "translate", "upper", "zfill"]

/-- The names of the methods of an object that is no object of a schema. -/
def methodsOf : Object → List String
  | .markup _ => textMethods ++ ["escape", "striptags", "unescape"]
  | .text _ | .halved _ | .language _ | .kind _ => textMethods
  | .list _ =>
    ["append", "clear", "copy", "count", "extend", "index", "insert", "pop", "remove", "reverse",
      "sort"]
  | .tuple _ | .group .. | .span .. => ["count", "index"]
  | .dict _ =>
    ["clear", "copy", "fromkeys", "get", "items", "keys", "pop", "popitem", "setdefault", "update",
      "values"]
  | .view .keys _ | .view .items _ => ["isdisjoint"]
  | .number _ | .bool _ =>
    ["as_integer_ratio", "bit_count", "bit_length", "conjugate"]
  | .fraction _ => ["as_integer_ratio", "conjugate", "hex", "is_integer"]
  | _ => []

/-- A method of an object that is no object of a schema. -/
def plainMethod? (o : Object) (name : String) : Option Object :=
  if (methodsOf o).contains name then some (.method o (.plain name)) else none

/-- An attribute of a number. -/
def numberAttribute? (o : Object) (name : String) : Option Object :=
  match o, o.integer?, name with
  | _, some n, "real" | _, some n, "numerator" => some (.number n)
  | _, some _, "imag" => some (.number 0)
  | _, some _, "denominator" => some (.number 1)
  | .fraction x, _, "real" => some (.fraction x)
  | .fraction _, _, "imag" => some (.fraction 0.0)
  | _, _, _ => none

/-! ### Parts of templates -/

/-- An attribute of a loop. -/
def loopAttribute? (i : Nat) (name : String) : Act (Option Object) := do
  let index : Int := (← loopAt i).reached
  match name with
  | "index" => return some (.number index)
  | "index0" => return some (.number (index - 1))
  | "first" => return some (.bool (index = 1))
  | "last" => return some (.bool (← Loop.peek i).isNone)
  | "length" => return some (.number (← Loop.settledLength i))
  | "revindex" => return some (.number ((← Loop.settledLength i) - index + 1))
  | "revindex0" => return some (.number ((← Loop.settledLength i) - index))
  | "depth" => return some (.number ((← loopAt i).depth + 1))
  | "depth0" => return some (.number (← loopAt i).depth)
  | "previtem" => return some ((← loopAt i).previous.getD (.undefined .noPrevious))
  | "nextitem" => return some ((← Loop.peek i).getD (.undefined .noNext))
  | "cycle" => return some (.method (.loop i) (.loop .cycle))
  | "changed" => return some (.method (.loop i) (.loop .changed))
  | _ => return none

/-- An attribute of what gives items in turn. -/
def cyclerAttribute? (i : Nat) (name : String) : Act (Option Object) := do
  let cycler := (← get).cyclers[i]?.getD { items := [] }
  match name with
  | "items" => return some (.tuple cycler.items)
  | "pos" => return some (.number cycler.place)
  | "current" => return cycler.items[cycler.place]?
  | "next" => return some (.method (.cycler i) (.cycler .next))
  | "reset" => return some (.method (.cycler i) (.cycler .reset))
  | _ => return none

/-- An attribute of what gives a text at all calls but the first. -/
def joinerAttribute? (i : Nat) (name : String) : Act (Option Object) := do
  let joiner := (← get).joiners[i]?
  match name with
  | "sep" => return joiner.map (·.separator)
  | "used" => return joiner.map fun joiner => .bool joiner.wasCalled
  | _ => return none

/-- An attribute of a body that can be called. -/
def routineAttribute? (i : Nat) (name : String) : Act (Option Object) := do
  let some routine := (← get).routines[i]? | return none
  match name with
  | "name" => return some (.ofText? routine.name)
  | "arguments" => return some (.tuple (routine.parameters.map .text))
  | "catch_kwargs" => return some (.bool routine.takesNamed)
  | "catch_varargs" => return some (.bool routine.takesPlaces)
  | "caller" => return some (.bool routine.takesCaller)
  | "explicit_caller" => return some (.bool (routine.parameters.contains "caller"))
  | _ => return none

/-- An attribute of a block. -/
def blockAttribute? (rendering : Nat) (block : String) (depth : Nat) (name : String) :
    Act (Option Object) := do
  match name with
  | "name" => return some (.text block)
  | "super" =>
    let stack := ((← renderingAt rendering).blocks.lookup block).getD []
    if depth + 1 < stack.length then return some (.block rendering block (depth + 1))
    else return some (.undefined (.noParentBlock block))
  | _ => return none

/-- What a rendering has under a name that other templates can bring in. -/
def offeredBy (rendering : Nat) (name : String) : Act (Option Object) := do
  let rendering ← renderingAt rendering
  if rendering.offered.contains name then return rendering.names.lookup name else return none

/-! ### All objects -/

/-- An attribute of an object. -/
def attribute? (o : Object) (name : String) : Act (Option Object) := do
  match o, name with
  | .undefined cause, _ => throw (.undefined cause)
  | .schema s, name => schemaAttribute? s name
  | .model m, name => modelAttribute? m name
  | .property p, name => propertyAttribute? p name
  | .language l, name => return languageAttribute? l name <|> plainMethod? o name
  | .kind k, name => return kindAttribute? k name <|> plainMethod? o name
  | .kinds, name => return kindNamed? name
  | .withComma data _, "data" => return some data
  | .withComma _ comma, "comma" => return some (.ofText? comma)
  | .pair ios _, "ios" => return some ios
  | .pair _ android, "android" => return some android
  | .pair .., "both" => return some (.method o (.pair .both))
  | .pair .., "for_language" => return some (.method o (.pair .forLanguage))
  | .span start _ _, "start" => return some (.number start)
  | .span _ stop _, "stop" => return some (.number stop)
  | .span _ _ step, "step" => return some (.number step)
  | .group agreed _, "grouper" => return some agreed
  | .group _ items, "list" => return some items
  | .record i, name => return (← entriesOf i).findSome? fun (key, value) =>
      if key.text? = some name then some value else none
  | .loop i, name => loopAttribute? i name
  | .cycler i, name => cyclerAttribute? i name
  | .joiner i, name => joinerAttribute? i name
  | .routine i, name => routineAttribute? i name
  | .library rendering _, name => offeredBy rendering name
  | .block rendering block depth, name => blockAttribute? rendering block depth name
  | o, name => return numberAttribute? o name <|> plainMethod? o name

end MobileSchema.Template
