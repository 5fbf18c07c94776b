import MobileSchema.Number.Shortest
import MobileSchema.Template.Items
import MobileSchema.Text.Page

/-!
# Texts of objects

How messages show an object, and the text that is written for it.  Lists and tables can hold each
other, and even themselves, so the work on what they hold has a bound on its depth.
-/

namespace MobileSchema.Template

/-- How deep objects can hold each other. -/
def holdingLimit : Nat := 300

/-- The name of a method in messages, with the type that defines it. -/
def methodName (g : Graph) (receiver : Object) : Method → String
  | .schema m => "Schema." ++ m.name
  | .model m => "Model." ++ m.name
  | .property .declaration => "BaseProperty.declaration"
  | .property .renderedDeclaration => receiver.typeName g ++ ".rendered_declaration"
  | .pair .both => "PlatformPair.both"
  | .pair .forLanguage => "PlatformPair.for_language"
  | .loop .cycle => "LoopContext.cycle"
  | .loop .changed => "LoopContext.changed"
  | .cycler .next => "Cycler.next"
  | .cycler .reset => "Cycler.reset"
  | .plain name => match receiver with
    | .markup _ => "Markup." ++ name
    | _ => name

/-- The text of an integer, which has a limited number of digits. -/
def numberText (n : Int) : Act String :=
  if n.natAbs < tenPower digitLimit then return toString n else refuse .tooManyDigits

/-- An object as messages show it, at a bound on the depth of holding; `lists` and `dicts` are those
that hold it. -/
def shownAt : Nat → List ListRef → List Nat → Object → Act String
  | 0, _, _, _ => throw .endless
  | depth + 1, lists, dicts, o => do
    let shown := shownAt depth lists dicts
    let shownItems (items : List Object) : Act String := do
      match items with
      | [item] => return "(" ++ (← shown item) ++ ",)"
      | items => return "(" ++ ", ".intercalate (← items.mapM shown) ++ ")"
    let shownEntries (i : Nat) : Act String := do
      let entries ← (← entriesOf i).mapM fun (key, value) => do
        let key ← shownAt depth lists (i :: dicts) key
        return key ++ ": " ++ (← shownAt depth lists (i :: dicts) value)
      return "\x7b" ++ ", ".intercalate entries ++ "\x7d"
    match o with
    | .undefined _ => return "Undefined"
    | .none => return "None"
    | .bool b => return Graph.shownBool b
    | .number n => numberText n
    | .fraction x => return floatText x
    | .text s => return quoted s
    | .halved codes => return quotedCodes codes
    | .markup s => return s!"Markup({quoted s})"
    | .language l => return s!"<Language.{l.constant}: {quoted l.value}>"
    | .kind k => return Graph.kindShown (.known k)
    | .kinds => return "<enum 'FieldKind'>"
    | .list r =>
      if lists.contains r then return "[...]"
      let items ← (← contents r).mapM (shownAt depth (r :: lists) dicts)
      return "[" ++ ", ".intercalate items ++ "]"
    | .tuple items => shownItems items
    | .group agreed items => shownItems [agreed, items]
    | .dict i => if dicts.contains i then return "\x7b...\x7d" else shownEntries i
    | .record i => return s!"<Namespace {← shownEntries i}>"
    | .view part i =>
      let items ← (part.of (← entriesOf i)).mapM shown
      return s!"{o.typeName (← currentGraph)}([" ++ ", ".intercalate items ++ "])"
    | .span start stop step =>
      let first := s!"range({← numberText start}, {← numberText stop}"
      if step = 1 then return first ++ ")"
      return s!"{first}, {← numberText step})"
    | .stream type _ => return s!"<{type} object>"
    | .maker m => return s!"<class {quoted (m.typeModule ++ m.typeName)}>"
    | .textMaker => return "<function generate_lorem_ipsum>"
    | .cycler _ | .joiner _ | .block .. =>
      return s!"<{o.typeModule}{o.typeName (← currentGraph)} object>"
    | .schema s => ask ((← currentGraph).describeSchema s)
    | .model m => ask ((← currentGraph).describeModel m)
    | .property p => return (← currentGraph).describeProperty p
    | .withComma data comma =>
      return s!"CommaPair(data={← shown data}, comma={quotedOrNone comma})"
    | .pair ios android =>
      let ios ← shown ios
      return s!"PlatformPair(ios={ios}, android={← shown android})"
    | .function f =>
      return if f.parameter.isSome then s!"<function {f.call}>"
        else s!"<method {quoted f.call} of 'str' objects>"
    | .method receiver m =>
      let g ← currentGraph
      let name := methodName g receiver m
      if o.typeName g ≠ "method" then
        return s!"<built-in method {name} of {receiver.typeName g} object>"
      let receiver ← match m with
        | .pair .both => pure "<class 'realmgen.core.field_types.PlatformPair'>"
        | _ => shown receiver
      return s!"<bound method {name} of {receiver}>"
    | .loop i =>
      let length ← Loop.settledLength i
      return s!"<LoopContext {(← loopAt i).reached}/{length}>"
    | .routine i =>
      let name := ((← get).routines[i]?.bind (·.name)).elim "anonymous" quoted
      return s!"<Macro {name}>"
    | .library rendering _ =>
      return s!"<TemplateModule {quoted (← renderingAt rendering).template}>"
    | .blocks rendering =>
      return s!"<TemplateReference {quoted (← renderingAt rendering).template}>"

/-- An object as messages show it. -/
def shownOf (o : Object) : Act String := shownAt holdingLimit [] [] o

/-- The text that is written for an object. -/
def writtenOf (o : Object) : Act String := do
  match o with
  | .halved _ => throw (.undescribed .halves)
  | .undefined cause => if cause.isEmptyText then return "" else throw (.undefined cause)
  | .text s | .markup s => return s
  | .language l => return s!"Language.{l.constant}"
  | .kind k => return s!"FieldKind.{k.constant}"
  | .library _ body => return body
  | o => shownOf o

/-- The text that is written for an object, by the numbers of its characters. -/
def writtenCodes (o : Object) : Act (List Nat) := do
  match o with
  | .halved codes => return codes
  | o => return codesOf (← writtenOf o).toList

/-- The text that an object is, or the one that is written for it. -/
def textFrom (o : Object) : Act String := o.text?.elim (writtenOf o) pure

/-- The text that is written for an object, made safe for a page. -/
def safeOf (o : Object) : Act String := do
  match o with
  | .markup s | .library _ s => return s
  | o => return safeText (← writtenOf o)

/-- An object that is written, made safe for a page if that is asked for. -/
def shieldedOf (isSafe : Bool) (o : Object) : Act Object := do
  if isSafe then return .markup (← safeOf o)
  match o with
  | .halved codes => return .halved codes
  | o => return .text (← writtenOf o)

/-- The texts that objects are, in the order of their places, by the numbers of their characters. -/
def joinedCodes (parts : List Object) : Act (List (List Nat)) :=
  parts.zipIdx.mapM fun (part, place) => do
    match part.codes? with
    | some codes => return codes
    | none => refuse (.notSequenceJoined place (← typeOf part))

/-- Parts that are written one after another, as one text, by the numbers of its characters. -/
def codesOfParts (parts : List Object) : Act (List Nat) := do return (← joinedCodes parts).flatten

/-- The text of characters that are given by their numbers, where halves of surrogate pairs are not
followed further. -/
def textOfCodes (codes : List Nat) : Act String :=
  (textOfCodes? codes).elim (throw (.undescribed .halves)) pure

/-- A text, by the numbers of its characters, which is taken for safe if that is asked for. -/
def ofCodesIn (isSafe : Bool) (codes : List Nat) : Act Object := do
  if isSafe then return .markup (← textOfCodes codes) else return .ofCodes codes

end MobileSchema.Template
