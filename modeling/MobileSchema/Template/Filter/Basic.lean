import MobileSchema.Template.Call
import MobileSchema.Template.Operator

/-!
# Filters

A filter makes an object of an object and further arguments, and a test answers whether an object is
of some sort.  Both are functions of a name; a function can need what it is called from, which is
its first argument then.
-/

namespace MobileSchema.Template

/-- What filters and tests need of the place where they stand. -/
structure Desk where
  /-- whether outputs are made safe for a page -/
  escapes : Bool
  /-- what the filter that an object names makes of an object -/
  filter : Object → Object → Given → Act Object
  /-- what the test that an object names says about an object -/
  test : Object → Object → Given → Act Object
  hasFilter : Object → Act Bool
  hasTest : Object → Act Bool
  /-- whether all objects are written in the template, so that no two of them are one -/
  isLiteral : Bool := false

/-- A filter or a test. -/
inductive Filter
  /-- a simple function of one argument -/
  | simple (call : String) (f : Object → Act Object)
  /-- a simple function of two arguments, of a type -/
  | simplePair (type call : String) (f : Object → Object → Act Object)
  /-- a function with parameters; some take what they are called from before all others -/
  | bound (signature : Signature) (takesDesk : Bool) (f : Desk → Bound → Act Object)
  /-- a function that takes all arguments as they are -/
  | free (call : String) (f : Desk → Object → Given → Act Object)

namespace Filter

/-- The name of a filter in messages. -/
def call : Filter → String
  | simple call _ | simplePair _ call _ | free call _ => call
  | bound signature _ _ => signature.call

/-- What a filter or test makes of an object. -/
def apply (filter : Filter) (desk : Desk) (o : Object) (given : Given) : Act Object := do
  match filter with
  | simple call f =>
    if !given.named.isEmpty then throw (.call (.noNames "" call))
    if !given.places.isEmpty then throw (.call (.room "" call .one (given.places.length + 1)))
    f o
  | simplePair type call f =>
    if !given.named.isEmpty then throw (.call (.noNames type call))
    match given.places with
    | [other] => f o other
    | places => throw (.call (.room "" call (.between 2 2) (places.length + 1)))
  | bound signature takesDesk f =>
    let before := if takesDesk then [.none, o] else [o]
    f desk (← bindTo signature { given with places := before ++ given.places })
  | free _ f => f desk o given

/-- A filter or test of one parameter. -/
def unary (call parameter : String) (f : Object → Act Object) : Filter :=
  bound { call, receiver := none, required := [parameter] } false fun _ b => f (b.find parameter)

/-- A filter or test of two parameters. -/
def binary (call first second : String) (f : Object → Object → Act Object) : Filter :=
  bound { call, receiver := none, required := [first, second] } false fun _ b =>
    f (b.find first) (b.find second)

/-- A filter with optional parameters. -/
def withOptions (call parameter : String) (optional : List String)
    (f : Object → Bound → Act Object) : Filter :=
  bound { call, receiver := none, required := [parameter], optional } false fun _ b =>
    f (b.find parameter) b

/-- A filter with optional parameters that takes what it is called from, under a name. -/
def atDesk (call place parameter : String) (optional : List String)
    (f : Desk → Object → Bound → Act Object) : Filter :=
  bound { call, receiver := none, required := [place, parameter], optional } true fun desk b =>
    f desk (b.find parameter) b

end Filter

/-- Whether an argument of a filter is given and counts as true. -/
def isSetOr (bound : Bound) (name : String) (otherwise : Bool) : Act Bool :=
  (bound.find? name).elim (pure otherwise) truthOf

/-! ### Attributes of items -/

/-- A part of the path to an attribute: digits name a place, and anything else is a name. -/
def pathPart (part : List Char) : Act Object := do
  if part = [] || !part.all isAnyDigit then return .text (String.ofList part)
  match integerOfText? 10 (String.ofList part) with
  | some n => return .number n
  | none => refuse (.notIntegerText (quoted (String.ofList part)))

/-- The parts of the path to an attribute: the names between the points of a text, or any other
object. -/
def attributePath (o : Object) : Act (List Object) := do
  match o, ← textIn? o with
  | .none, _ => return []
  | _, some s => (partsFromLeft ['.'] s.length s.toList).mapM pathPart
  | o, none => return [o]

/-- What an object has under a path of parts; `otherwise` is taken, if it is given, for a part that
is undefined. -/
def itemAlong (o : Object) (path : List Object) (otherwise : Object) : Act Object :=
  path.foldlM (fun o part => do
    let item ← itemOf o part
    if isUndefined item && !(otherwise matches .none) then return otherwise else return item) o

/-- An object as it is compared: a text without regard to case, unless case is asked for. -/
def comparedAs (caseSensitive : Bool) (o : Object) : Act Object := do
  if caseSensitive then return o else return (← textIn? o).elim o (.text ∘ lowerCase)

/-! ### Streams -/

/-- What the items of an object come to, the items of a stream not before they are asked for. -/
def outcomesOf (o : Object) : Act (List (Except RenderFault Object)) := do
  match o with
  | .stream _ i =>
    let outcomes := (← get).streams[i]?.getD []
    modify fun state => { state with streams := state.streams.set i [] }
    return outcomes
  | o =>
    match ← outcomeOf (itemsOf o) with
    | .ok items => return items.map .ok
    | .error fault => return [.error fault]

/-- What a function makes of items, up to the first fault. -/
def outcomesEach (f : Object → Act (Option Object)) :
    List (Except RenderFault Object) → Act (List (Except RenderFault Object))
  | [] => return []
  | .error fault :: _ => return [.error fault]
  | .ok item :: rest => do
    match ← outcomeOf (f item) with
    | .error fault => return [.error fault]
    | .ok none => outcomesEach f rest
    | .ok (some o) => return .ok o :: (← outcomesEach f rest)

/-- A new stream of what a function makes of each item of an object.  A fault comes up when the
stream is asked for the item that it belongs to. -/
def streamEach (o : Object) (f : Object → Act (Option Object)) : Act Object := do
  newStream "generator" (← outcomesEach f (← outcomesOf o))

/-- A new stream of what an act comes to.  A fault comes up when the stream is asked for an item. -/
def streamAll (items : Act (List Object)) : Act Object := do
  match ← outcomeOf items with
  | .ok items => streamOf "generator" items
  | .error fault => newStream "generator" [.error fault]

end MobileSchema.Template
