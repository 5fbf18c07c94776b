import MobileSchema.Template.State

/-!
# Arguments

What a call is given, by place and by name, and how it is shared out among the parameters of a
function.  The first thing that is wrong is the fault: a name that the function does not know or
that is given twice, then too many arguments by place, then parameters without an argument.
-/

namespace MobileSchema.Template

/-- What a call is given. -/
structure Given where
  places : List Object := []
  named : List (String × Object) := []

/-- The parameters of a function, in order. -/
structure Signature where
  /-- the name of the function in messages -/
  call : String
  /-- the name of its first parameter, if that is what it is a method of -/
  receiver : Option String := some "self"
  required : List String
  optional : List String := []
  /-- the parameters that are given by name only; all of them are optional -/
  byName : List String := []
  /-- whether arguments by other names are accepted -/
  takesOthers : Bool := false

/-- The arguments of a call by the names of the parameters, and those by other names. -/
structure Bound where
  values : List (String × Object)
  others : List (String × Object)

namespace Bound

/-- The argument for a parameter. -/
def find? (bound : Bound) (name : String) : Option Object := bound.values.lookup name

/-- The argument for a parameter, or what an absent one stands for. -/
def find (bound : Bound) (name : String) : Object := (bound.find? name).getD .none

end Bound

namespace Signature

variable (s : Signature)

/-- The parameters that take arguments by place, what it is a method of included. -/
def places : List String := s.receiver.toList ++ s.required ++ s.optional

/-- Why the arguments by name are refused, if the first parameters have arguments already. -/
def namesFault? (taken : List String) (named : List (String × Object)) : Option CallFault :=
  named.findSome? fun (name, _) =>
    if taken.contains name then some (.repeated s.call name)
    else if s.places.contains name || s.byName.contains name || s.takesOthers then none
    else some (.unexpected s.call name)

/-- The arguments of a call by the names of the parameters. -/
def bind (given : Given) : Except CallFault Bound :=
  let receiver := s.receiver.toList.length
  let count := given.places.length + receiver
  let known := s.places ++ s.byName
  let values := (s.places.drop receiver).zip given.places ++
    given.named.filter fun (name, _) => known.contains name
  let missing := s.required.filter fun name => (values.lookup name).isNone
  match s.namesFault? (s.places.take count) given.named with
  | some fault => .error fault
  | none =>
    if s.places.length < count then
      .error (.tooMany s.call (s.required.length + receiver) s.places.length count
        (given.named.countP fun (name, _) => s.byName.contains name))
    else if missing ≠ [] then .error (.missing s.call missing)
    else .ok ⟨values, given.named.filter fun (name, _) => !known.contains name⟩

end Signature

/-- The arguments of a call, or the fault that they are refused with. -/
def bindTo (s : Signature) (given : Given) : Act Bound :=
  match s.bind given with
  | .ok bound => pure bound
  | .error fault => throw (.call fault)

/-! ### Simple functions -/

/-- How a simple function takes its arguments. -/
inductive Form
  | places (room : Room)
  /-- from `least` to `most` arguments by place, in a function that counts them by itself -/
  | counted (least most : Nat)
  /-- arguments for some names, by place or by name; all of them are optional -/
  | optional (names : List String)
  /-- arguments for some names, by name only; all of them are optional -/
  | named (names : List String)

/-- Why the arguments by name of a simple function are refused, if some names have arguments by
place. -/
def namedFault? (call : String) (names : List String) (placed : Nat)
    (named : List (String × Object)) : Option CallFault :=
  let repeated := ((names.take placed).zipIdx 1).find? fun (name, _) => (named.lookup name).isSome
  match repeated, named.find? fun (name, _) => !names.contains name with
  | some (name, place), _ => some (.namedAndPlaced call name place)
  | none, some (name, _) => some (.unknownName call name)
  | none, none => none

/-- Why the arguments of a simple function of a type are refused. -/
def Form.fault? (type call : String) (given : Given) : Form → Option CallFault
  | places room =>
    let count := given.places.length
    let fits : Bool := match room with
      | .nothing => count = 0
      | .one => count = 1
      | .between least most => least ≤ count && count ≤ most
    if !given.named.isEmpty then some (.noNames type call)
    else if fits then none
    else some (.room type call room count)
  | counted least most =>
    let count := given.places.length
    if !given.named.isEmpty then some (.noNames type call)
    else if least ≤ count && count ≤ most then none
    else some (.bounded call least most count)
  | optional names =>
    let count := given.places.length + given.named.length
    if names.length < count then some (.bounded call 0 names.length count)
    else namedFault? call names given.places.length given.named
  | named names =>
    if !given.places.isEmpty then some (.noPlaces call) else namedFault? call names 0 given.named

/-- The arguments of a simple function of a type, in order; those that are not given are absent. -/
def simpleArguments (type call : String) (form : Form) (given : Given) :
    Act (List (Option Object)) := do
  if let some fault := form.fault? type call given then throw (.call fault)
  match form with
  | .places _ | .counted .. => return given.places.map some
  | .optional names | .named names =>
    return given.places.map some ++
      (names.drop given.places.length).map fun name => given.named.lookup name

end MobileSchema.Template
