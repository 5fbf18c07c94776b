import MobileSchema.Text.Naming
import MobileSchema.Text.Quoted

/-!
# The text functions of templates

Templates change names by text functions, which they find in a table by name.  The table offers
all naming conventions.  A caller's functions replace those of the same name in their places, and
new ones follow, sorted by name.
-/

namespace MobileSchema

/-- An error that a text function raises: the name of its type, and its message. -/
structure Raised where
  type : String
  message : String
  deriving DecidableEq, Repr

/-- A function on texts, as templates call it. -/
structure TextFunction where
  /-- the name in messages about its calls -/
  call : String
  /-- the name of its parameter; a function that is a method of texts has none -/
  parameter : Option String := some "value"
  /-- the message that refuses what is no text, for the name of its type; without it, the text that
  is written for an argument is taken -/
  refusal : Option (String → String) := none
  /-- whether what is no text, but has items in places, is taken in the reverse order -/
  reversesItems : Bool := false
  /-- what it makes of a text, or the error that it raises -/
  apply : String → Except Raised String

/-- Text functions by name. -/
abbrev FunctionTable := List (String × TextFunction)

/-- What a caller offers under a name. -/
inductive Offer
  | function (f : TextFunction)
  /-- something of this type, which cannot be applied -/
  | other (typeName : String)

/-- Something that cannot be applied was offered under a name. -/
structure NotApplicable where
  name : String
  typeName : String
  deriving DecidableEq, Repr

/-- The message about an offer that cannot be applied. -/
def NotApplicable.message (fault : NotApplicable) : String :=
  s!"helper {quoted fault.name} must be callable, got {fault.typeName}"

namespace FunctionTable

/-- The naming conventions by name. -/
def conventions : FunctionTable :=
  Convention.all.map fun c => (c.name, { call := c.name, apply := .ok ∘ c.apply })

/-- The function of a name. -/
def find? (table : FunctionTable) (name : String) : Option TextFunction := table.lookup name

/-- The names of a table. -/
def names (table : FunctionTable) : List String := table.map (·.1)

/-- The table with a function under a name, in the place of the one that had this name. -/
def put (table : FunctionTable) (name : String) (f : TextFunction) : FunctionTable :=
  if table.names.contains name then
    table.map fun entry => if entry.1 = name then (name, f) else entry
  else table ++ [(name, f)]

/-- The table with what was offered under a name. -/
def accept (table : FunctionTable) (offer : String × Offer) :
    Except NotApplicable FunctionTable :=
  match offer with
  | (name, .function f) => .ok (table.put name f)
  | (name, .other typeName) => .error { name, typeName }

/-- The naming conventions with what a caller offers. -/
def merge (offers : List (String × Offer)) : Except NotApplicable FunctionTable :=
  (offers.mergeSort fun a b => a.1 ≤ b.1).foldlM accept conventions

theorem names_put (table : FunctionTable) (name : String) (f : TextFunction) :
    (table.put name f).names =
      if table.names.contains name then table.names else table.names ++ [name] := by
  unfold put
  split
  · simp only [names, List.map_map]
    apply List.map_congr_left
    intro entry _
    by_cases h : entry.1 = name <;> simp [h]
  · simp [names]

end FunctionTable

end MobileSchema
