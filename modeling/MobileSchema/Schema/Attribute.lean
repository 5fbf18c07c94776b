import MobileSchema.Schema.Fault
import MobileSchema.Schema.Graph

/-!
# Asking what a pointer leads to

A pointer can lead to any object, and not every object has every attribute.  To ask for one that is
missing is refused.
-/

namespace MobileSchema

namespace Graph

variable (g : Graph)

/-- The name of the type of what a reference leads to. -/
def typeName : Reference → String
  | .nothing => "NoneType"
  | .schema _ => "Schema"
  | .model _ => "Model"
  | .property p => (g.property p).shape.propertyClass.name
  | .text _ => "str"

/-- The refusal to answer what a reference is asked for. -/
def lacks {α : Type} (r : Reference) (asked : String) : Except SchemaFault α :=
  .error (.noAttribute (g.typeName r) asked)

/-- The name of what a reference leads to. -/
def nameOf : Reference → Except SchemaFault String
  | .model m => .ok (g.modelName m)
  | .property p => .ok (g.propertyName p)
  | r => g.lacks r "name"

/-- The names of what references lead to. -/
def namesOf (rs : List Reference) : Except SchemaFault (List String) := rs.mapM g.nameOf

/-- What the model that a reference leads to lists as its properties. -/
def slotsOf : Reference → Except SchemaFault (List Reference)
  | .model m => .ok (g.model m).slots
  | r => g.lacks r "properties"

/-- The primary key of the model that a reference leads to. -/
def primaryKeyOf : Reference → Except SchemaFault Reference
  | .model m => .ok (g.model m).primaryKey
  | r => g.lacks r "primary_key"

/-- An attribute of the property that a reference leads to. -/
def ofProperty {α : Type} (asked : String) (f : Property → α) :
    Reference → Except SchemaFault α
  | .property p => .ok (f (g.property p))
  | r => g.lacks r asked

theorem namesOf_eq_ok {rs : List Reference} {f : Reference → String}
    (h : ∀ r ∈ rs, g.nameOf r = .ok (f r)) : g.namesOf rs = .ok (rs.map f) := by
  induction rs with
  | nil => rfl
  | cons r rs ih =>
    have hr := h r (by simp)
    have hrs := ih fun r hr => h r (by simp [hr])
    rw [namesOf] at hrs ⊢
    rw [List.mapM_cons, hr, hrs]
    rfl

end Graph

end MobileSchema
