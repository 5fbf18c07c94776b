import MobileSchema.Template.Filter.Layout
import MobileSchema.Template.Filter.Number
import MobileSchema.Template.Filter.Sequence
import MobileSchema.Template.Filter.Text
import MobileSchema.Template.Test

/-!
# Filters and tests by name

The filters and tests that templates can use without offering any.  A filter of the table of text
functions comes before those here.

Some filters apply others, which an object names, so the work of filters has a bound on its depth.
-/

namespace MobileSchema.Template

/-- The filters that are there without a table of text functions. -/
def filters : List (String × Filter) :=
  textFilters ++ numberFilters ++ sequenceFilters ++ layoutFilters

/-- A text function as a filter. -/
def TextFunction.filter (f : TextFunction) : Filter :=
  .free f.call fun _ o given => callFunction f { given with places := o :: given.places }

/-- The filter of a name. -/
def filter? (table : FunctionTable) (name : String) : Option Filter :=
  ((table.find? name).map TextFunction.filter) <|> filters.lookup name

/-- The test of a name. -/
def test? (name : String) : Option Filter := tests.lookup name

/-- Whether there is a filter of a name. -/
def hasFilter (table : FunctionTable) (name : String) : Bool := (filter? table name).isSome

/-- Whether there is a test of a name. -/
def hasTest (name : String) : Bool := (test? name).isSome

/-- What an object names, if it is a name of something. -/
def namedBy? (named? : String → Option Filter) (name : Object) : Act (Option Filter) := do
  checkKey name
  return name.text?.bind named?

/-- What an object names among filters or tests. -/
def namedBy (sort : String) (named? : String → Option Filter) (name : Object) : Act Filter := do
  match ← namedBy? named? name, name with
  | some filter, _ => return filter
  | none, .undefined cause => throw (.noSuch sort (← shownOf name) (some cause))
  | none, name => throw (.noSuch sort (← shownOf name) none)

/-- What filters and tests need of the place where they stand, at a bound on the depth of their
work. -/
def deskAt (table : FunctionTable) (escapes isLiteral : Bool) : Nat → Desk
  | 0 => {
    escapes, isLiteral
    filter := fun _ _ _ => throw .endless
    test := fun _ _ _ => throw .endless
    hasFilter := fun _ => throw .endless
    hasTest := fun _ => throw .endless }
  | depth + 1 =>
    let below := deskAt table escapes isLiteral depth
    { escapes, isLiteral
      filter := fun name o given => do
        (← namedBy "filter" (filter? table) name).apply below o given
      test := fun name o given => do (← namedBy "test" test? name).apply below o given
      hasFilter := fun name => do return (← namedBy? (filter? table) name).isSome
      hasTest := fun name => do return (← namedBy? test? name).isSome }

/-- What filters and tests need of the place where they stand. -/
def deskOf (table : FunctionTable) (escapes isLiteral : Bool) : Desk :=
  deskAt table escapes isLiteral holdingLimit

/-- What the filter of a name makes of an object. -/
def applyFilter (table : FunctionTable) (desk : Desk) (name : String) (o : Object) (given : Given) :
    Act Object :=
  match filter? table name with
  | some filter => filter.apply desk o given
  | none => throw (.missingFilter name)

/-- What the test of a name says about an object. -/
def applyTest (desk : Desk) (name : String) (o : Object) (given : Given) : Act Object :=
  match test? name with
  | some test => test.apply desk o given
  | none => throw (.missingTest name)

end MobileSchema.Template
