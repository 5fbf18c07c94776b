import MobileSchema.Template.Object
import MobileSchema.Template.Tree
import MobileSchema.Text.Compatibility

/-!
# Scopes

What the names of a template stand for.  A template, the body of a loop, of a function, of a block
and of all that captures text have a scope of their own each, inside the one that they are in; a
branch has none.  A name that a scope gives a value to belongs to the whole scope: unless an outer
scope knows it, or the scope mentions it before, or the value depends on a condition, it stands for
nothing until then, even if it had a meaning outside the template.

Names that differ in their characters, but not in what these characters stand for, stand for the
same if they belong to the same scope.
-/

namespace MobileSchema.Template

/-! ### Looking up -/

/-- What names stand for. -/
structure Scope where
  /-- the first entry of a name counts, and it can say that the name stands for nothing yet -/
  entries : List (String × Option Object) := []
  /-- the names that stand for the same, whatever they are given -/
  groups : List (List String) := []
  /-- the text of the body that a filter stands behind -/
  captured : Object := .none
  /-- where the functions that the scope defines look for it -/
  place : Option Nat := none
  /-- the rendering of a template that the scope belongs to -/
  rendering : Nat := 0
  /-- whether its names can be brought into other templates -/
  isOutermost : Bool := false
  /-- whether its outputs are left out as soon as the template extends another -/
  yields : Bool := false

namespace Scope

/-- The names that stand for the same as a name. -/
def sharing (scope : Scope) (name : String) : List String :=
  (scope.groups.find? (·.contains name)).getD [name]

/-- The scope with a name, and all that stand for the same, that stand for an object or nothing. -/
def give (scope : Scope) (name : String) (o : Option Object) : Scope :=
  { scope with entries := (scope.sharing name).map (·, o) ++ scope.entries }

/-- The scope with a name that stands for an object. -/
def put (scope : Scope) (name : String) (o : Object) : Scope := scope.give name (some o)

/-- The scope with names that stand for nothing yet. -/
def hide (scope : Scope) (names : List String) : Scope :=
  { scope with entries := names.map (·, none) ++ scope.entries }

/-- What a name stands for, if it stands for something. -/
def find? (scope : Scope) (name : String) : Option Object := (scope.entries.lookup name).bind id

/-- What a name stands for. -/
def find (scope : Scope) (name : String) : Object :=
  (scope.find? name).getD (.undefined (.name name))

/-- What the names of a scope stand for as another template sees it: names that stand for nothing
yet keep their outer meaning. -/
def visible (scope : Scope) : List (String × Object) :=
  scope.entries.filterMap fun (name, o) => o.map (name, ·)

/-- The scope of a rendering in which some names stand for something. -/
def ofNames (rendering : Nat) (names : List (String × Object)) : Scope :=
  { entries := names.map fun (name, o) => (name, some o), rendering }

theorem find_put_self (scope : Scope) (name : String) (o : Object)
    (h : scope.groups = []) : (scope.put name o).find name = o := by
  simp [put, give, sharing, find, find?, h]

theorem find_put_of_ne (scope : Scope) {name other : String} (h : other ≠ name) (o : Object)
    (hg : scope.groups = []) : (scope.put name o).find other = scope.find other := by
  have : (other == name) = false := by simp [h]
  simp [put, give, sharing, find, find?, hg, List.lookup_cons, this]

end Scope

/-! ### The names of a scope -/

mutual

/-- The names that a statement mentions or gives values to in the scope that it is in. -/
def Statement.scopeNames : Statement → List String
  | .text _ | .block .. | .escaping .. => []
  | .output e => e.names
  | .branch condition body orElse =>
    condition.names ++ scopeNamesOfAll body ++ scopeNamesOfAll orElse
  | .loop _ source .. => source.names
  | .assign target value => value.names ++ target.names ++ target.changed
  | .capture target .. => target.names ++ target.changed
  | .within _ values _ => Expr.namesOfAll values
  | .filtered filter _ => filter.names
  | .define name .. => [name]
  | .callWith call .. => call.names
  | .embed template .. | .extend template => template.names
  | .bring template name _ => template.names ++ [name]
  | .bringNames template names .. => template.names ++ names.map (·.2)

/-- The names that statements mention or give values to in the scope that they are in. -/
def Statement.scopeNamesOfAll : List Statement → List String
  | [] => []
  | s :: ss => s.scopeNames ++ scopeNamesOfAll ss

end

/-- The names that a statement gives values to unconditionally in the scope that it is in, and those
that it mentions before. -/
def Statement.settled : Statement → List String × List String
  | .assign target value => (target.names, value.names ++ target.changed)
  | .capture target .. => (target.names, target.changed)
  | .define name .. => ([name], [])
  | .bring template name _ => ([name], template.names)
  | .bringNames template names .. => (names.map (·.2), template.names)
  | s => ([], s.scopeNames)

mutual

/-- The names that a statement gives values to in the scope that it is in. -/
def Statement.givenNames : Statement → List String
  | .branch _ body orElse => givenNamesOfAll body ++ givenNamesOfAll orElse
  | .assign target _ | .capture target .. => target.names
  | .define name .. | .bring _ name _ => [name]
  | .bringNames _ names .. => names.map (·.2)
  | _ => []

/-- The names that statements give values to in the scope that they are in. -/
def Statement.givenNamesOfAll : List Statement → List String
  | [] => []
  | s :: ss => s.givenNames ++ givenNamesOfAll ss

end

/-- The names that stand for nothing at the start of a scope, if some names are known there. -/
def Statement.hiddenNames (known : List String) : List Statement → List String
  | [] => []
  | s :: ss =>
    let (given, mentioned) := s.settled
    let fresh := given.filter fun name => !(known ++ mentioned).contains name
    fresh ++ hiddenNames (known ++ mentioned ++ given) ss

/-! ### Entering a scope -/

/-- The names that belong to a scope. -/
structure Frame where
  /-- the names that the scope is entered with -/
  entered : List String
  /-- the names that stand for nothing at the start -/
  hidden : List String
  /-- the names that stand for the same -/
  groups : List (List String)

namespace Frame

/-- The groups of two or more names that are written by the same characters in the end. -/
def groupsOf (names : List String) : List (List String) :=
  let names := (names.filter fun name => !name.toList.all (·.toNat < 128) ||
    names.any fun other => !other.toList.all (·.toNat < 128)).eraseDups
  let forms := (names.map compatibilityForm).eraseDups
  (forms.map fun form => names.filter fun name => compatibilityForm name = form).filter
    fun group => 1 < group.length

/-- The names that belong to the scope of statements, which is entered with some names. -/
def of (known entered : List String) (body : List Statement) : Frame :=
  let given := Statement.givenNamesOfAll body
  let own := (Statement.scopeNamesOfAll body).filter fun name =>
    !(known ++ entered).contains name || given.contains name
  { entered
    hidden := Statement.hiddenNames (known ++ entered) body
    groups := groupsOf (entered ++ own) }

/-- The scope in which the names that it is entered with are given their values. -/
def before (frame : Frame) (scope : Scope) : Scope :=
  { scope.hide frame.hidden with groups := frame.groups, place := none, isOutermost := false }

/-- The scope behind that.  Names that stand for the same start with what the last of them stands
for outside, or with nothing, unless the scope is entered with all of them. -/
def behind (frame : Frame) (outer scope : Scope) : Scope :=
  frame.groups.foldl (fun scope group =>
    match (group.filter fun name => !frame.entered.contains name).reverse with
    | [] => scope
    | name :: others =>
      let isHidden := (name :: others).any frame.hidden.contains
      scope.give name (if isHidden then none else outer.find? name)) scope

/-- The scope of statements that is entered without names. -/
def inside (frame : Frame) (scope : Scope) : Scope := frame.behind scope (frame.before scope)

end Frame

end MobileSchema.Template
