import MobileSchema.Text.Character

/-!
# The tree of a template

What a template is once its tags are read: statements that yield text, and the expressions in them.
-/

namespace MobileSchema.Template

/-! ### Expressions -/

/-- An operation on two numbers, which some texts and lists know too. -/
inductive Operation
  | add | subtract | multiply | divide | floorDivide | remainder | power
  deriving DecidableEq, Repr

/-- How two things are compared. -/
inductive Comparison
  | equal | unequal | less | lessOrEqual | greater | greaterOrEqual | within | notWithin
  deriving DecidableEq, Repr

/-- An expression.  In a call, what is given by name stands behind what is given by place. -/
inductive Expr
  | text (s : String)
  /-- a text with halves of surrogate pairs in it, by the numbers of its characters -/
  | halved (codes : List Nat)
  /-- a text that is safe in a page -/
  | markup (s : String)
  | number (n : Int)
  | fraction (x : Float)
  | bool (b : Bool)
  | none
  | list (items : List Expr)
  | tuple (items : List Expr)
  /-- keys with their values -/
  | dict (entries : List (Expr × Expr))
  /-- the numbers of a span, which only a constant comes to -/
  | span (start stop step : Int)
  | name (s : String)
  /-- the text of a body that a filter stands behind -/
  | captured
  | member (object : Expr) (name : String)
  | item (object key : Expr)
  | slice (object start stop step : Expr)
  | call (function : Expr) (arguments : List Expr) (names : List String) (named : List Expr)
  | filter (input : Expr) (name : String) (arguments : List Expr) (names : List String)
      (named : List Expr)
  | test (subject : Expr) (name : String) (arguments : List Expr) (names : List String)
      (named : List Expr)
  /-- the items of an object as so many arguments by place -/
  | spread (e : Expr)
  /-- the entries of a table as so many arguments by name -/
  | spreadEntries (e : Expr)
  | not (e : Expr)
  | negate (e : Expr)
  | plus (e : Expr)
  | or (left right : Expr)
  | and (left right : Expr)
  | binary (operation : Operation) (left right : Expr)
  | compare (first : Expr) (comparisons : List Comparison) (others : List Expr)
  | choose (condition whenTrue whenFalse : Expr)
  /-- a choice that offers nothing else, on a line -/
  | chooseOnly (condition whenTrue : Expr) (line : Nat)
  | concat (parts : List Expr)
  /-- an expression, which mentions names, with the constant that it always comes to -/
  | settled (e value : Expr)
  deriving Repr

/-- The text of characters that are given by their numbers. -/
def Expr.ofCodes (codes : List Nat) : Expr := (textOfCodes? codes).elim (.halved codes) .text

/-- What a value is given to: a name, or names among which its items are shared out. -/
inductive Target
  | name (s : String)
  /-- what the object of a name has under another name -/
  | member (object name : String)
  | tuple (targets : List Target)
  deriving Repr

/-! ### Statements -/

/-- A statement. -/
inductive Statement
  | text (s : String)
  | output (e : Expr)
  | branch (condition : Expr) (body orElse : List Statement)
  /-- the body once for each item that meets the condition, or else `orElse` if there are none; a
  recursive loop can be called for the items of other objects -/
  | loop (target : Target) (source condition : Expr) (recursive : Bool)
      (body orElse : List Statement)
  | assign (target : Target) (value : Expr)
  /-- the text of a body, behind a filter, under a name -/
  | capture (target : Target) (filter : Expr) (body : List Statement)
  /-- a body in which targets stand for values -/
  | within (targets : List Target) (values : List Expr) (body : List Statement)
  /-- the text of a body behind a filter -/
  | filtered (filter : Expr) (body : List Statement)
  /-- a body that can be called under a name; the last parameters have values for the case that they
  are not given -/
  | define (name : String) (parameters : List String) (defaults : List Expr)
      (body : List Statement)
  /-- a call that is given a body, which it can call in its turn -/
  | callWith (call : Expr) (parameters : List String) (defaults : List Expr)
      (body : List Statement)
  | embed (template : Expr) (missingAllowed withNames : Bool)
  /-- what another template defines, under a name -/
  | bring (template : Expr) (name : String) (withNames : Bool)
  /-- what another template defines under some names, under other names; on a line -/
  | bringNames (template : Expr) (names : List (String × String)) (withNames : Bool) (line : Nat)
  /-- a part that templates which extend this one can replace -/
  | block (name : String) (seesNames required : Bool) (body : List Statement)
  /-- the template that this one extends -/
  | extend (template : Expr)
  /-- a body whose outputs are made safe for a page, or are not -/
  | escaping (value : Expr) (body : List Statement)
  deriving Repr

/-! ### Targets -/

mutual

/-- The names that a target gives values to. -/
def Target.names : Target → List String
  | .name s => [s]
  | .member .. => []
  | .tuple targets => namesOfAll targets

/-- The names that targets give values to. -/
def Target.namesOfAll : List Target → List String
  | [] => []
  | t :: ts => t.names ++ namesOfAll ts

end

mutual

/-- The names of the objects that a target changes. -/
def Target.changed : Target → List String
  | .name _ => []
  | .member object _ => [object]
  | .tuple targets => changedInAll targets

/-- The names of the objects that targets change. -/
def Target.changedInAll : List Target → List String
  | [] => []
  | t :: ts => t.changed ++ changedInAll ts

end

/-! ### Names -/

mutual

/-- The names that an expression mentions, in order. -/
def Expr.names : Expr → List String
  | .text _ | .halved _ | .markup _ | .number _ | .fraction _ | .bool _ | .none | .span ..
  | .captured => []
  | .list items | .tuple items | .concat items => namesOfAll items
  | .dict entries => namesOfEntries entries
  | .name s => [s]
  | .member object _ => object.names
  | .item object key => object.names ++ key.names
  | .slice object start stop step => object.names ++ start.names ++ stop.names ++ step.names
  | .call e arguments _ named | .filter e _ arguments _ named | .test e _ arguments _ named =>
    e.names ++ namesOfAll arguments ++ namesOfAll named
  | .spread e | .spreadEntries e | .not e | .negate e | .plus e | .settled e _ => e.names
  | .or left right | .and left right | .binary _ left right => left.names ++ right.names
  | .compare first _ others => first.names ++ namesOfAll others
  | .choose condition whenTrue whenFalse =>
    condition.names ++ whenTrue.names ++ whenFalse.names
  | .chooseOnly condition whenTrue _ => condition.names ++ whenTrue.names

/-- The names that expressions mention, in order. -/
def Expr.namesOfAll : List Expr → List String
  | [] => []
  | e :: es => e.names ++ namesOfAll es

/-- The names that the entries of a table mention, in order. -/
def Expr.namesOfEntries : List (Expr × Expr) → List String
  | [] => []
  | (key, value) :: entries => key.names ++ value.names ++ namesOfEntries entries

end

/-- A name in a template, where it is looked up or given a value. -/
inductive Occurrence
  | lookup (name : String)
  | gift (name : String)
  deriving DecidableEq, Repr

/-- The occurrences of names that are looked up. -/
def lookups (names : List String) : List Occurrence := names.map .lookup

/-- The occurrences of names that are given values. -/
def gifts (names : List String) : List Occurrence := names.map .gift

mutual

/-- The occurrences of names in a statement, in all its parts but blocks. -/
def Statement.occurrences : Statement → List Occurrence
  | .text _ | .block .. => []
  | .output e => lookups e.names
  | .branch condition body orElse =>
    lookups condition.names ++ occurrencesInAll body ++ occurrencesInAll orElse
  | .loop target source condition _ body orElse =>
    gifts target.names ++ lookups source.names ++ occurrencesInAll body ++
      occurrencesInAll orElse ++ lookups condition.names
  | .assign target value => gifts target.names ++ lookups value.names
  | .capture target filter body =>
    gifts target.names ++ lookups filter.names ++ occurrencesInAll body
  | .within targets values body =>
    gifts (Target.namesOfAll targets) ++ lookups (Expr.namesOfAll values) ++ occurrencesInAll body
  | .filtered filter body => occurrencesInAll body ++ lookups filter.names
  | .define _ parameters defaults body =>
    gifts parameters ++ lookups (Expr.namesOfAll defaults) ++ occurrencesInAll body
  | .callWith call parameters defaults body =>
    lookups call.names ++ gifts parameters ++ lookups (Expr.namesOfAll defaults) ++
      occurrencesInAll body
  | .embed template .. | .bring template .. | .bringNames template .. | .extend template =>
    lookups template.names
  | .escaping value body => lookups value.names ++ occurrencesInAll body

/-- The occurrences of names in statements, in all their parts but blocks. -/
def Statement.occurrencesInAll : List Statement → List Occurrence
  | [] => []
  | s :: ss => s.occurrences ++ occurrencesInAll ss

end

/-- Whether statements look up a name before they give it a value. -/
def Statement.lookUp (statements : List Statement) (name : String) : Bool :=
  (occurrencesInAll statements).find? (fun o => o = .lookup name || o = .gift name)
    = some (.lookup name)

mutual

/-- The names that a statement gives values to, in all its parts. -/
def Statement.assigned : Statement → List String
  | .text _ | .output _ | .embed .. | .bring .. | .bringNames .. | .extend .. => []
  | .branch _ body orElse => assignedInAll body ++ assignedInAll orElse
  | .loop target _ _ _ body orElse => target.names ++ assignedInAll body ++ assignedInAll orElse
  | .assign target _ => target.names
  | .capture target _ body => target.names ++ assignedInAll body
  | .within _ _ body | .filtered _ body | .define _ _ _ body | .callWith _ _ _ body
  | .block _ _ _ body | .escaping _ body => assignedInAll body

/-- The names that statements give values to, in all their parts. -/
def Statement.assignedInAll : List Statement → List String
  | [] => []
  | s :: ss => s.assigned ++ assignedInAll ss

end

/-! ### Blocks -/

mutual

/-- The blocks in a statement, in all its parts: the name of each, whether it sees the names around
it, and its body. -/
def Statement.blocks : Statement → List (String × Bool × List Statement)
  | .block name seesNames _ body => (name, seesNames, body) :: blocksInAll body
  | .branch _ body orElse | .loop _ _ _ _ body orElse => blocksInAll body ++ blocksInAll orElse
  | .capture _ _ body | .within _ _ body | .filtered _ body | .define _ _ _ body
  | .callWith _ _ _ body | .escaping _ body => blocksInAll body
  | .text _ | .output _ | .assign .. | .embed .. | .bring .. | .bringNames .. | .extend .. => []

/-- The blocks in statements, in all their parts. -/
def Statement.blocksInAll : List Statement → List (String × Bool × List Statement)
  | [] => []
  | s :: ss => s.blocks ++ blocksInAll ss

end

mutual

/-- Whether a statement, or one inside it, extends a template. -/
def Statement.extends? : Statement → Bool
  | .extend _ => true
  | .block _ _ _ body | .capture _ _ body | .within _ _ body | .filtered _ body
  | .define _ _ _ body | .callWith _ _ _ body | .escaping _ body => anyExtends body
  | .branch _ body orElse | .loop _ _ _ _ body orElse => anyExtends body || anyExtends orElse
  | .text _ | .output _ | .assign .. | .embed .. | .bring .. | .bringNames .. => false

/-- Whether one of some statements, or one inside them, extends a template. -/
def Statement.anyExtends : List Statement → Bool
  | [] => false
  | s :: ss => s.extends? || anyExtends ss

end

end MobileSchema.Template
