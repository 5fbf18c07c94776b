import MobileSchema.Proofs.Source.Lines
import MobileSchema.Template.Bundled
import MobileSchema.Template.Reading

/-!
# The trees of the bundled templates

What the bundled templates are once they are read.  White space around tags matters in two places
only: a line break behind a tag is text unless it is trimmed, and so is the last one of a template
if it is kept.  So the trees have two parameters, `Whitespace.gap` and `Whitespace.rest`.

A bundled template is a text that does not change, so reading it is a computation.  Trees are
compared by `Statement.same`, which knows the statements and expressions that the bundled templates
are made of; `Statement.eq_of_same` says that what it accepts is equal.  Main result:
`treeOfSource_bundled`.
-/

namespace MobileSchema.Template

/-! ### Trees that are the same -/

mutual

/-- Whether two expressions are the same texts, truth values, attributes, calls and choices. -/
def Expr.same : Expr → Expr → Bool
  | .text s, .text t => s = t
  | .bool a, .bool b => a = b
  | .name s, .name t => s = t
  | .member e s, .member f t => e.same f && s = t
  | .call e es names named, .call f fs others values =>
    e.same f && sameAll es fs && names = others && sameAll named values
  | .choose e a b, .choose f c d => e.same f && a.same c && b.same d
  | _, _ => false

/-- Whether two lists hold the same expressions. -/
def Expr.sameAll : List Expr → List Expr → Bool
  | [], [] => true
  | e :: es, f :: fs => e.same f && sameAll es fs
  | _, _ => false

end

/-- Expressions that are the same are equal, and so are lists of them. -/
theorem Expr.eq_of_same :
    (∀ e f : Expr, e.same f → e = f) ∧ ∀ es fs : List Expr, Expr.sameAll es fs → es = fs := by
  apply Expr.same.mutual_induct
  case case1 => -- texts
    intro s t h
    rw [of_decide_eq_true h]
  case case2 => -- truth values
    intro a b h
    rw [of_decide_eq_true h]
  case case3 => -- names
    intro s t h
    rw [of_decide_eq_true h]
  case case4 => -- attributes
    intro e s f t he h
    rw [same, Bool.and_eq_true, decide_eq_true_eq] at h
    rw [he h.1, h.2]
  case case5 => -- calls
    intro e es names named f fs others values he hes hnamed h
    simp only [same, Bool.and_eq_true, decide_eq_true_eq] at h
    rw [he h.1.1.1, hes h.1.1.2, h.1.2, hnamed h.2]
  case case6 => -- choices
    intro e a b f c d he ha hb h
    simp only [same, Bool.and_eq_true] at h
    rw [he h.1.1, ha h.1.2, hb h.2]
  case case8 => -- no expressions
    exact fun _ => rfl
  case case9 => -- one expression and more
    intro e es f fs he hes h
    rw [sameAll, Bool.and_eq_true] at h
    rw [he h.1, hes h.2]
  -- what is of different forms is not the same
  case case7 =>
    intro e f _ _ _ _ _ _ h
    rw [same] at h
    · cases h
    all_goals assumption
  case case10 =>
    intro es fs _ _ h
    rw [sameAll] at h
    · cases h
    all_goals assumption

mutual

/-- Whether two statements are the same texts, outputs, branches and loops over one name. -/
def Statement.same : Statement → Statement → Bool
  | .text s, .text t => s = t
  | .output e, .output f => e.same f
  | .branch e body orElse, .branch f other otherElse =>
    e.same f && sameAll body other && sameAll orElse otherElse
  | .loop (.name s) source e recursive body orElse,
      .loop (.name t) otherSource f otherRecursive other otherElse =>
    s = t && source.same otherSource && e.same f && recursive = otherRecursive &&
      sameAll body other && sameAll orElse otherElse
  | _, _ => false

/-- Whether two lists hold the same statements. -/
def Statement.sameAll : List Statement → List Statement → Bool
  | [], [] => true
  | s :: ss, t :: ts => s.same t && sameAll ss ts
  | _, _ => false

end

/-- Statements that are the same are equal, and so are lists of them. -/
theorem Statement.eq_of_same : (∀ s t : Statement, s.same t → s = t) ∧
    ∀ ss ts : List Statement, Statement.sameAll ss ts → ss = ts := by
  apply Statement.same.mutual_induct
  case case1 => -- texts
    intro s t h
    rw [of_decide_eq_true h]
  case case2 => -- outputs
    intro e f h
    rw [Expr.eq_of_same.1 e f h]
  case case3 => -- branches
    intro e body orElse f other otherElse hbody horElse h
    simp only [same, Bool.and_eq_true] at h
    rw [Expr.eq_of_same.1 e f h.1.1, hbody h.1.2, horElse h.2]
  case case4 => -- loops over one name
    intro s source e recursive body orElse t otherSource f otherRecursive other otherElse hbody
      horElse h
    simp only [same, Bool.and_eq_true, decide_eq_true_eq] at h
    obtain ⟨⟨⟨⟨⟨hname, hsource⟩, hcondition⟩, hrecursive⟩, hother⟩, hotherElse⟩ := h
    rw [hname, Expr.eq_of_same.1 source otherSource hsource, Expr.eq_of_same.1 e f hcondition,
      hrecursive, hbody hother, horElse hotherElse]
  case case6 => -- no statements
    exact fun _ => rfl
  case case7 => -- one statement and more
    intro s ss t ts hs hss h
    rw [sameAll, Bool.and_eq_true] at h
    rw [hs h.1, hss h.2]
  -- what is of different forms is not the same
  case case5 =>
    intro s t _ _ _ _ h
    rw [same] at h
    · cases h
    all_goals assumption
  case case8 =>
    intro ss ts _ _ h
    rw [sameAll] at h
    · cases h
    all_goals assumption

/-! ### Parts of trees -/

/-- The lines that a line break behind a tag leaves. -/
def Whitespace.gap (rules : Whitespace) : List String := if rules.trimBlocks then [] else [""]

theorem Whitespace.gap_cases (rules : Whitespace) : rules.gap = [] ∨ rules.gap = [""] := by
  rw [gap]
  split <;> simp

/-- The lines that the last line break of a template leaves, which stands behind a tag. -/
def Whitespace.rest (rules : Whitespace) : List String :=
  if rules.keepTrailingNewline then rules.gap else []

/-- The statements that write lines. -/
def writing (lines : List String) : List Statement :=
  if lines = [] then [] else [.text (textOfLines lines)]

/-- A loop over the items of an object. -/
def loopOver (name : String) (source : Expr) (body : List Statement) : Statement :=
  .loop (.name name) source (.bool true) false body []

/-- An attribute of the schema. -/
def ofSchema (name : String) : Expr := .member (.name "schema") name

/-- An attribute of the model of a loop. -/
def ofModel (name : String) : Expr := .member (.name "model") name

/-- The declaration of the property of a loop on a platform. -/
def declaredOn (platform : String) : Expr :=
  .member (.call (.member (.name "property") "rendered_declaration") [] [] []) platform

section Trees

variable (gap rest : List String)

/-- A line under a condition. -/
def lineIf (condition : Expr) (line : String) : Statement :=
  .branch condition [.text (textOfLines (gap ++ [line]))] []

/-- A line that shows a text, if there is one. -/
def lineShowing (e : Expr) (before : String) : Statement :=
  .branch e [.text (textOfLines gap ++ before), .output e, .text "\n"] []

/-! ### Swift -/

/-- What the template for Swift writes for a property. -/
def swiftProperty : List Statement :=
  [.text (textOfLines gap ++ "    "), .output (declaredOn "ios"), .text "\n"]

/-- What the template for Swift writes for the name of an indexed property, with its comma. -/
def swiftIndexed : List Statement := [
  .text "\"", .output (.member (.name "pair") "data"), .text "\"",
  .branch (.member (.name "pair") "comma")
    [.output (.member (.name "pair") "comma"), .text " "] []]

/-- What the template for Swift writes for a primary key. -/
def swiftKey : List Statement := [
  .text (textOfLines (gap ++ ["", "    override static func primaryKey() -> String? \x7b"]) ++
    "        return \""),
  .output (.member (ofModel "primary_key") "name"),
  .text (textOfLines ["\"", "    \x7d"])]

/-- What the template for Swift writes for all indexed properties of a model. -/
def swiftIndex : List Statement := [
  .text (textOfLines (gap ++
    ["", "    override static func indexedProperties() -> [String] \x7b"]) ++ "        return ["),
  loopOver "pair" (ofModel "indexed_property_and_comma") swiftIndexed,
  .text (textOfLines ["]", "    \x7d"])]

/-- What the template for Swift writes for a model. -/
def swiftModel : List Statement :=
  [.text (textOfLines (gap ++ [""]) ++ "class "), .output (ofModel "name"),
    .text (textOfLines [": Object \x7b"]),
    loopOver "property" (ofModel "properties") (swiftProperty gap)] ++
  writing gap ++ [.branch (ofModel "primary_key") (swiftKey gap) []] ++
  writing gap ++ [.branch (ofModel "has_indexed_properties") (swiftIndex gap) [],
    .text (textOfLines (gap ++ ["\x7d"]))]

/-- The template for Swift. -/
def swiftTree : List Statement :=
  [.text (textOfLines ["//", "// Generated by realmgen. Do not edit."]),
    lineShowing gap (ofSchema "module_name") "// Module: ",
    .text (textOfLines (gap ++ ["//", "", "import Foundation", "import RealmSwift"])),
    loopOver "model" (ofSchema "models") (swiftModel gap)] ++
  writing rest

/-! ### Kotlin -/

/-- What the template for Kotlin writes for a property. -/
def kotlinProperty : List Statement := [
  .text (textOfLines gap ++ "    "),
  .output (.choose (.member (.name "property") "indexed") (.text "@Index ") (.text "")),
  .output (declaredOn "android"), .text "\n"]

/-- What the template for Kotlin writes for a model. -/
def kotlinModel : List Statement := [
  .text (textOfLines (gap ++ [""]) ++ "open class "), .output (ofModel "name"),
  .text (textOfLines [" : RealmObject() \x7b"]),
  loopOver "property" (ofModel "properties") (kotlinProperty gap),
  .text (textOfLines (gap ++ ["\x7d"]))]

/-- What the template for Kotlin writes up to the import for backlinks. -/
def kotlinHead : List Statement := [
  .text (textOfLines ["// Generated by realmgen. Do not edit."]),
  lineShowing gap (ofSchema "package_name") "package ",
  .text (textOfLines (gap ++ [""])),
  lineIf gap (ofSchema "has_list_relations") "import io.realm.RealmList",
  .text (textOfLines (gap ++ ["import io.realm.RealmObject"])),
  lineIf gap (ofSchema "has_linking_objects") "import io.realm.RealmResults"]

/-- The template for Kotlin. -/
def kotlinTree : List Statement :=
  kotlinHead gap ++ writing gap ++
  [lineIf gap (ofSchema "has_indexed_properties") "import io.realm.annotations.Index"] ++
  writing gap ++
  [lineIf gap (ofSchema "has_linking_objects") "import io.realm.annotations.LinkingObjects"] ++
  writing gap ++
  [lineIf gap (ofSchema "has_primary_keys") "import io.realm.annotations.PrimaryKey"] ++
  writing gap ++
  [lineIf gap (.call (ofSchema "uses_kind") [.member (.name "field_kind") "DATE"] [] [])
    "import java.util.Date"] ++
  writing gap ++ [loopOver "model" (ofSchema "models") (kotlinModel gap)] ++ writing rest

/-- The template of a language. -/
def bundledTree : Language → List Statement
  | .swift => swiftTree gap rest
  | .kotlin => kotlinTree gap rest

end Trees

/-! ### Reading -/

/-- To read a template it is enough to compare what is read with the tree. -/
theorem treeOfSource_eq_ok {rules : Whitespace} {cs : List Char} {tree : List Statement}
    (h : (treeOfSource rules cs).toOption.any (Statement.sameAll · tree)) :
    treeOfSource rules cs = .ok tree := by
  rcases hread : treeOfSource rules cs with fault | statements
  · rw [hread] at h
    cases h
  · rw [hread] at h
    rw [Statement.eq_of_same.2 statements tree h]

/-- The bundled templates are read as their trees. -/
theorem treeOfSource_bundled (rules : Whitespace) (language : Language) :
    treeOfSource rules (bundledSource language) =
      .ok (bundledTree rules.gap rules.rest language) := by
  apply treeOfSource_eq_ok
  obtain ⟨trim, strip, keep⟩ := rules
  cases language <;>
    simp only [bundledSource, ofLines, swiftLines, kotlinLines, statementTag, outputTag,
      List.flatMap_cons, List.flatMap_nil, List.append_assoc, List.cons_append, List.nil_append]
  all_goals
    -- the characters of a literal are written out here, since decoding it is most of the work
    repeat rw [String.toList_ofList]
    -- one computation for each way of treating white space
    revert trim strip keep
    decide +kernel

end MobileSchema.Template
