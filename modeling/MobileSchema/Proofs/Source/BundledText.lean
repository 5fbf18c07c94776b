import MobileSchema.Proofs.Template.Asking

/-!
# What the bundled templates write

The trees of the bundled templates, statement by statement, write the lines of the layout.  `Ready`
is what they start from; it is kept in the loops over models and properties.  Main result:
`writes_bundled`.
-/

namespace MobileSchema.Template

variable {context : Context} {base : State} {known : List String} {scope : Scope} {s : SchemaId}
  {m : ModelId} {p : PropertyId} {gap rest : List String}

/-! ### Where the templates start -/

/-- What the bundled templates need of their context, their scope and the graph. -/
structure Ready (context : Context) (base : State) (scope : Scope) (s : SchemaId) : Prop where
  safety : context.safety = {}
  yields : scope.yields = false
  schema : scope.find "schema" = .schema s
  kinds : scope.find "field_kind" = .kinds
  pointed : base.graph.WellPointed s
  declared : ∀ m ∈ base.graph.modelsOf s, ∀ p ∈ base.graph.listed m,
    base.graph.declarations p = .ok (base.graph.declared p)

/-- What the page needs is there inside a loop, unless the loop takes its names. -/
theorem Ready.inLoop (h : Ready context base scope s) {name : String} (hschema : "schema" ≠ name)
    (hkinds : "field_kind" ≠ name) (o : Object) : Ready context base (scope.inLoop name o) s where
  safety := h.safety
  yields := h.yields
  schema := (scope.find_inLoop_of_ne hschema o).trans h.schema
  kinds := (scope.find_inLoop_of_ne hkinds o).trans h.kinds
  pointed := h.pointed
  declared := h.declared

namespace Writes

theorem of_eq {ss : List Statement} {written text : String}
    (h : Writes context base known scope ss written) (heq : written = text) :
    Writes context base known scope ss text := heq ▸ h

end Writes

/-- A text that counts as there is written as it is. -/
theorem writes_ofText? (h : Ready context base scope s) {e : Expr} {text : Option String}
    (he : Comes base (e.value context scope) (.ofText? text)) (hset : (textIfAny text).isSome) :
    Writes context base known scope [.output e] ((textIfAny text).getD "") := by
  cases text with
  | none => cases hset
  | some written =>
    have hwritten : textIfAny (some written) = some written := by
      simpa [textIfAny] using hset
    rw [hwritten]
    exact .output h.safety h.yields he

/-! ### Properties -/

/-- The declaration of a property comes out in both languages. -/
theorem comes_declared (h : Ready context base scope s) (hm : m ∈ base.graph.modelsOf s)
    (hp : p ∈ base.graph.listed m) (hproperty : scope.find "property" = .property p) :
    Comes base ((declaredOn "ios").value context scope) (.text (base.graph.declared p).ios) ∧
    Comes base ((declaredOn "android").value context scope)
      (.text (base.graph.declared p).android) := by
  have hdeclared := h.declared m hm p hp
  exact ⟨(comes_rendered hproperty hdeclared).member (.pure _),
    (comes_rendered hproperty hdeclared).member (.pure _)⟩

/-- A property is written on one line in Swift. -/
theorem writes_swiftProperty (h : Ready context base scope s) (hm : m ∈ base.graph.modelsOf s)
    (hp : p ∈ base.graph.listed m) (hproperty : scope.find "property" = .property p) :
    Writes context base known scope (swiftProperty gap)
      (textOfLines (gap ++ ["    " ++ (base.graph.declared p).ios])) := by
  have hdeclared : Writes context base known scope [.output (declaredOn "ios")]
      (base.graph.declared p).ios :=
    .output h.safety h.yields (comes_declared h hm hp hproperty).1
  refine ((Writes.text h.yields _).append (hdeclared.append (.text h.yields _))).of_eq ?_
  simp [String.append_assoc]

theorem writes_kotlinProperty (h : Ready context base scope s) (hm : m ∈ base.graph.modelsOf s)
    (hp : p ∈ base.graph.listed m) (hproperty : scope.find "property" = .property p) :
    Writes context base known scope (kotlinProperty gap) (textOfLines (gap ++
      ["    " ++ ((if (base.graph.property p).indexed then indexMark else "") ++
        (base.graph.declared p).android)])) := by
  let mark := if (base.graph.property p).indexed then indexMark else ""
  -- the mark of an indexed property, and then its declaration
  have hindexed : Comes base ((Expr.choose (.member (.name "property") "indexed") (.text "@Index ")
      (.text "")).value context scope) (.text mark) := by
    rw [Expr.value]
    refine ((Comes.name hproperty).member comes_indexed).bind ?_
    refine (comes_truthOf_bool _).bind ?_
    show Comes base _ (Object.text (if (base.graph.property p).indexed then indexMark else ""))
    cases (base.graph.property p).indexed <;> exact .pure _
  have hmark : Writes context base known scope
      [.output (.choose (.member (.name "property") "indexed") (.text "@Index ") (.text ""))]
      mark :=
    .output h.safety h.yields hindexed
  have hdeclared : Writes context base known scope [.output (declaredOn "android")]
      (base.graph.declared p).android :=
    .output h.safety h.yields (comes_declared h hm hp hproperty).2
  refine ((Writes.text h.yields _).append
    (hmark.append (hdeclared.append (.text h.yields _)))).of_eq ?_
  simp [mark, String.append_assoc]

/-- The loop over the properties of a model. -/
theorem writes_properties (h : Ready context base scope s) (hm : m ∈ base.graph.modelsOf s)
    (hmodel : scope.find "model" = .model m) {body : List Statement}
    {lines : PropertyId → List String}
    (hplain : plainBody "property" body)
    (hbody : ∀ p ∈ base.graph.listed m, ∀ {known : List String} {scope : Scope},
      Ready context base scope s → scope.find "property" = .property p →
      Writes context base known scope body (textOfLines (lines p))) :
    Writes context base known scope [loopOver "property" (ofModel "properties") body]
      (textOfLines ((base.graph.listed m).flatMap lines)) := by
  rw [textOfLines_flatMap]
  refine .loop (comes_properties h.pointed hm hmodel) hplain ?_
  intro p hp
  exact hbody p hp (h.inLoop (by decide) (by decide) _) (scope.find_inLoop_self _ _)

/-- The loop over the models of a schema. -/
theorem writes_models (h : Ready context base scope s) {body : List Statement}
    {lines : ModelId → List String} (hplain : plainBody "model" body)
    (hbody : ∀ m ∈ base.graph.modelsOf s, ∀ {known : List String} {scope : Scope},
      Ready context base scope s → scope.find "model" = .model m →
      Writes context base known scope body (textOfLines (lines m))) :
    Writes context base known scope [loopOver "model" (ofSchema "models") body]
      (textOfLines ((base.graph.modelsOf s).flatMap lines)) := by
  rw [textOfLines_flatMap]
  refine .loop (comes_models h.pointed h.schema) hplain ?_
  intro m hm
  exact hbody m hm (h.inLoop (by decide) (by decide) _) (scope.find_inLoop_self _ _)

/-! ### Models in Kotlin -/

theorem comes_name (hmodel : scope.find "model" = .model m) :
    Comes base ((ofModel "name").value context scope) (.text (base.graph.modelName m)) :=
  (Comes.name hmodel).member comes_modelName

theorem plain_kotlinProperty (hgap : gap = [] ∨ gap = [""]) :
    plainBody "property" (kotlinProperty gap) := by
  rcases hgap with rfl | rfl <;> decide +kernel

theorem writes_kotlinModel (hgap : gap = [] ∨ gap = [""]) (h : Ready context base scope s)
    (hm : m ∈ base.graph.modelsOf s) (hmodel : scope.find "model" = .model m) :
    Writes context base known scope (kotlinModel gap)
      (textOfLines (gap ++ (base.graph.kotlinClass m).lines gap)) := by
  have hname : Writes context base known scope [.output (ofModel "name")]
      (base.graph.modelName m) :=
    .output h.safety h.yields (comes_name hmodel)
  have hproperties : Writes context base known scope
      [loopOver "property" (ofModel "properties") (kotlinProperty gap)] _ :=
    writes_properties h hm hmodel (plain_kotlinProperty hgap) fun p hp _ _ h hproperty =>
      writes_kotlinProperty h hm hp hproperty
  refine ((Writes.text h.yields _).append (hname.append ((Writes.text h.yields _).append
    (hproperties.append (.text h.yields _))))).of_eq ?_
  simp [KotlinClass.lines, Graph.kotlinClass, List.flatMap_map, String.append_assoc,
    -String.reduceAppend]

/-! ### Models in Swift -/

/-- The name of the primary key of a model is written only if there is one. -/
theorem writes_swiftKey (h : Ready context base scope s) (hm : m ∈ base.graph.modelsOf s)
    (hmodel : scope.find "model" = .model m) :
    Writes context base known scope [.branch (ofModel "primary_key") (swiftKey gap) []]
      (if (base.graph.keyName? m).isSome then textOfLines (gap ++ [
        "",
        "    override static func primaryKey() -> String? \x7b",
        "        return \"" ++ (base.graph.keyName? m).getD "" ++ "\"",
        "    \x7d"]) else "") := by
  -- the branch asks whether there is a key, and not what its name is
  have hcondition : (base.graph.keyName? m).isSome =
      decide ((base.graph.model m).primaryKey ≠ .nothing) := by
    rw [Graph.keyName?]
    split <;> simp [*]
  have hkey : Comes base ((ofModel "primary_key").value context scope)
      (.ofReference (base.graph.model m).primaryKey) :=
    (Comes.name hmodel).member comes_primaryKey
  rw [hcondition]
  refine .branch hkey (comes_truthOf_reference (h.pointed.key m hm)) ?_
  intro hset
  have hne : (base.graph.model m).primaryKey ≠ .nothing := of_decide_eq_true hset
  have hname : Writes context base known scope [.output (.member (ofModel "primary_key") "name")]
      (base.graph.nameAt (base.graph.model m).primaryKey) :=
    .output h.safety h.yields (hkey.member (comes_nameOf ((h.pointed.key m hm).resolve_left hne)))
  refine ((Writes.text h.yields _).append (hname.append (.text h.yields _))).of_eq ?_
  simp [Graph.keyName?, hne, String.append_assoc, -String.reduceAppend]

/-- The text that follows the name of an indexed property. -/
def commaText (comma : Option String) : String :=
  if (textIfAny comma).isSome then (textIfAny comma).getD "" ++ " " else ""

/-- The name of an indexed property is written in quotation marks, and behind it its comma. -/
theorem writes_swiftIndexed (h : Ready context base scope s) {item : WithComma String}
    (hpair : scope.find "pair" = namedItem item) :
    Writes context base known scope swiftIndexed
      ("\"" ++ item.data ++ "\"" ++ commaText item.comma) := by
  have hdata : Comes base ((Expr.member (.name "pair") "data").value context scope)
      (.text item.data) :=
    (Comes.name hpair).member (.pure _)
  have hcomma : Comes base ((Expr.member (.name "pair") "comma").value context scope)
      (.ofText? item.comma) :=
    (Comes.name hpair).member (.pure _)
  have hname : Writes context base known scope [.output (.member (.name "pair") "data")]
      item.data :=
    .output h.safety h.yields hdata
  have hmark : Writes context base known scope
      [.branch (.member (.name "pair") "comma")
        [.output (.member (.name "pair") "comma"), .text " "] []] (commaText item.comma) :=
    .branch hcomma (comes_truthOf_ofText? _) fun hset =>
      (writes_ofText? h hcomma hset).append (.text h.yields " ")
  refine ((Writes.text h.yields _).append (hname.append
    ((Writes.text h.yields _).append hmark))).of_eq ?_
  simp [String.append_assoc]

theorem plain_swiftIndexed : plainBody "pair" swiftIndexed := by decide +kernel

/-- The names of the indexed properties are written if there are any. -/
theorem writes_swiftIndex (h : Ready context base scope s) (hm : m ∈ base.graph.modelsOf s)
    (hmodel : scope.find "model" = .model m) :
    Writes context base known scope [.branch (ofModel "has_indexed_properties") (swiftIndex gap) []]
      (if (base.graph.indexedIn m ≠ [] : Bool) then textOfLines (gap ++ [
        "",
        "    override static func indexedProperties() -> [String] \x7b",
        "        return [" ++ ", ".intercalate
          ((base.graph.indexedIn m).map fun name => "\"" ++ name ++ "\"") ++ "]",
        "    \x7d"]) else "") := by
  have hcondition : Comes base ((ofModel "has_indexed_properties").value context scope)
      (.bool (base.graph.indexedIn m ≠ [])) :=
    (Comes.name hmodel).member (comes_hasIndexed h.pointed hm)
  have hnames : Writes context base known scope
      [loopOver "pair" (ofModel "indexed_property_and_comma") swiftIndexed]
      (", ".intercalate ((base.graph.indexedIn m).map fun name => "\"" ++ name ++ "\"")) := by
    -- the commas are part of the items of the loop, and there is none behind the last item
    have hcomma : commaText (some ",") = ", " := by decide
    rw [← hcomma, ← join_withCommas _ rfl]
    refine .loop (comes_indexedNames h.pointed hm hmodel) plain_swiftIndexed ?_
    intro item _
    exact writes_swiftIndexed (h.inLoop (by decide) (by decide) _) (scope.find_inLoop_self _ _)
  refine .branch hcondition (comes_truthOf_bool _) ?_
  intro _
  refine ((Writes.text h.yields _).append (hnames.append (.text h.yields _))).of_eq ?_
  simp [String.append_assoc, -String.reduceAppend]

theorem plain_swiftProperty (hgap : gap = [] ∨ gap = [""]) :
    plainBody "property" (swiftProperty gap) := by
  rcases hgap with rfl | rfl <;> decide +kernel


/-- A model is written as the layout of its class in Swift has it. -/
theorem writes_swiftModel (hgap : gap = [] ∨ gap = [""]) (h : Ready context base scope s)
    (hm : m ∈ base.graph.modelsOf s) (hmodel : scope.find "model" = .model m) :
    Writes context base known scope (swiftModel gap)
      (textOfLines (gap ++ (base.graph.swiftClass m).lines gap)) := by
  have hname : Writes context base known scope [.output (ofModel "name")]
      (base.graph.modelName m) :=
    .output h.safety h.yields (comes_name hmodel)
  have hproperties : Writes context base known scope
      [loopOver "property" (ofModel "properties") (swiftProperty gap)] _ :=
    writes_properties h hm hmodel (plain_swiftProperty hgap) fun p hp _ _ h hproperty =>
      writes_swiftProperty h hm hp hproperty
  have hkey : Writes context base known scope
      [.branch (ofModel "primary_key") (swiftKey gap) []] _ :=
    writes_swiftKey h hm hmodel
  have hindex : Writes context base known scope
      [.branch (ofModel "has_indexed_properties") (swiftIndex gap) []] _ :=
    writes_swiftIndex h hm hmodel
  have hgaps : Writes context base known scope (writing gap) (textOfLines gap) :=
    .writing h.yields gap
  refine ((((((Writes.text h.yields _).append (hname.append ((Writes.text h.yields _).append
    hproperties))).append hgaps).append hkey).append hgaps).append
    (hindex.append (.text h.yields _))).of_eq ?_
  -- a class without indexed properties has no lines for them
  by_cases hnone : base.graph.indexedIn m = [] <;>
    simp [SwiftClass.lines, Graph.swiftClass, List.flatMap_map, textOfLines_linesIf, hnone,
      String.append_assoc, -String.reduceAppend]

/-! ### Templates -/

/-- The text of a line under a condition. -/
theorem writes_lineIf (h : Ready context base scope s) {e : Expr} {condition : Bool}
    (he : Comes base (e.value context scope) (.bool condition)) (line : String) :
    Writes context base known scope [lineIf gap e line]
      (if condition then textOfLines (gap ++ [line]) else "") :=
  .branch he (comes_truthOf_bool _) fun _ => .text h.yields _

/-- The text of a line that shows a text, if there is one. -/
theorem writes_lineShowing (h : Ready context base scope s) {e : Expr} {text : Option String}
    (he : Comes base (e.value context scope) (.ofText? text)) (before : String) :
    Writes context base known scope [lineShowing gap e before]
      (if (textIfAny text).isSome then
        textOfLines (gap ++ [before ++ (textIfAny text).getD ""]) else "") := by
  refine .branch he (comes_truthOf_ofText? _) ?_
  intro hset
  refine ((Writes.text h.yields _).append ((writes_ofText? h he hset).append
    (.text h.yields _))).of_eq ?_
  simp [String.append_assoc]

theorem plain_swiftModel (hgap : gap = [] ∨ gap = [""]) : plainBody "model" (swiftModel gap) := by
  rcases hgap with rfl | rfl <;> decide +kernel

theorem plain_kotlinModel (hgap : gap = [] ∨ gap = [""]) : plainBody "model" (kotlinModel gap) := by
  rcases hgap with rfl | rfl <;> decide +kernel

/-- A source in Swift is written as the layout has it. -/
theorem writes_swiftTree (hgap : gap = [] ∨ gap = [""]) (h : Ready context base scope s) :
    Writes context base known scope (swiftTree gap rest)
      (textOfLines (base.graph.swiftLines s gap rest)) := by
  have hmodule : Comes base ((ofSchema "module_name").value context scope)
      (.ofText? (base.graph.schema s).moduleName) :=
    (Comes.name h.schema).member comes_moduleName
  have hnamed : Writes context base known scope
      [lineShowing gap (ofSchema "module_name") "// Module: "] _ :=
    writes_lineShowing h hmodule _
  have hmodels : Writes context base known scope
      [loopOver "model" (ofSchema "models") (swiftModel gap)] _ :=
    writes_models h (plain_swiftModel hgap) fun m hm _ _ h hmodel =>
      writes_swiftModel hgap h hm hmodel
  refine (((Writes.text h.yields _).append (hnamed.append ((Writes.text h.yields _).append
    hmodels))).append (.writing h.yields rest)).of_eq ?_
  simp [Graph.swiftLines, textOfLines_linesIf, String.append_assoc, -String.reduceAppend]

theorem comes_asksBacklinks (h : Ready context base scope s) :
    Comes base ((ofSchema "has_linking_objects").value context scope)
      (.bool (base.graph.hasProperty s (·.shape.isBacklink))) :=
  (Comes.name h.schema).member (comes_hasBacklinks h.pointed)

/-- The head of a source in Kotlin, up to the imports that depend on backlinks. -/
theorem writes_kotlinHead (h : Ready context base scope s) :
    Writes context base known scope (kotlinHead gap) (
      textOfLines (
        ["// Generated by realmgen. Do not edit."] ++
        linesIf gap (textIfAny (base.graph.schema s).packageName).isSome
          ["package " ++ (textIfAny (base.graph.schema s).packageName).getD ""] ++
        [""] ++
        linesIf gap (base.graph.hasProperty s (·.shape.isListRelation))
          ["import io.realm.RealmList"] ++
        ["import io.realm.RealmObject"]) ++
      if base.graph.hasProperty s (·.shape.isBacklink) then
        textOfLines (gap ++ ["import io.realm.RealmResults"]) else "") := by
  have hpackage : Comes base ((ofSchema "package_name").value context scope)
      (.ofText? (base.graph.schema s).packageName) :=
    (Comes.name h.schema).member comes_packageName
  have hlists : Comes base ((ofSchema "has_list_relations").value context scope) _ :=
    (Comes.name h.schema).member (comes_hasListRelations h.pointed)
  refine ((Writes.text h.yields _).append ((writes_lineShowing h hpackage _).append
    ((Writes.text h.yields _).append ((writes_lineIf h hlists _).append
      ((Writes.text h.yields _).append (writes_lineIf h (comes_asksBacklinks h) _)))))).of_eq ?_
  simp [textOfLines_linesIf, String.append_assoc, -String.reduceAppend]

theorem writes_kotlinTree (hgap : gap = [] ∨ gap = [""]) (h : Ready context base scope s) :
    Writes context base known scope (kotlinTree gap rest)
      (textOfLines (base.graph.kotlinLines s gap rest)) := by
  have hindexed : Comes base ((ofSchema "has_indexed_properties").value context scope) _ :=
    (Comes.name h.schema).member (comes_schemaHasIndexed h.pointed)
  have hkeys : Comes base ((ofSchema "has_primary_keys").value context scope) _ :=
    (Comes.name h.schema).member (comes_hasPrimaryKeys h.pointed)
  have hdates : Comes base ((Expr.call (ofSchema "uses_kind")
      [.member (.name "field_kind") "DATE"] [] []).value context scope) _ :=
    comes_usesDate h.pointed h.schema h.kinds
  have hgaps : Writes context base known scope (writing gap) (textOfLines gap) :=
    .writing h.yields gap
  have hmodels : Writes context base known scope
      [loopOver "model" (ofSchema "models") (kotlinModel gap)] _ :=
    writes_models h (plain_kotlinModel hgap) fun m hm _ _ h hmodel =>
      writes_kotlinModel hgap h hm hmodel
  refine ((((((((((writes_kotlinHead h).append hgaps).append
    (writes_lineIf h hindexed _)).append hgaps).append
    (writes_lineIf h (comes_asksBacklinks h) _)).append hgaps).append
    (writes_lineIf h hkeys _)).append hgaps).append
    (writes_lineIf h hdates _)).append hgaps).append hmodels |>.append
    (.writing h.yields rest) |>.of_eq ?_
  simp [Graph.kotlinLines, textOfLines_linesIf, String.append_assoc, -String.reduceAppend]

/-- The bundled template of a language writes the lines of a source in that language. -/
theorem writes_bundled (hgap : gap = [] ∨ gap = [""]) (h : Ready context base scope s)
    (language : Language) :
    Writes context base known scope (bundledTree gap rest language)
      (textOfLines (base.graph.sourceLines s gap rest language)) := by
  cases language with
  | swift => exact writes_swiftTree hgap h
  | kotlin => exact writes_kotlinTree hgap h

end MobileSchema.Template
