import MobileSchema.Proofs.Schema.Commas
import MobileSchema.Proofs.Source.Layout
import MobileSchema.Proofs.Template.Writing

/-!
# What templates ask of a schema

The attributes that the bundled templates ask for, and what they come to behind a state with a
given graph.  Where the pointers of the schema lead to the right sorts, all of them are there, and
they are what the layout takes.
-/

namespace MobileSchema.Template

variable {context : Context} {base st later : State} {scope : Scope} {e : Expr} {o v : Object}
  {called word : String} {s : SchemaId} {m : ModelId} {p : PropertyId} {b : Bool}

/-! ### Attributes and their truth -/

theorem comes_currentGraph : Comes base currentGraph base.graph :=
  .look fun _ hst => hst.graph

theorem comes_renderingAt {i : Nat} : Comes base (renderingAt i)
    (base.renderings[i]?.getD { template := "", names := [] }) :=
  .look fun _ hst => by rw [hst.renderings]

theorem comes_escapesIn {i : Nat} : Comes base (escapesIn i)
    (base.renderings[i]?.getD { template := "", names := [] }).escapes :=
  comes_renderingAt.bind (.pure _)

/-- A question to the graph is answered. -/
theorem Comes.ask {α : Type} {answer : Except SchemaFault α} {a : α} (h : answer = .ok a) :
    Comes base (ask answer) a := by
  rw [h]
  exact .pure a

theorem Comes.name (h : scope.find called = o) :
    Comes base ((Expr.name called).value context scope) o := by
  rw [Expr.value, h]
  exact .pure o

/-- A member of what an expression comes to is asked for by its name. -/
theorem Comes.member (he : Comes base (e.value context scope) o)
    (h : Comes base (attribute? o word) (some v)) :
    Comes base ((Expr.member e word).value context scope) v := by
  rw [Expr.value]
  exact he.bind (h.bind (.pure _))

/-- What is found is passed on. -/
theorem run_unlessLacking {a : Act Object} (h : a.run.run st = (.ok v, later)) :
    (unlessLacking a).run.run st = (.ok (some v), later) := by
  rw [run_unlessLacking_eq, h]

/-- What is lacking is not found, which is no fault yet. -/
theorem run_unlessLacking_of_lack {a : Act Object} {fault : RenderFault}
    (h : a.run.run st = (.error fault, later)) (hlack : fault.isLack) :
    (unlessLacking a).run.run st = (.ok none, later) := by
  rw [run_unlessLacking_eq, h]
  simp only [hlack, if_true]

theorem comes_unlessLacking {a : Act Object} (h : Comes base a v) :
    Comes base (unlessLacking a) (some v) := by
  intro st hst
  obtain ⟨later, hlater, hgrows⟩ := h st hst
  exact ⟨later, run_unlessLacking hlater, hgrows⟩

/-- A truth value that is computed from the graph is what the graph says. -/
theorem comes_truthAttribute {a : Graph → Except SchemaFault Bool} (h : a base.graph = .ok b) :
    Comes base (truthAttribute a) (some (.bool b)) :=
  comes_unlessLacking (comes_currentGraph.bind ((Comes.ask h).bind (.pure _)))

theorem comes_truthOf_bool (b : Bool) : Comes base (truthOf (.bool b)) b := .pure b

/-- A text that may be missing counts as true if it is there and not empty. -/
theorem truthOf_ofText? (text : Option String) :
    truthOf (.ofText? text) = pure (textIfAny text).isSome := by
  cases text with
  | none => rfl
  | some s =>
    have h : ((characters s).length ≠ 0 : Bool) = (textIfAny (some s)).isSome := by
      simp [characters, textIfAny]
    rw [← h]
    rfl

theorem comes_truthOf_ofText? (text : Option String) :
    Comes base (truthOf (.ofText? text)) (textIfAny text).isSome := by
  rw [truthOf_ofText?]
  exact .pure _

/-- A list that is come to has to hold the items. -/
theorem comesToList_of_comes {a : Act Object} {r : ListRef} {items : List Object}
    (h : Comes base a (.list r)) (hitems : base.Holds r items) : ComesToList base a items := by
  intro st hst
  obtain ⟨later, hlater, hgrows⟩ := h st hst
  exact ⟨r, later, hlater, hgrows, hitems.mono (hst.trans hgrows)⟩

/-! ### Schemas -/

theorem comes_packageName :
    Comes base (attribute? (.schema s) "package_name")
      (some (.ofText? (base.graph.schema s).packageName)) :=
  comes_currentGraph.bind (.pure _)

theorem comes_moduleName :
    Comes base (attribute? (.schema s) "module_name")
      (some (.ofText? (base.graph.schema s).moduleName)) :=
  comes_currentGraph.bind (.pure _)

/-- The template goes through the models of the schema. -/
theorem comes_models (h : base.graph.WellPointed s) (hschema : scope.find "schema" = .schema s) :
    ComesToList base ((ofSchema "models").value context scope)
      ((base.graph.modelsOf s).map .model) := by
  have hlist : Comes base ((ofSchema "models").value context scope) (.list (.models s)) :=
    (Comes.name hschema).member (comes_currentGraph.bind (.pure _))
  have hitems := holds_models base s
  rw [h.slots_schema, List.map_map] at hitems
  exact comesToList_of_comes hlist hitems

/-- The template learns whether the schema has list relations. -/
theorem comes_hasListRelations (h : base.graph.WellPointed s) :
    Comes base (attribute? (.schema s) "has_list_relations")
      (some (.bool (base.graph.hasProperty s (·.shape.isListRelation)))) :=
  comes_currentGraph.bind (comes_truthAttribute (Graph.schemaHasListRelations_eq h))

theorem comes_hasBacklinks (h : base.graph.WellPointed s) :
    Comes base (attribute? (.schema s) "has_linking_objects")
      (some (.bool (base.graph.hasProperty s (·.shape.isBacklink)))) :=
  comes_currentGraph.bind (comes_truthAttribute (Graph.schemaHasBacklinks_eq h))

theorem comes_schemaHasIndexed (h : base.graph.WellPointed s) :
    Comes base (attribute? (.schema s) "has_indexed_properties")
      (some (.bool (base.graph.hasProperty s (·.indexed)))) :=
  comes_currentGraph.bind (comes_truthAttribute (Graph.schemaHasIndexed_eq h))

theorem comes_hasPrimaryKeys (h : base.graph.WellPointed s) :
    Comes base (attribute? (.schema s) "has_primary_keys") (some (.bool
      ((base.graph.modelsOf s).any fun m => (base.graph.model m).primaryKey ≠ .nothing))) :=
  comes_currentGraph.bind (comes_truthAttribute (Graph.hasPrimaryKeys_eq h))

/-- An act that succeeds has its result as its outcome. -/
theorem run_outcomeOf {α : Type} {a : Act α} {result : α}
    (h : a.run.run st = (.ok result, later)) :
    (outcomeOf a).run.run st = (.ok (.ok result), later) := by
  have ha : a st = (.ok result, later) := h
  simp only [outcomeOf, tryCatch, tryCatchThe, MonadExceptOf.tryCatch, ExceptT.tryCatch,
    ExceptT.run, ExceptT.mk, ExceptT.bind, StateT.run, StateT.bind, bind, ha]
  rfl

/-- The answer to the question whether a schema has fields for dates. -/
theorem comes_callUsesKind (h : base.graph.WellPointed s) (run : Errand → Act (List Object))
    (escapes : Bool) :
    Comes base (callOf run escapes (.method (.schema s) (.schema .usesKind)) ⟨[.kind .date], []⟩)
      (.bool ((base.graph.modelsOf s).any (base.graph.hasKind · .date))) := by
  -- the question takes a value, which is read as a kind before any model is asked
  have hkind : Comes base (outcomeOf (kindOf (.kind .date))) (.ok .date) :=
    fun st _ => ⟨st, run_outcomeOf rfl, .refl st⟩
  have hbound : Comes base (callSchema run (callAt run escapes 299) s .usesKind ⟨[.kind .date], []⟩)
      (.bool ((base.graph.modelsOf s).any (base.graph.hasKind · .date))) := by
    refine comes_currentGraph.bind ?_
    refine Comes.bind (v := ⟨[("kind", .kind .date)], []⟩) (.pure _) ?_
    refine hkind.bind ?_
    rw [Graph.schemaUsesKind_eq h]
    exact .pure _
  exact hbound

/-- The question whether a schema has fields for dates. -/
theorem comes_usesDate (h : base.graph.WellPointed s) (hschema : scope.find "schema" = .schema s)
    (hkinds : scope.find "field_kind" = .kinds) :
    Comes base ((Expr.call (ofSchema "uses_kind") [.member (.name "field_kind") "DATE"] [] []).value
      context scope) (.bool ((base.graph.modelsOf s).any (base.graph.hasKind · .date))) := by
  have hmethod : Comes base ((ofSchema "uses_kind").value context scope)
      (.method (.schema s) (.schema .usesKind)) :=
    (Comes.name hschema).member (comes_currentGraph.bind (.pure _))
  have hdate : Comes base ((Expr.member (.name "field_kind") "DATE").value context scope)
      (.kind .date) :=
    (Comes.name hkinds).member (.pure _)
  have hplaces : Comes base
      (Expr.placedValues context scope [.member (.name "field_kind") "DATE"]) [.kind .date] := by
    simp only [Expr.placedValues]
    exact hdate.bind (.bind (.pure _) (.pure _))
  rw [Expr.value]
  refine hmethod.bind (hplaces.bind ?_)
  simp only [Expr.values, Expr.spreadValues]
  refine .bind (.pure _) (.bind (.pure _) (.bind (.pure _) (comes_escapesIn.bind ?_)))
  exact comes_callUsesKind h _ _

/-! ### Models -/

theorem comes_modelName :
    Comes base (attribute? (.model m) "name") (some (.text (base.graph.modelName m))) :=
  comes_currentGraph.bind (.pure _)

/-- The template goes through the properties of a model. -/
theorem comes_properties (h : base.graph.WellPointed s) (hm : m ∈ base.graph.modelsOf s)
    (hmodel : scope.find "model" = .model m) :
    ComesToList base ((ofModel "properties").value context scope)
      ((base.graph.listed m).map .property) := by
  have hlist : Comes base ((ofModel "properties").value context scope) (.list (.properties m)) :=
    (Comes.name hmodel).member (comes_currentGraph.bind (.pure _))
  have hitems := holds_properties base m
  rw [h.slots_model hm, List.map_map] at hitems
  exact comesToList_of_comes hlist hitems

theorem comes_primaryKey : Comes base (attribute? (.model m) "primary_key")
    (some (.ofReference (base.graph.model m).primaryKey)) :=
  comes_currentGraph.bind (.pure _)

theorem comes_hasIndexed (h : base.graph.WellPointed s) (hm : m ∈ base.graph.modelsOf s) :
    Comes base (attribute? (.model m) "has_indexed_properties")
      (some (.bool (base.graph.indexedIn m ≠ []))) :=
  comes_currentGraph.bind (comes_truthAttribute (Graph.hasIndexed_eq h hm))

/-- A name with the comma behind it, as an object. -/
def namedItem (item : WithComma String) : Object := .withComma (.text item.data) item.comma

/-- The names of the indexed properties are asked for with their commas, in a list made for that. -/
theorem comes_indexedNames (h : base.graph.WellPointed s) (hm : m ∈ base.graph.modelsOf s)
    (hmodel : scope.find "model" = .model m) :
    ComesToList base ((ofModel "indexed_property_and_comma").value context scope)
      ((withCommas (base.graph.indexedIn m)).map namedItem) := by
  intro st hst
  let items := (withCommas (base.graph.indexedIn m)).map namedItem
  have hnew : (newCommaList ((base.graph.indexedIn m).map .text)).run.run st =
      (.ok (.list (.own st.lists.length)), st.withList items) := by
    rw [newCommaList, withCommas_map, List.map_map]
    exact run_newList st _
  have hask : (do newCommaList ((← ask (st.graph.indexedNames m)).map .text)).run.run st =
      (.ok (.list (.own st.lists.length)), st.withList items) := by
    rw [hst.graph, Graph.indexedNames_eq h hm]
    exact hnew
  -- the list is made in the state, so this attribute has no `Comes`
  have hattribute : (attribute? (.model m) "indexed_property_and_comma").run.run st =
      (.ok (some (.list (.own st.lists.length))), st.withList items) :=
    run_unlessLacking hask
  refine ⟨_, _, ?_, st.growsTo_withList items, st.holds_withList items⟩
  rw [ofModel, Expr.value, Expr.value, hmodel, pure_bind, memberOf, run_bind hattribute]
  rfl

/-- A reference that leads to something with a name counts as true. -/
theorem comes_truthOf_reference {r : Reference}
    (h : r = .nothing ∨ ∃ name, base.graph.nameOf r = .ok name) :
    Comes base (truthOf (.ofReference r)) (r ≠ .nothing) := by
  rcases h with rfl | ⟨name, hname⟩
  · exact .pure _
  · cases r with
    | model _ => exact .pure _
    | property _ => exact .pure _
    | nothing => cases hname
    | schema _ => cases hname
    | text _ => cases hname

/-- What has a name is asked for it. -/
theorem comes_nameOf {r : Reference} (h : ∃ name, base.graph.nameOf r = .ok name) :
    Comes base (attribute? (.ofReference r) "name") (some (.text (base.graph.nameAt r))) := by
  obtain ⟨name, hname⟩ := h
  cases r with
  | model _ => exact comes_currentGraph.bind (.pure _)
  | property _ => exact comes_currentGraph.bind (.pure _)
  | nothing => cases hname
  | schema _ => cases hname
  | text _ => cases hname

/-! ### Properties -/

theorem comes_indexed : Comes base (attribute? (.property p) "indexed")
    (some (.bool (base.graph.property p).indexed)) :=
  comes_currentGraph.bind (.pure _)

/-- The declarations of a property as a template asks for them. -/
theorem comes_rendered {declared : PlatformPair String}
    (hfind : scope.find "property" = .property p) (h : base.graph.declarations p = .ok declared) :
    Comes base ((Expr.call (.member (.name "property") "rendered_declaration") [] [] []).value
      context scope) (.pair (.text declared.ios) (.text declared.android)) := by
  have hmethod : Comes base ((Expr.member (.name "property") "rendered_declaration").value
      context scope) (.method (.property p) (.property .renderedDeclaration)) :=
    (Comes.name hfind).member (comes_currentGraph.bind (.pure _))
  have hcall : ∀ escapes, Comes base (callOf context.run escapes
      (.method (.property p) (.property .renderedDeclaration)) {})
      (.pair (.text declared.ios) (.text declared.android)) := by
    intro escapes
    show Comes base (callProperty p .renderedDeclaration {}) _
    refine comes_currentGraph.bind ?_
    refine Comes.bind (v := ⟨[], []⟩) (.pure _) ?_
    exact (Comes.ask h).bind (.pure _)
  rw [Expr.value]
  refine hmethod.bind ?_
  simp only [Expr.placedValues, Expr.values, Expr.spreadValues]
  refine .bind (.pure _) (.bind (.pure _) (.bind (.pure _) (.bind (.pure _) ?_)))
  exact comes_escapesIn.bind (hcall _)

end MobileSchema.Template
