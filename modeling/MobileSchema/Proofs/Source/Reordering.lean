import MobileSchema.Proofs.Schema.Scripts
import MobileSchema.Proofs.Source.Outline
import MobileSchema.Proofs.Source.Refusing

/-!
# Sources of reordered scripts

A source shows names, and no numbers.  So if a graph is another with other numbers for its
properties, the layouts of their sources are the same, line by line (`Graph.Renamed.sourceLines`).

What comes out of a rendering that is left to a bundled template is the layout, or it is decided
before the template is looked up, by the settings, the language, the check and the text functions
(`RenderRequest.LeavesTemplate.refused_or_asks`).  Neither depends on the order of independent lines
in the script that has built the schema, and nor does what the check reports.  Main result:
`Script.lines_commute`.
-/

namespace MobileSchema

/-! ### The layout of a renamed graph -/

namespace Graph.Renamed

variable {σ : Equiv.Perm PropertyId} {g g' : Graph} {s : SchemaId} {m : ModelId}

theorem modelsOf (h : g.Renamed σ g') (s : SchemaId) : g'.modelsOf s = g.modelsOf s := by
  have hmodel : Reference.model? ∘ Reference.rename σ = Reference.model? :=
    funext fun _ => Reference.model?_rename
  rw [Graph.modelsOf, Graph.modelsOf, h.schema, Schema.listed, Schema.rename, List.filterMap_map,
    hmodel, Schema.listed]

theorem listed (h : g.Renamed σ g') (m : ModelId) : g'.listed m = (g.listed m).map σ := by
  have hproperty : Reference.property? ∘ Reference.rename σ =
      Option.map σ ∘ Reference.property? :=
    funext fun _ => Reference.property?_rename
  rw [Graph.listed, Graph.listed, h.model, Model.listed, Model.rename, List.filterMap_map,
    hproperty, Model.listed, List.map_filterMap]
  rfl

theorem nameAt (h : g.Renamed σ g') (r : Reference) : g'.nameAt (r.rename σ) = g.nameAt r := by
  rw [Graph.nameAt, h.nameOf, Graph.nameAt]

theorem isKey (h : g.Renamed σ g') (p : PropertyId) : g'.isKey (σ p) = g.isKey p := by
  rw [Graph.isKey, Graph.isKey, h.property]
  simp only [Property.rename]
  cases (g.property p).owner with
  | model o =>
    have hkey : (g.model o).primaryKey.rename σ = .property (σ p) ↔
        (g.model o).primaryKey = .property p :=
      (Reference.rename_injective σ).eq_iff' rfl
    simp only [Reference.rename_model, Shape.isTyped_rename, h.model, Model.rename, hkey]
  | nothing | schema | property | text => rfl

/-- A property is declared the same. -/
theorem declared (h : g.Renamed σ g') (p : PropertyId) :
    g'.declared (σ p) = g.declared p := by
  rw [Graph.declared, Graph.declared, h.propertyName, h.isKey, h.property]
  simp only [Property.rename]
  cases (g.property p).shape with
  | typed kind required => rfl
  | toOne target => simp only [Shape.rename, h.nameAt]
  | toMany target => simp only [Shape.rename, h.nameAt]
  | inverse target forward isPrivate => simp only [Shape.rename, h.nameAt]

theorem indexed (h : g.Renamed σ g') (p : PropertyId) :
    (g'.property (σ p)).indexed = (g.property p).indexed := by
  rw [h.property]
  rfl

theorem keyName? (h : g.Renamed σ g') (m : ModelId) : g'.keyName? m = g.keyName? m := by
  rw [Graph.keyName?, Graph.keyName?, h.model]
  simp only [Model.rename, Reference.rename_eq_nothing_iff, h.nameAt]

theorem indexedIn (h : g.Renamed σ g') (m : ModelId) : g'.indexedIn m = g.indexedIn m := by
  rw [Graph.indexedIn, Graph.indexedIn, h.listed, List.filter_map, List.map_map]
  simp only [Function.comp_def, h.indexed, h.propertyName]

/-- The class in Swift stays the same. -/
theorem swiftClass (h : g.Renamed σ g') (m : ModelId) : g'.swiftClass m = g.swiftClass m := by
  rw [Graph.swiftClass, Graph.swiftClass, h.modelName, h.listed, h.keyName?, h.indexedIn,
    List.map_map]
  simp only [Function.comp_def, h.declared]

theorem kotlinClass (h : g.Renamed σ g') (m : ModelId) : g'.kotlinClass m = g.kotlinClass m := by
  rw [Graph.kotlinClass, Graph.kotlinClass, h.modelName, h.listed, List.map_map]
  simp only [Function.comp_def, h.declared, h.indexed]

/-- A test that does not look at numbers finds the same properties. -/
theorem hasProperty (h : g.Renamed σ g') (s : SchemaId) {test : Property → Bool}
    (htest : ∀ property : Property, test (property.rename σ) = test property) :
    g'.hasProperty s test = g.hasProperty s test := by
  rw [Graph.hasProperty, Graph.hasProperty, h.modelsOf]
  simp only [h.listed, List.any_map, Function.comp_def, h.property, htest]

theorem hasKind (h : g.Renamed σ g') (m : ModelId) (kind : FieldKind) :
    g'.hasKind m kind = g.hasKind m kind := by
  rw [Graph.hasKind, Graph.hasKind, h.listed, List.any_map]
  refine congrArg (List.any _) (funext fun p => ?_)
  simp only [Function.comp_apply, h.property, Property.rename]
  cases (g.property p).shape <;> rfl

theorem hasKey (h : g.Renamed σ g') (m : ModelId) :
    (g'.model m).primaryKey ≠ .nothing ↔ (g.model m).primaryKey ≠ .nothing := by
  rw [h.model]
  exact not_congr Reference.rename_eq_nothing_iff

/-- The source of a schema is laid out in the same way. -/
theorem sourceLines (h : g.Renamed σ g') (s : SchemaId) (gap rest : List String)
    (language : Language) :
    g'.sourceLines s gap rest language = g.sourceLines s gap rest language := by
  have hlists : g'.hasProperty s (·.shape.isListRelation) =
      g.hasProperty s (·.shape.isListRelation) := h.hasProperty s fun property => by
    rcases property with ⟨_, _, _ | _ | _ | _, _⟩ <;> rfl
  have hbacklinks : g'.hasProperty s (·.shape.isBacklink) = g.hasProperty s (·.shape.isBacklink) :=
    h.hasProperty s fun property => by rcases property with ⟨_, _, _ | _ | _ | _, _⟩ <;> rfl
  have hindexed : g'.hasProperty s (·.indexed) = g.hasProperty s (·.indexed) :=
    h.hasProperty s fun _ => rfl
  cases language with
  | swift =>
    rw [Graph.sourceLines, Graph.sourceLines, Graph.swiftLines, Graph.swiftLines, h.modelsOf,
      h.schema]
    simp only [Schema.rename, h.swiftClass]
  | kotlin =>
    rw [Graph.sourceLines, Graph.sourceLines, Graph.kotlinLines, Graph.kotlinLines, hlists,
      hbacklinks, hindexed, h.modelsOf, h.schema]
    simp only [Schema.rename, h.kotlinClass, h.hasKind, h.hasKey]

end Graph.Renamed

/-! ### Schemas that scripts build -/

section Building

variable {g g' : Graph} {s : SchemaId} {m : ModelId}

/-- Whether a property is as calls build it: its pointers lead to the right sorts, and its kind was
looked up. -/
structure Property.IsBuilt (p : Property) : Prop where
  wellPointed : p.WellPointed
  knowsKind : p.shape.knowsKind

/-- What a call declares is a property as calls build it. -/
theorem WrittenCall.isBuilt_of_read {call : WrittenCall} {read : BuildCall}
    (hread : call.read = .ok read) {n : Nat} {entry : ModelId × Property}
    (hentry : entry ∈ read.declares n) : entry.2.IsBuilt := by
  -- all that is asked of a property can be read off its owner and its shape
  have hbuilt : ∀ {p : Property}, p.owner.model?.isSome ∧ p.shape.pointsWell →
      p.shape.knowsKind → p.IsBuilt :=
    fun hpointed hkind => ⟨Property.wellPointed_iff.2 hpointed, hkind⟩
  cases call with
  | model s name =>
    cases hread
    cases hentry
  | field m name kind options =>
    obtain ⟨options, -, rfl⟩ := map_eq_ok.1 hread
    rw [BuildCall.declares] at hentry
    cases hkind : FieldKind.ofValue? kind with
    | none => simp [hkind] at hentry
    | some known =>
      obtain rfl : entry = _ := by simpa [hkind] using hentry
      exact hbuilt ⟨rfl, rfl⟩ rfl
  | typed m builder name options =>
    obtain ⟨options, -, rfl⟩ := map_eq_ok.1 hread
    rw [List.mem_singleton.1 hentry]
    exact hbuilt ⟨rfl, rfl⟩ rfl
  | relation many m name target options =>
    obtain ⟨link, -, rfl⟩ := map_eq_ok.1 hread
    rcases List.mem_cons.1 hentry with rfl | hentry
    · cases many <;> exact hbuilt ⟨rfl, rfl⟩ rfl
    · cases hcreate : link.create with
      | false => simp [hcreate] at hentry
      | true =>
        obtain rfl : entry = _ := by simpa [hcreate, Reference.model?] using hentry
        exact hbuilt ⟨rfl, rfl⟩ rfl
  | backlink m name source forward options =>
    obtain ⟨isPrivate, -, rfl⟩ := map_eq_ok.1 hread
    rw [List.mem_singleton.1 hentry]
    exact hbuilt ⟨rfl, rfl⟩ rfl

namespace Graph

/-- Whether what a model lists, and its key, are as calls build them. -/
structure BuiltModel (g : Graph) (m : ModelId) : Prop where
  slots : ∀ r ∈ (g.model m).slots, ∃ p, r = .property p ∧ (g.property p).IsBuilt
  key : (g.model m).primaryKey = .nothing ∨ ∃ p, (g.model m).primaryKey = .property p

/-- Whether a schema lists models that are as calls build them. -/
def BuiltSchema (g : Graph) (s : SchemaId) : Prop :=
  ∀ r ∈ (g.schema s).slots, ∃ m, r = .model m ∧ g.BuiltModel m

namespace BuiltSchema

theorem builtModel (h : g.BuiltSchema s) (hm : m ∈ g.modelsOf s) : g.BuiltModel m := by
  obtain ⟨o, ho, hbuilt⟩ := h _ (mem_modelsOf.1 hm)
  cases ho
  exact hbuilt

theorem isBuilt (h : g.BuiltSchema s) (hm : m ∈ g.modelsOf s) {p : PropertyId}
    (hp : p ∈ g.listed m) : (g.property p).IsBuilt := by
  obtain ⟨q, hq, hbuilt⟩ := (h.builtModel hm).slots _ (mem_listed.1 hp)
  cases hq
  exact hbuilt

/-- What calls have built points at the right sorts. -/
theorem wellPointed (h : g.BuiltSchema s) : g.WellPointed s where
  models := fun r hr => (h r hr).imp fun _ hm => hm.1
  properties := fun _ hm r hr => ((h.builtModel hm).slots r hr).imp fun _ hp => hp.1
  property := fun _ hm _ hp => (h.isBuilt hm hp).wellPointed
  key := by
    intro m hm
    refine (h.builtModel hm).key.imp id ?_
    rintro ⟨p, hp⟩
    exact ⟨g.propertyName p, by rw [hp]; rfl⟩

/-- What calls have built is of kinds that can be declared. -/
theorem hasKinds (h : g.BuiltSchema s) : g.HasKinds s :=
  KnowsKinds.hasKinds fun _ hm _ hp => (h.isBuilt hm hp).knowsKind

end BuiltSchema

/-- A call leaves a model as calls build it. -/
theorem BuiltModel.fulfils (h : g.BuiltModel m) (hg : g.Anchored) {call : WrittenCall}
    {read : BuildCall} (hread : call.read = .ok read) (hfulfils : g.Fulfils read g') :
    g'.BuiltModel m where
  slots := by
    intro r hr
    rw [hfulfils.slots] at hr
    rcases List.mem_append.1 hr with hr | hr
    · have hknown := (anchored_iff.1 hg).2.1 m r hr
      obtain ⟨p, rfl, hbuilt⟩ := h.slots r hr
      exact ⟨p, rfl, by rwa [hfulfils.property_of_lt hknown]⟩
    · obtain ⟨i, hi, rfl⟩ := exists_of_mem_placed hr
      refine ⟨_, rfl, ?_⟩
      rw [hfulfils.property_add (List.getElem?_eq_getElem hi)]
      exact call.isBuilt_of_read hread (List.getElem_mem hi)
  key := by
    rw [hfulfils.key]
    split
    · exact .inr ⟨_, rfl⟩
    · exact h.key

/-- A number that was never given out denotes a model that lists nothing. -/
theorem builtModel_of_le (h : g.models.length ≤ m.index) : g.BuiltModel m := by
  have hblank : g.model m = { schema := ⟨0⟩, name := "" } := by
    rw [model, List.getElem?_eq_none h]
    rfl
  refine ⟨?_, ?_⟩ <;> rw [hblank]
  · exact fun r hr => absurd hr List.not_mem_nil
  · exact .inl rfl

theorem BuiltModel.declareModel (h : g.BuiltModel m) (s : SchemaId) (name : String) :
    (g.declareModel s name).1.BuiltModel m where
  slots := by
    rw [(model_declareModel g s name m).1]
    exact h.slots
  key := by
    rw [(model_declareModel g s name m).2]
    exact h.key

/-- A new model, in the schema or elsewhere, leaves the schema as calls build it. -/
theorem BuiltSchema.declareModel {s' : SchemaId} (h : g.BuiltSchema s)
    (hs' : s'.index < g.schemas.length) (name : String) :
    (g.declareModel s' name).1.BuiltSchema s := by
  have hold : ∀ r ∈ (g.schema s).slots,
      ∃ m, r = .model m ∧ (g.declareModel s' name).1.BuiltModel m := by
    intro r hr
    obtain ⟨m, hm, hbuilt⟩ := h r hr
    exact ⟨m, hm, hbuilt.declareModel s' name⟩
  intro r hr
  by_cases hs : s = s'
  · subst hs
    rw [schema_declareModel hs'] at hr
    rcases List.mem_append.1 hr with hr | hr
    · exact hold r hr
    · have hnew := builtModel_of_le (g := g) (m := ⟨g.models.length⟩) (Nat.le_refl _)
      exact ⟨_, List.mem_singleton.1 hr, hnew.declareModel s name⟩
  · have hsame : (g.declareModel s' name).1.schema s = g.schema s :=
      schema_updateSchema_of_ne _ hs _
    exact hold r (hsame ▸ hr)

/-- A call leaves a schema as calls build it. -/
theorem BuiltSchema.perform (h : g.BuiltSchema s) (hg : g.Anchored) {call : WrittenCall}
    (hcall : call.Known g) : (g.perform call).1.BuiltSchema s := by
  rcases perform_cases hcall with ⟨fault, hperform⟩ | ⟨s', name, rfl, hs', hperform⟩ |
    ⟨read, hread, -, -, -, hfulfils⟩
  · rw [hperform]
    exact h
  · rw [hperform]
    exact h.declareModel hs' name
  · intro r hr
    rw [schema, hfulfils.schemas] at hr
    obtain ⟨m, hm, hbuilt⟩ := h r hr
    exact ⟨m, hm, hbuilt.fulfils hg hread hfulfils⟩

end Graph

end Building

/-- A script leaves its schema as calls build it. -/
theorem Script.Stage.builtSchema_run {s : SchemaId} {stage : Stage} (h : stage.Anchored s)
    (hbuilt : stage.graph.BuiltSchema s) (script : List Line) :
    (stage.run s script).graph.BuiltSchema s := by
  induction script generalizing stage with
  | nil => exact hbuilt
  | cons line script ih =>
    refine ih (h.next line) ?_
    rw [graph_next]
    cases hcall : line.command.call s stage.labels with
    | none =>
      rw [obey_of_not_call hcall]
      exact hbuilt
    | some call =>
      rw [obey_of_call hcall]
      exact hbuilt.perform h.graph (h.known hcall)

/-! ### Scripts -/

/-- What comes out of a rendering that is left to a bundled template does not depend on the numbers
of properties. -/
theorem RenderRequest.LeavesTemplate.result_eq {σ : Equiv.Perm PropertyId} {g g' : Graph}
    {s : SchemaId} {site : Site} {request : RenderRequest} (h : request.LeavesTemplate site s)
    (hrenamed : g.Renamed σ g') (hpointed : g.WellPointed s)
    (hpointed' : g'.WellPointed s) (hkinds : g.HasKinds s) (hkinds' : g'.HasKinds s) :
    (request.render g' site).result = (request.render g site).result := by
  have hvalidate : g'.validate s = g.validate s := hrenamed.validate s
  rcases h.refused_or_asks (g.validate s) with ⟨fault, hrefused⟩ | ⟨settings, language, hasks⟩
  · rw [hrefused g rfl, hrefused g' hvalidate]
  · rw [(render_bundled hpointed hkinds (hasks g rfl)).1,
      (render_bundled hpointed' hkinds' (hasks g' hvalidate)).1, hrenamed.sourceLines]

namespace Script

variable {g₀ : Graph} {labels : Labels}

theorem Stage.builtSchema_start (g₀ : Graph) (package module : Option String) (labels : Labels) :
    (start g₀ package module labels).graph.BuiltSchema (g₀.newSchema package module).2 := by
  intro r hr
  rw [start, Graph.newSchema, Graph.schema_addSchema_self] at hr
  cases hr

/-- If two independent lines of a script change places, the check of the schema that it builds up
comes to the same, and so does each rendering that leaves the template to the language: to the same
text, or to the same fault. -/
theorem lines_commute (hg : g₀.Anchored) (hlabels : labels.Known g₀)
    (package module : Option String) (before after : List Line) {a b : Line}
    (hab : ((Stage.start g₀ package module labels).run (g₀.newSchema package module).2
      before).Independent (g₀.newSchema package module).2 a b) :
    let s := (g₀.newSchema package module).2
    let g := ((Stage.start g₀ package module labels).run s (before ++ a :: b :: after)).graph
    let g' := ((Stage.start g₀ package module labels).run s (before ++ b :: a :: after)).graph
    g'.issues s = g.issues s ∧
      ∀ request : RenderRequest, ∀ site, request.LeavesTemplate site s →
        (request.render g' site).result = (request.render g site).result := by
  intro s g g'
  have hstart := Stage.anchored_start hg hlabels package module
  have hbuilt : ∀ script,
      ((Stage.start g₀ package module labels).run s script).graph.BuiltSchema s :=
    Stage.builtSchema_run hstart (Stage.builtSchema_start g₀ package module labels)
  obtain ⟨σ, hrenamed⟩ := Stage.run_swap hstart before after hab
  refine ⟨hrenamed.graph.issues s, fun request site hrequest => ?_⟩
  exact hrequest.result_eq hrenamed.graph (hbuilt _).wellPointed (hbuilt _).wellPointed
    (hbuilt _).hasKinds (hbuilt _).hasKinds

/-- Three models, before anything is listed in them. -/
def family : List Line := [
  ⟨"person", .model "Person"⟩,
  ⟨"dog", .model "Dog"⟩,
  ⟨"cat", .model "Cat"⟩]

/-- A relation between two of them, with its backlink. -/
def dogs : Line :=
  ⟨"dogs", .relation true "person" "dogs" "dog"
    [.flag .createLinkingObjects true, .linkName "keepers"]⟩

/-- The key of the third. -/
def tag : Line := ⟨"tag", .typed "cat" .string "tag" [.flag .primaryKey true]⟩

/-- A field that is refused, another backlink of the relation, one of the backlink that came with
it, and a name that is given twice. -/
def familyRest : List Line := [
  ⟨"fur", .field "cat" "fur" (.text "coat") []⟩,
  ⟨"owners", .backlink "dog" "owners" "person" "dogs" []⟩,
  ⟨"keepers", .find "dog" "keepers"⟩,
  ⟨"kept", .backlink "person" "kept" "dog" "keepers" []⟩,
  ⟨"mark", .typed "cat" .int "tag" []⟩]

/-- The stage that a script leads to from nothing. -/
def written (script : List Line) : Stage :=
  (Stage.start {} (some "zoo") none {}).run ⟨0⟩ script

/-- The request for a source that is not checked before. -/
def unchecked (language : Language) : RenderRequest :=
  { RenderRequest.usual ⟨0⟩ language with settings := some { validateBeforeRender := false } }

/-- The lines of the source that comes out in both orders. -/
def familyLines : Language → List String
  | .swift => [
    "//",
    "// Generated by realmgen. Do not edit.",
    "//",
    "",
    "import Foundation",
    "import RealmSwift",
    "",
    "class Person: Object \x7b",
    "    let dogs = List<Dog>()",
    "    let kept = LinkingObjects(fromType: Dog.self, property: \"keepers\")",
    "\x7d",
    "",
    "class Dog: Object \x7b",
    "    let keepers = LinkingObjects(fromType: Person.self, property: \"dogs\")",
    "    let owners = LinkingObjects(fromType: Person.self, property: \"dogs\")",
    "\x7d",
    "",
    "class Cat: Object \x7b",
    "    @objc dynamic var tag: String? = nil",
    "    let tag = RealmOptional<Int32>()",
    "",
    "    override static func primaryKey() -> String? \x7b",
    "        return \"tag\"",
    "    \x7d",
    "\x7d"]
  | .kotlin => [
    "// Generated by realmgen. Do not edit.",
    "package zoo",
    "",
    "import io.realm.RealmList",
    "import io.realm.RealmObject",
    "import io.realm.RealmResults",
    "import io.realm.annotations.LinkingObjects",
    "import io.realm.annotations.PrimaryKey",
    "",
    "open class Person : RealmObject() \x7b",
    "    val dogs: RealmList<Dog> = RealmList()",
    "    @LinkingObjects(\"keepers\") val kept: RealmResults<Dog>? = null",
    "\x7d",
    "",
    "open class Dog : RealmObject() \x7b",
    "    @LinkingObjects(\"dogs\") val keepers: RealmResults<Person>? = null",
    "    @LinkingObjects(\"dogs\") val owners: RealmResults<Person>? = null",
    "\x7d",
    "",
    "open class Cat : RealmObject() \x7b",
    "    @PrimaryKey var tag: String? = null",
    "    var tag: Int? = null",
    "\x7d"]

/-- A relation and a key that change places, with lines after them that use what the relation has
brought. -/
theorem lines_commute_family :
    ({} : Graph).Anchored ∧ ({} : Labels).Known {} ∧
    (written family).Independent ⟨0⟩ dogs tag ∧
    let g := (written (family ++ dogs :: tag :: familyRest)).graph
    let g' := (written (family ++ tag :: dogs :: familyRest)).graph
    g ≠ g' ∧ g.issues ⟨0⟩ = .ok [.duplicateProperty "Cat" "tag" 2] ∧
      g'.issues ⟨0⟩ = .ok [.duplicateProperty "Cat" "tag" 2] ∧
      ∀ language site,
        ((unchecked language).render g site).result = .ok (textOfLines (familyLines language)) ∧
        ((unchecked language).render g' site).result = .ok (textOfLines (familyLines language)) := by
  have hanchored : ({} : Graph).Anchored := ⟨by decide, by decide, by decide, by decide⟩
  have hlabels : ({} : Labels).Known {} := ⟨fun _ _ => nofun, fun _ _ => nofun⟩
  have hindependent : (written family).Independent ⟨0⟩ dogs tag :=
    ⟨trivial, trivial, by decide, by decide, by decide, by decide +kernel⟩
  obtain ⟨hissues, hrender⟩ :=
    lines_commute hanchored hlabels (some "zoo") none family familyRest hindependent
  -- two properties have one name, so the sources are asked for without a check
  have hchecked : (written (family ++ dogs :: tag :: familyRest)).graph.issues ⟨0⟩ =
      .ok [.duplicateProperty "Cat" "tag" 2] := by
    decide +kernel
  refine ⟨hanchored, hlabels, hindependent, by decide +kernel, hchecked, hissues.trans hchecked, ?_⟩
  intro language site
  have hasks : (unchecked language).AsksBundled
      (written (family ++ dogs :: tag :: familyRest)).graph site ⟨0⟩
      { validateBeforeRender := false } language := {
    asksFor := rfl
    asksIn := by cases language <;> rfl
    unnamed := rfl
    offers := fun _ => nofun
    chosen := rfl
    valid := nofun
    noFile := fun _ => nofun }
  have hlines : (written (family ++ dogs :: tag :: familyRest)).graph.sourceLines ⟨0⟩ [] [] language =
      familyLines language := by
    cases language <;> decide +kernel
  have htext := RenderRequest.result_eq_sourceLines (by decide +kernel) (by decide +kernel) hasks rfl
  rw [hlines] at htext
  have hleaves : (unchecked language).LeavesTemplate site ⟨0⟩ := by
    refine ⟨rfl, rfl, ?_⟩
    intro settings _ dir hsettings _ hdir
    cases hsettings
    cases hdir
  exact ⟨htext, (hrender (unchecked language) site hleaves).trans htext⟩

end Script

end MobileSchema
