import MobileSchema.Proofs.Template.Asking

/-!
# Lists with commas that templates ask for

A template can ask a schema for its models, and a model for its properties or for the names of those
that are indexed, each with the comma behind it.  What it gets is a list made for that
(`run_newCommaList`), so asking changes nothing that was there.

The lists of models and of properties are given whatever stands in them.  The names are looked up,
and so there is no list of names of a model that lists anything but properties
(`run_indexedNames_of_not_property`).

Main result: `State.commas_stand_between`.  It takes the three lists together with the laws of
`withCommas` that they rest on.
-/

namespace MobileSchema.Template

variable {st : State} {o : Object} {word : String} {items : List Object} {m : ModelId}

/-- An object with the comma behind it, as an object. -/
def pairItem (pair : WithComma Object) : Object := .withComma pair.data pair.comma

/-- Whether a state has, under a word that an object is asked for, a list of some items with commas
between them.  Nothing but that list is new when it has been asked for. -/
def State.ListsApart (st : State) (o : Object) (word : String) (items : List Object) : Prop :=
  ∃ r later pairs, (attribute? o word).run.run st = (.ok (some (.list r)), later) ∧
    st.GrowsTo later ∧ later.Holds r (pairs.map pairItem) ∧ CommasBetween items pairs

/-! ### Lists that are made -/

/-- The state in which a new list has some items with their commas. -/
def State.withCommaList (st : State) (items : List Object) : State :=
  st.withList ((withCommas items).map pairItem)

/-- A list with commas is a new list. -/
theorem run_newCommaList (st : State) (items : List Object) :
    (newCommaList items).run.run st =
      (.ok (.list (.own st.lists.length)), st.withCommaList items) :=
  run_newList st _

/-- Where asking for a word makes a list with commas, they stand between its items. -/
theorem State.listsApart_of_run (h : (attribute? o word).run.run st =
    (.ok (some (.list (.own st.lists.length))), st.withCommaList items)) :
    st.ListsApart o word items :=
  ⟨_, _, _, h, st.growsTo_withList _, st.holds_withList _, commasBetween_iff.2 rfl⟩

/-- The contents of a list are put into a new one with commas. -/
theorem run_newCommaList_contents (st : State) (r : ListRef) :
    (do return some (← newCommaList (← contents r)) : Act (Option Object)).run.run st =
      (.ok (some (.list (.own st.lists.length))), st.withCommaList (st.contents r)) := by
  rw [run_bind (run_contents st r), run_bind (run_newCommaList st _)]
  rfl

/-- The models of a schema are listed apart, with their commas. -/
theorem State.listsApart_models (st : State) (s : SchemaId) :
    st.ListsApart (.schema s) "model_and_comma"
      ((st.graph.schema s).slots.map .ofReference) :=
  listsApart_of_run (run_newCommaList_contents st (.models s))

theorem State.listsApart_properties (st : State) (m : ModelId) :
    st.ListsApart (.model m) "property_and_comma" ((st.graph.model m).slots.map .ofReference) :=
  listsApart_of_run (run_newCommaList_contents st (.properties m))

/-! ### Names of indexed properties -/

/-- The names of the indexed properties of a model are listed apart, with their commas. -/
theorem State.listsApart_indexed (h : ∀ r ∈ (st.graph.model m).slots, ∃ p, r = .property p) :
    st.ListsApart (.model m) "indexed_property_and_comma"
      ((st.graph.indexedIn m).map .text) := by
  have hask : (do newCommaList ((← ask (st.graph.indexedNames m)).map .text)).run.run st =
      (.ok (.list (.own st.lists.length)),
        st.withCommaList ((st.graph.indexedIn m).map .text)) := by
    rw [Graph.indexedNames_of_properties h]
    exact run_newCommaList st _
  exact listsApart_of_run (run_unlessLacking hask)

/-- What is no property has no name to list, so the attribute is lacking. -/
theorem run_indexedNames_of_not_property
    (h : ∃ r ∈ (st.graph.model m).slots, ∀ p, r ≠ .property p) :
    (attribute? (.model m) "indexed_property_and_comma").run.run st = (.ok none, st) := by
  obtain ⟨typeName, hnames⟩ := Graph.indexedNames_eq_error h
  -- the refusal of an attribute has nothing to note, so even the log stays as it is
  have hlog : { st with log := st.log ++ [] } = st := by rw [List.append_nil]
  have hask : (do newCommaList ((← ask (st.graph.indexedNames m)).map .text)).run.run st =
      (.error (.schema (.noAttribute typeName "indexed")), st) := by
    rw [hnames]
    exact congrArg (Prod.mk _) hlog
  exact run_unlessLacking_of_lack hask rfl

/-! ### All lists with commas -/

/-- Items written with their commas are joined by commas, and items in front of others all have a
comma.  So the models of a schema, the properties of a model and the names of its indexed properties
are listed as they were declared, with a comma between neighbours and none at the end; only what is
no property keeps a model from having a list of names. -/
theorem State.commas_stand_between (st : State) :
    (∀ {α : Type} (write : α → String) (xs : List α),
      String.join ((withCommas xs).map (·.written write)) = ",".intercalate (xs.map write)) ∧
    (∀ {α : Type} (xs ys : List α), ys ≠ [] →
      withCommas (xs ++ ys) = xs.map (⟨·, some ","⟩) ++ withCommas ys) ∧
    (∀ s, st.ListsApart (.schema s) "model_and_comma"
      ((st.graph.schema s).slots.map .ofReference)) ∧
    (∀ m, st.ListsApart (.model m) "property_and_comma"
      ((st.graph.model m).slots.map .ofReference)) ∧
    (∀ m, (∀ r ∈ (st.graph.model m).slots, ∃ p, r = .property p) →
      st.ListsApart (.model m) "indexed_property_and_comma"
        ((st.graph.indexedIn m).map .text)) ∧
    (∀ m, (∃ r ∈ (st.graph.model m).slots, ∀ p, r ≠ .property p) →
      (attribute? (.model m) "indexed_property_and_comma").run.run st = (.ok none, st)) :=
  ⟨join_written_withCommas, fun xs _ h => withCommas_append xs h, st.listsApart_models,
    st.listsApart_properties, fun _ => listsApart_indexed,
    fun _ => run_indexedNames_of_not_property⟩

/-- A schema that lists a model twice.  The model lists its last property twice, and another model
lists something that is no property. -/
def bookcase : Graph where
  schemas := [{ slots := [.model ⟨0⟩, .model ⟨1⟩, .model ⟨0⟩] }]
  models := [
    { schema := ⟨0⟩, name := "Book",
      slots := [.property ⟨0⟩, .property ⟨1⟩, .property ⟨2⟩, .property ⟨2⟩] },
    { schema := ⟨0⟩, name := "Shelf", slots := [.property ⟨2⟩, .nothing] }]
  properties := [
    { owner := .model ⟨0⟩, name := "isbn", shape := .typed (.known .string) true, indexed := true },
    { owner := .model ⟨0⟩, name := "title", shape := .typed (.known .string) true },
    { owner := .model ⟨0⟩, name := "place", shape := .toOne (.model ⟨1⟩), indexed := true }]

/-- Three texts, a list that is put behind another, and the views of a schema with one model. -/
theorem State.commas_stand_between_bookcase :
    String.join ((withCommas ["x", "y", "y"]).map (·.written id)) = "x,y,y" ∧
    [2] ≠ [] ∧ withCommas ([1, 2] ++ [2]) = [⟨1, some ","⟩, ⟨2, some ","⟩, ⟨2, none⟩] ∧
    State.ListsApart { graph := bookcase } (.schema ⟨0⟩) "model_and_comma"
      [.model ⟨0⟩, .model ⟨1⟩, .model ⟨0⟩] ∧
    State.ListsApart { graph := bookcase } (.model ⟨1⟩) "property_and_comma"
      [.property ⟨2⟩, .none] ∧
    (∀ r ∈ (bookcase.model ⟨0⟩).slots, ∃ p, r = .property p) ∧
    State.ListsApart { graph := bookcase } (.model ⟨0⟩) "indexed_property_and_comma"
      [.text "isbn", .text "place", .text "place"] ∧
    (∃ r ∈ (bookcase.model ⟨1⟩).slots, ∀ p, r ≠ .property p) ∧
    (attribute? (.model ⟨1⟩) "indexed_property_and_comma").run.run { graph := bookcase } =
      (.ok none, { graph := bookcase }) := by
  obtain ⟨hjoin, happend, hmodels, hproperties, hindexed, hlacking⟩ :=
    commas_stand_between { graph := bookcase }
  have hall : ∀ r ∈ (bookcase.model ⟨0⟩).slots, ∃ p, r = .property p := by
    intro r hr
    have hslots : (bookcase.model ⟨0⟩).slots = (bookcase.listed ⟨0⟩).map .property := rfl
    rw [hslots] at hr
    obtain ⟨p, -, rfl⟩ := List.mem_map.1 hr
    exact ⟨p, rfl⟩
  have hother : ∃ r ∈ (bookcase.model ⟨1⟩).slots, ∀ p, r ≠ .property p :=
    ⟨.nothing, by decide, nofun⟩
  have htwo : [2] ≠ [] := List.cons_ne_nil 2 []
  refine ⟨?_, htwo, ?_, hmodels ⟨0⟩, hproperties ⟨1⟩, hall, hindexed ⟨0⟩ hall, hother,
    hlacking ⟨1⟩ hother⟩
  · rw [hjoin]
    rfl
  · rw [happend [1, 2] [2] htwo]
    rfl

end MobileSchema.Template
