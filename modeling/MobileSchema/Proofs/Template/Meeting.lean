import MobileSchema.Proofs.Template.Abreast

/-!
# What templates meet in a schema

A template that asks for attributes only, from a schema on, meets objects of a few sorts
(`State.Meets`).  What it finds in them, whether they count as true and what is written for them
depends on nothing but what is alike in two states.  So this is `Repeats`, even where it is refused:
nothing has to be known about where the pointers of the schema lead.
-/

namespace MobileSchema.Template

variable {α β : Type} {base st later : State} {o data receiver : Object} {word : String}

/-! ### Objects that are met -/

/-- What a template can meet if it asks for attributes, from a schema on.  A list is met if all that
it holds, and will hold, is met by then. -/
inductive State.Meets : State → Object → Prop
  | undefined {st : State} {cause : Absence} (h : cause.isEmptyText = false) :
    State.Meets st (.undefined cause)
  | none {st : State} : State.Meets st .none
  | bool {st : State} (b : Bool) : State.Meets st (.bool b)
  | number {st : State} (n : Int) : State.Meets st (.number n)
  | text {st : State} (s : String) : State.Meets st (.text s)
  | kind {st : State} (k : FieldKind) : State.Meets st (.kind k)
  | kinds {st : State} : State.Meets st .kinds
  | schema {st : State} (s : SchemaId) : State.Meets st (.schema s)
  | model {st : State} (m : ModelId) : State.Meets st (.model m)
  | property {st : State} (p : PropertyId) : State.Meets st (.property p)
  | pair {st : State} (ios android : String) : State.Meets st (.pair (.text ios) (.text android))
  | withComma {st : State} {data : Object} (h : State.Meets st data) (comma : Option String) :
    State.Meets st (.withComma data comma)
  | method {st : State} {receiver : Object} (h : State.Meets st receiver) (m : Method) :
    State.Meets st (.method receiver m)
  | list {st : State} {r : ListRef}
    (h : ∀ later, st.GrowsTo later → ∀ o ∈ later.contents r, State.Meets later o) :
    State.Meets st (.list r)

namespace State.Meets

theorem mono (h : st.Meets o) (hst : st.GrowsTo later) : later.Meets o := by
  induction h with
  | undefined h => exact .undefined h
  | none => exact .none
  | bool b => exact .bool b
  | number n => exact .number n
  | text s => exact .text s
  | kind k => exact .kind k
  | kinds => exact .kinds
  | schema s => exact .schema s
  | model m => exact .model m
  | property p => exact .property p
  | pair ios android => exact .pair ios android
  | withComma _ comma ih => exact .withComma (ih hst) comma
  | method _ m ih => exact .method (ih hst) m
  | list h => exact .list fun last hlast => h last (hst.trans hlast)

/-- Whatever a reference leads to can be met. -/
theorem ofReference (r : Reference) : st.Meets (.ofReference r) := by
  cases r with
  | nothing => exact .none
  | schema s => exact .schema s
  | model m => exact .model m
  | property p => exact .property p
  | text s => exact .text s

theorem ofText? (text : Option String) : st.Meets (.ofText? text) := by
  cases text with
  | none => exact .none
  | some s => exact .text s

/-- The list of a schema's models can be met, and what is in it. -/
theorem models (s : SchemaId) : st.Meets (.list (.models s)) := by
  refine .list fun later _ o ho => ?_
  obtain ⟨r, -, rfl⟩ := List.mem_map.1 ho
  exact ofReference r

theorem properties (m : ModelId) : st.Meets (.list (.properties m)) := by
  refine .list fun later _ o ho => ?_
  obtain ⟨r, -, rfl⟩ := List.mem_map.1 ho
  exact ofReference r

end State.Meets

/-! ### What is found -/

/-- Whether what was found, if anything was, is met. -/
def State.Finds (st : State) (found : Option Object) : Prop := ∀ o, found = some o → st.Meets o

theorem State.finds_some (h : st.Meets o) : st.Finds (some o) :=
  fun _ ho => Option.some.inj ho ▸ h

theorem repeats_found (h : base.Meets o) : Repeats base State.Finds (pure (some o)) :=
  .pure fun _ hlater => State.finds_some (h.mono hlater)

theorem repeats_notFound : Repeats base State.Finds (pure none) := .pure fun _ _ => nofun

/-! ### Lists -/

/-- A new list is one more behind the lists that are there. -/
theorem repeats_newList (items : List Object) :
    Repeats base (fun later o => ∃ r, o = .list r ∧ later.Holds r items) (newList items) := by
  intro st st' _ halike
  rw [run_newList, run_newList, halike.lists]
  exact .answer (halike.withList items) (st.growsTo_withList items)
    ⟨rfl, _, rfl, st.holds_withList items⟩

/-- A new list of what can be met can be met. -/
theorem repeats_newList_meets {items : List Object} (h : ∀ o ∈ items, base.Meets o) :
    Repeats base State.Meets (newList items) := by
  refine (repeats_newList items).imp fun later o hlater hlist => ?_
  obtain ⟨r, rfl, hholds⟩ := hlist
  refine .list fun last hlast o ho => ?_
  rw [hholds last hlast] at ho
  exact (h o ho).mono (hlater.trans hlast)

theorem repeats_newCommaList {items : List Object} (h : ∀ o ∈ items, base.Meets o) :
    Repeats base State.Meets (newCommaList items) := by
  refine repeats_newList_meets fun o ho => ?_
  obtain ⟨item, hitem, rfl⟩ := List.mem_map.1 ho
  refine .withComma (h _ ?_) _
  rw [← map_data_withCommas items]
  exact List.mem_map_of_mem hitem

/-- The contents of a list that is met, in a new list with commas. -/
theorem repeats_newCommaList_contents {r : ListRef} (h : base.Meets (.list r)) :
    Repeats base State.Finds (do return some (← newCommaList (← contents r))) := by
  refine (repeats_contents r).bind fun mid items hmid hitems => ?_
  cases h with
  | list h =>
    have hmeets : ∀ o ∈ items, mid.Meets o := hitems ▸ h mid hmid
    exact (repeats_newCommaList hmeets).bind fun _ _ _ hlist => repeats_found hlist

/-! ### Attributes of the objects of a schema -/

theorem repeats_truthAttribute (a : Graph → Except SchemaFault Bool) :
    Repeats base State.Finds (truthAttribute a) :=
  repeats_unlessLacking (repeats_currentGraph.bind fun _ _ _ _ =>
    (repeats_ask _).bind fun _ b _ _ => .pure fun _ _ => .bool b)

theorem repeats_referenceAttribute (r : Reference) :
    Repeats base State.Finds (referenceAttribute r) :=
  repeats_found (.ofReference r)

/-- The methods of what can be met can be met. -/
theorem finds_methodOf? {all : List α} {nameOf : α → String} {method : α → Method}
    (h : st.Meets receiver) : st.Finds (methodOf? receiver all nameOf method word) := by
  intro o ho
  rw [methodOf?, Option.map_eq_some_iff] at ho
  obtain ⟨m, -, rfl⟩ := ho
  exact .method h _

/-- The attributes of a schema are the same in alike states. -/
theorem repeats_schemaAttribute (s : SchemaId) (word : String) :
    Repeats base State.Finds (schemaAttribute? s word) := by
  refine repeats_currentGraph.bind fun mid g _ _ => ?_
  split
  · exact repeats_found (.ofText? _)
  · exact repeats_found (.ofText? _)
  · exact repeats_found (.models s)
  · exact repeats_newCommaList_contents (.models s)
  · exact repeats_truthAttribute _
  · exact repeats_truthAttribute _
  · exact repeats_truthAttribute _
  · exact repeats_truthAttribute _
  · exact .pure fun _ _ => finds_methodOf? (.schema s)

theorem meets_texts (texts : List String) : ∀ o ∈ texts.map Object.text, st.Meets o := by
  intro o ho
  obtain ⟨s, -, rfl⟩ := List.mem_map.1 ho
  exact .text s

theorem repeats_modelAttribute (m : ModelId) (word : String) :
    Repeats base State.Finds (modelAttribute? m word) := by
  refine repeats_currentGraph.bind fun mid g _ _ => ?_
  dsimp only
  split
  · exact repeats_found (.text _)
  · exact repeats_found (.schema _)
  · exact repeats_found (.properties m)
  · exact repeats_referenceAttribute _
  · exact repeats_newCommaList_contents (.properties m)
  · exact repeats_unlessLacking ((repeats_ask _).bind fun _ _ _ _ =>
      repeats_newList_meets (meets_texts _))
  · exact repeats_unlessLacking
      ((repeats_ask _).bind fun _ _ _ _ => repeats_newCommaList (meets_texts _))
  · exact repeats_truthAttribute _
  · exact repeats_truthAttribute _
  · exact repeats_truthAttribute _
  · exact .pure fun _ _ => finds_methodOf? (.model m)

theorem repeats_shapeAttribute (p : PropertyId) (word : String) :
    Repeats base State.Finds (shapeAttribute? p word) := by
  refine repeats_currentGraph.bind fun mid g _ _ => ?_
  split
  · exact repeats_found (.kind _)
  · exact repeats_found (.text _)
  · exact repeats_found (.bool _)
  · exact repeats_truthAttribute _
  · exact repeats_referenceAttribute _
  · exact repeats_referenceAttribute _
  · exact repeats_referenceAttribute _
  · exact repeats_referenceAttribute _
  · exact repeats_found (.bool _)
  · exact repeats_notFound

theorem repeats_propertyAttribute (p : PropertyId) (word : String) :
    Repeats base State.Finds (propertyAttribute? p word) := by
  refine repeats_currentGraph.bind fun mid g _ _ => ?_
  dsimp only
  split
  · exact repeats_found (.text _)
  · exact repeats_referenceAttribute _
  · exact repeats_found (.bool _)
  · exact repeats_found (.bool _)
  · exact repeats_found (.bool _)
  · exact repeats_found (.bool _)
  · exact repeats_unlessLacking ((repeats_ask _).bind fun _ s _ _ => .pure fun _ _ => .text s)
  · exact repeats_found (.method (.property p) _)
  · exact repeats_found (.method (.property p) _)
  · exact repeats_shapeAttribute p _

/-! ### Attributes of all that is met -/

theorem finds_plainMethod? (h : st.Meets o) : st.Finds (plainMethod? o word) := by
  intro found hfound
  rw [plainMethod?, Option.ite_none_right_eq_some] at hfound
  exact Option.some.inj hfound.2 ▸ .method h _

theorem finds_kindNamed? : st.Finds (kindNamed? word) := by
  intro o ho
  rw [kindNamed?, Option.map_eq_some_iff] at ho
  obtain ⟨k, -, rfl⟩ := ho
  exact .kind k

theorem finds_kindAttribute? (k : FieldKind) : st.Finds (kindAttribute? k word) := by
  unfold kindAttribute?
  split
  · exact State.finds_some (.text _)
  · exact State.finds_some (.text _)
  · exact finds_kindNamed?

/-- An object that is met is no fraction. -/
theorem finds_numberAttribute? (h : st.Meets o) : st.Finds (numberAttribute? o word) := by
  unfold numberAttribute?
  split
  · exact State.finds_some (.number _)
  · exact State.finds_some (.number _)
  · exact State.finds_some (.number _)
  · exact State.finds_some (.number _)
  · cases h
  · cases h
  · nofun

theorem finds_orElse {found other : Option Object} (h : st.Finds found) (h' : st.Finds other) :
    st.Finds (found <|> other) := by
  cases found with
  | none => exact h'
  | some _ => exact h

/-- Whatever is met, its attributes are the same in alike states and can be met. -/
theorem repeats_attribute (h : base.Meets o) (word : String) :
    Repeats base State.Finds (attribute? o word) := by
  unfold attribute?
  split
  · exact .throw _
  · exact repeats_schemaAttribute _ word
  · exact repeats_modelAttribute _ word
  · exact repeats_propertyAttribute _ word
  · cases h
  · exact .pure fun _ hlater =>
      finds_orElse (finds_kindAttribute? _) (finds_plainMethod? (h.mono hlater))
  · exact .pure fun _ _ => finds_kindNamed?
  · cases h with
    | withComma hdata _ => exact repeats_found hdata
  · exact repeats_found (.ofText? _)
  · cases h with
    | pair ios _ => exact repeats_found (.text ios)
  · cases h with
    | pair _ android => exact repeats_found (.text android)
  · exact repeats_found (.method h _)
  · exact repeats_found (.method h _)
  -- spans, groups, tables and parts of templates are not met
  · cases h
  · cases h
  · cases h
  · cases h
  · cases h
  · cases h
  · cases h
  · cases h
  · cases h
  · cases h
  · cases h
  · cases h
  · exact .pure fun _ hlater =>
      finds_orElse (finds_numberAttribute? (h.mono hlater)) (finds_plainMethod? (h.mono hlater))

/-- Whatever is met, its elements are the same in alike states and can be met. -/
theorem repeats_element (h : base.Meets o) (word : String) :
    Repeats base State.Finds (element? o (.text word)) := by
  cases h with
  | kinds => exact .pure fun _ _ => finds_kindNamed?
  | _ => exact repeats_notFound

/-- What a template finds under a name in what it meets is met as well. -/
theorem repeats_member (h : base.Meets o) (word : String) :
    Repeats base State.Meets (memberOf o word) := by
  rw [memberOf]
  refine (repeats_attribute h word).bind fun mid found hmid hfound => ?_
  cases found with
  | some found => exact .pure fun _ hlater => (hfound found rfl).mono hlater
  | none =>
    refine (repeats_element (h.mono hmid) word).bind fun mid found hmid hfound => ?_
    cases found with
    | some found => exact .pure fun _ hlater => (hfound found rfl).mono hlater
    | none => exact repeats_currentGraph.bind fun _ _ _ _ => .pure fun _ _ => .undefined rfl

/-! ### Truth -/

theorem repeats_length (h : base.Meets o) : Repeats base (fun _ _ => True) (length? o) := by
  cases h with
  | undefined h => 
    simp only [length?, items?, h]
    exact .throw _
  | list h => 
    refine .bind (Q := fun _ _ => True) ?_ fun _ _ _ _ => .pure fun _ _ => trivial
    exact (repeats_contents _).bind fun _ _ _ _ => .pure fun _ _ => trivial
  | kinds => exact .pure fun _ _ => trivial
  | _ => exact .pure fun _ _ => trivial

/-- Whether what is met counts as true is the same in alike states. -/
theorem repeats_truth (h : base.Meets o) : Repeats base (fun _ _ => True) (truthOf o) := by
  unfold truthOf
  split
  · exact .pure fun _ _ => trivial
  · exact .pure fun _ _ => trivial
  · exact .pure fun _ _ => trivial
  · exact .pure fun _ _ => trivial
  · exact .pure fun _ _ => trivial
  · refine (repeats_length h).bind fun _ n _ _ => ?_
    cases n <;> exact .pure fun _ _ => trivial

/-! ### What is written -/

theorem repeats_numberText (n : Int) : Repeats base (fun _ _ => True) (numberText n) := by
  rw [numberText]
  split
  · exact .pure fun _ _ => trivial
  · exact .throw _

/-- A list is shown with the items that it has by then, and they are met. -/
theorem repeats_shown (depth : Nat) : ∀ (base : State) (lists : List ListRef) (dicts : List Nat)
    (o : Object), base.Meets o →
      Repeats base (fun _ _ => True) (shownAt depth lists dicts o) := by
  -- on the bound; an object is shown with those in it at a lower bound
  induction depth with
  | zero => exact fun _ _ _ _ _ => .throw _
  | succ depth ih =>
    intro base lists dicts o h
    cases h with
    | undefined h => exact .pure fun _ _ => trivial
    | none => exact .pure fun _ _ => trivial
    | bool b => exact .pure fun _ _ => trivial
    | number n => exact repeats_numberText n
    | text s => exact .pure fun _ _ => trivial
    | kind k => exact .pure fun _ _ => trivial
    | kinds => exact .pure fun _ _ => trivial
    | schema s =>
      exact repeats_currentGraph.bind fun _ _ _ _ => (repeats_ask _).imp fun _ _ _ _ => trivial
    | model m =>
      exact repeats_currentGraph.bind fun _ _ _ _ => (repeats_ask _).imp fun _ _ _ _ => trivial
    | property p => exact repeats_currentGraph.bind fun _ _ _ _ => .pure fun _ _ => trivial
    | pair ios android =>
      refine (ih base lists dicts (.text ios) (.text ios)).bind fun mid _ _ _ => ?_
      exact (ih mid lists dicts (.text android) (.text android)).bind fun _ _ _ _ =>
        .pure fun _ _ => trivial
    | withComma h comma =>
      exact (ih base lists dicts _ h).bind fun _ _ _ _ => .pure fun _ _ => trivial
    | @method _ receiver h m =>
      refine repeats_currentGraph.bind fun mid g hmid _ => ?_
      have hshown := ih mid lists dicts receiver (h.mono hmid)
      dsimp only
      split
      · exact .pure fun _ _ => trivial
      · split
        · exact .pure fun _ _ => trivial
        · exact hshown.bind fun _ _ _ _ => .pure fun _ _ => trivial
    | @list _ r h =>
      show Repeats base _ (if lists.contains r then _ else _)
      split
      · exact .pure fun _ _ => trivial
      · -- the items are looked up only now, and all of them are met
        refine (repeats_contents r).bind fun mid items hmid hitems => ?_
        subst hitems
        have hshown := Repeats.mapM fun o ho => ih mid (r :: lists) dicts o (h mid hmid o ho)
        exact hshown.bind fun _ _ _ _ => .pure fun _ _ => trivial

/-- What is written for what is met is the same in alike states. -/
theorem repeats_written (h : base.Meets o) : Repeats base (fun _ _ => True) (writtenOf o) := by
  unfold writtenOf
  split
  · exact .throw _
  · split
    · exact .pure fun _ _ => trivial
    · exact .throw _
  · exact .pure fun _ _ => trivial
  · exact .pure fun _ _ => trivial
  · exact .pure fun _ _ => trivial
  · exact .pure fun _ _ => trivial
  · exact .pure fun _ _ => trivial
  · exact repeats_shown holdingLimit base [] [] _ h

/-- What is met is written as a text where pages are not made safe. -/
theorem repeats_shielded (h : base.Meets o) :
    Repeats base (fun _ part => ∃ s, part = .text s) (shieldedOf false o) := by
  have hshielded : shieldedOf false o = do return .text (← writtenOf o) := by cases h <;> rfl
  rw [hshielded]
  exact (repeats_written h).bind fun _ s _ _ => .pure fun _ _ => ⟨s, rfl⟩

end MobileSchema.Template
