import MobileSchema.Proofs.Source.BundledRendering
import MobileSchema.Proofs.Source.Declaring
import MobileSchema.Proofs.Source.Resolving
import Mathlib.Data.List.Forall2

/-!
# The two sources of a schema

A schema can be written in both languages, and what one source says of its structure the other says
as well: the classes, the names that they declare, the primary keys and the indexed properties.

`SwiftClass.Matches` says so of two classes, as they are written.  It is no matter of course, since
the one class gives the name of its key and lists the names of indexed properties, while the other
marks single declarations, each by what its own owner takes for the key.  `ModelOutline.matches`
finds that two classes match that are made from one outline, provided that its names differ and it
has one key at most, and a valid schema has such outlines.
-/

namespace MobileSchema

/-! ### Classes that match -/

/-- Whether a declaration in Swift is one of a name. -/
def SwiftDeclares (name declaration : String) : Prop :=
  ∃ before ∈ ["@objc dynamic var ", "let ", "private let "], ∃ between ∈ [": ", " = "], ∃ rest,
    declaration = before ++ (name ++ (between ++ rest))

/-- Whether a declaration in Kotlin, behind its marks, is one of a name. -/
def KotlinDeclares (name declaration : String) : Prop :=
  ∃ indexed isKey, ∃ shape : ShapeOutline, ∃ rest,
    declaration = marks indexed isKey ++ (shape.before.android ++ (name ++ (": " ++ rest)))

/-- Whether the classes of a model in both languages agree on their structure; `names` are the names
that they declare, in order. -/
structure SwiftClass.Matches (swift : SwiftClass) (kotlin : KotlinClass) (names : List String) :
    Prop where
  name : swift.name = kotlin.name
  distinct : names.Nodup
  inSwift : List.Forall₂ SwiftDeclares names swift.declarations
  inKotlin : List.Forall₂ KotlinDeclares names kotlin.declarations
  /-- the declaration that is marked as the primary key is that of the key's name -/
  key : ∀ named ∈ names.zip kotlin.declarations,
    carries primaryKeyMark named.2 ↔ swift.key = some named.1
  /-- one declaration is marked if there is a key -/
  keyOnce : kotlin.declarations.countP (carries primaryKeyMark) = if swift.key.isSome then 1 else 0
  /-- the declarations that are marked as indexed are those whose names are listed -/
  index : ∀ named ∈ names.zip kotlin.declarations,
    carries indexMark named.2 ↔ named.1 ∈ swift.indexed
  /-- the names are listed in the order of their declarations, each of them once -/
  order : swift.indexed.Sublist names

/-! ### Classes of one outline -/

/-- Behind the name in Swift there is a type or an initial value. -/
theorem ShapeOutline.between_ios (shape : ShapeOutline) :
    ∃ opening ∈ [": ", " = "], ∃ rest, shape.between.ios = opening ++ rest := by
  cases shape with
  | typed kind required =>
    rw [between, FieldType.between]
    dsimp only
    split
    · exact ⟨": ", by simp, "", rfl⟩
    · exact ⟨" = ", by simp, "RealmOptional<", rfl⟩
  | toOne target => exact ⟨": ", by simp, "", rfl⟩
  | toMany target => exact ⟨" = ", by simp, "List<", rfl⟩
  | inverse target forward isPrivate => exact ⟨" = ", by simp, "LinkingObjects(fromType: ", rfl⟩

/-- Behind the name in Kotlin there is a type. -/
theorem ShapeOutline.between_android (shape : ShapeOutline) :
    ∃ rest, shape.between.android = ": " ++ rest := by
  cases shape with
  | typed kind required => exact ⟨"", rfl⟩
  | toOne target => exact ⟨"", rfl⟩
  | toMany target => exact ⟨"RealmList<", rfl⟩
  | inverse target forward isPrivate => exact ⟨"RealmResults<", rfl⟩

namespace PropertyOutline

/-- A property line in Swift declares its name. -/
theorem swiftDeclares (p : PropertyOutline) : SwiftDeclares p.name p.swift := by
  obtain ⟨opening, hopening, rest, hbetween⟩ := p.shape.between_ios
  refine ⟨_, p.shape.before_ios_mem, opening, hopening,
    rest ++ (p.shape.typeName.ios ++ p.shape.behind.ios), ?_⟩
  rw [swift, p.shape.ios_declared, hbetween, String.append_assoc]

theorem kotlinDeclares (p : PropertyOutline) : KotlinDeclares p.name p.kotlin := by
  obtain ⟨rest, hbetween⟩ := p.shape.between_android
  refine ⟨p.indexed, p.isKey, p.shape, rest ++ (p.shape.typeName.android ++ p.shape.behind.android),
    ?_⟩
  rw [kotlin, p.shape.android_declared, hbetween, String.append_assoc]

end PropertyOutline

namespace ModelOutline

variable {m : ModelOutline}

/-- Whether the names of the properties of a model differ and one of them is the key at most. -/
structure Definite (m : ModelOutline) : Prop where
  names : (m.properties.map (·.name)).Nodup
  key : ∀ p ∈ m.properties, ∀ q ∈ m.properties, p.isKey → q.isKey → p = q

/-- A property is told by its name. -/
theorem Definite.eq_of_name (h : m.Definite) {p q : PropertyOutline} (hp : p ∈ m.properties)
    (hq : q ∈ m.properties) (hname : p.name = q.name) : p = q :=
  List.inj_on_of_nodup_map h.names hp hq hname

/-- A class names the property as its key that is the key. -/
theorem Definite.key_eq_some_iff (h : m.Definite) {p : PropertyOutline} (hp : p ∈ m.properties) :
    m.swiftClass.key = some p.name ↔ p.isKey := by
  show (m.properties.find? (·.isKey)).map (·.name) = some p.name ↔ p.isKey
  rw [Option.map_eq_some_iff]
  constructor
  · rintro ⟨q, hq, hname⟩
    obtain rfl := h.eq_of_name (List.mem_of_find?_eq_some hq) hp hname
    exact List.find?_some hq
  · intro hkey
    obtain ⟨q, hq⟩ := Option.isSome_iff_exists.1 (List.find?_isSome.2 ⟨p, hp, hkey⟩)
    obtain rfl := h.key q (List.mem_of_find?_eq_some hq) p hp (List.find?_some hq) hkey
    exact ⟨q, hq, rfl⟩

/-- A class marks one property as its key, or none if it has no key. -/
theorem Definite.countP_isKey (h : m.Definite) :
    m.properties.countP (·.isKey) = if m.swiftClass.key.isSome then 1 else 0 := by
  rw [List.countP_eq_length_filter]
  rcases hkey : m.swiftClass.key with _ | name
  · have hnone := Option.map_eq_none_iff.1 hkey
    rw [List.filter_eq_nil_iff.2 (List.find?_eq_none.1 hnone)]
    rfl
  · obtain ⟨p, hp, rfl⟩ := Option.map_eq_some_iff.1 hkey
    have hmem := List.mem_of_find?_eq_some hp
    -- the key is the one property of its name
    have hfilter : m.properties.filter (·.isKey) = m.properties.filter (·.name = p.name) := by
      refine List.filter_congr ?_
      intro q hq
      rw [Bool.eq_iff_iff, decide_eq_true_eq]
      constructor
      · intro hkeyq
        rw [h.key q hq p hmem hkeyq (List.find?_some hp)]
      · intro hname
        rw [h.eq_of_name hq hmem hname]
        exact List.find?_some hp
    rw [hfilter, filter_name_eq_singleton h.names hmem]
    rfl

/-- A class lists the names of its indexed properties. -/
theorem Definite.name_mem_indexed_iff (h : m.Definite) {p : PropertyOutline}
    (hp : p ∈ m.properties) : p.name ∈ m.swiftClass.indexed ↔ p.indexed := by
  show p.name ∈ (m.properties.filter (·.indexed)).map (·.name) ↔ p.indexed
  rw [List.mem_map]
  constructor
  · rintro ⟨q, hq, hname⟩
    obtain ⟨hq, hindexed⟩ := List.mem_filter.1 hq
    rw [← h.eq_of_name hq hp hname]
    exact hindexed
  · intro hindexed
    exact ⟨p, List.mem_filter.2 ⟨hp, hindexed⟩, rfl⟩

/-- The classes that are made from an outline match. -/
theorem Definite.matches (h : m.Definite) :
    m.swiftClass.Matches m.kotlinClass (m.properties.map (·.name)) := by
  -- the names beside the declarations are the properties, one by one
  have hnamed : ∀ named ∈ (m.properties.map (·.name)).zip m.kotlinClass.declarations,
      ∃ p ∈ m.properties, named = (p.name, p.kotlin) := by
    intro named hnamed
    rw [show m.kotlinClass.declarations = m.properties.map (·.kotlin) from rfl,
      List.zip_map'] at hnamed
    obtain ⟨p, hp, rfl⟩ := List.mem_map.1 hnamed
    exact ⟨p, hp, rfl⟩
  refine {
    name := rfl, distinct := h.names, inSwift := ?inSwift, inKotlin := ?inKotlin, key := ?key,
    keyOnce := ?keyOnce, index := ?index, order := ?order }
  case inSwift =>
    show List.Forall₂ SwiftDeclares _ (m.properties.map (·.swift))
    rw [List.forall₂_map_left_iff, List.forall₂_map_right_iff, List.forall₂_same]
    exact fun p _ => p.swiftDeclares
  case inKotlin =>
    show List.Forall₂ KotlinDeclares _ (m.properties.map (·.kotlin))
    rw [List.forall₂_map_left_iff, List.forall₂_map_right_iff, List.forall₂_same]
    exact fun p _ => p.kotlinDeclares
  case key =>
    intro named hmem
    obtain ⟨p, hp, rfl⟩ := hnamed named hmem
    rw [p.carries_primaryKeyMark_kotlin, h.key_eq_some_iff hp]
  case keyOnce =>
    show (m.properties.map (·.kotlin)).countP _ = _
    rw [List.countP_map, ← h.countP_isKey]
    exact List.countP_congr fun p _ => by rw [Function.comp_apply, p.carries_primaryKeyMark_kotlin]
  case index =>
    intro named hmem
    obtain ⟨p, hp, rfl⟩ := hnamed named hmem
    rw [p.carries_indexMark_kotlin, h.name_mem_indexed_iff hp]
  case order =>
    exact List.filter_sublist.map _

end ModelOutline

/-! ### Valid schemas -/

variable {g : Graph} {s : SchemaId} {m : ModelId}

/-- Where no name of a model repeats, a name stands for one property. -/
theorem Graph.definite_modelOutline (hnames : (g.listedNames m).Nodup) :
    (g.modelOutline m).Definite where
  names := by
    rw [names_modelOutline]
    exact hnames
  key := by
    intro p hp q hq hkeyp hkeyq
    obtain ⟨p, -, rfl⟩ := List.mem_map.1 hp
    obtain ⟨q, -, rfl⟩ := List.mem_map.1 hq
    -- a model has one primary key
    have hsame : Reference.property p = .property q :=
      (of_decide_eq_true hkeyp).symm.trans (of_decide_eq_true hkeyq)
    cases hsame
    rfl

/-- The sources of a valid schema in the two languages have the classes of its models, in order, and
the two classes of each model agree on their structure.  A line of a class is one of the layout,
with the names as a part of it: a name with line breaks in it does not make more of it. -/
theorem RenderRequest.sources_agree {swift kotlin : RenderRequest} {site site' : Site}
    {settings settings' : Settings} (h : g.validate s = .ok ()) (hkinds : g.HasKinds s)
    (hswift : swift.AsksBundled g site s settings .swift)
    (hkotlin : kotlin.AsksBundled g site' s settings' .kotlin) :
    (swift.render g site).result = .ok (textOfLines
        (g.swiftLines s (whitespaceOf settings).gap (whitespaceOf settings).rest)) ∧
      (kotlin.render g site').result = .ok (textOfLines
        (g.kotlinLines s (whitespaceOf settings').gap (whitespaceOf settings').rest)) ∧
      ∀ m ∈ g.modelsOf s, (g.swiftClass m).Matches (g.kotlinClass m) (g.listedNames m) ∧
        ((g.swiftClass m).key.isSome ↔ (g.model m).primaryKey ≠ .nothing) := by
  obtain ⟨hclosed, -, hlisted⟩ := Graph.validate_eq_ok_iff.1 h
  have hpointed := hclosed.wellPointed
  refine ⟨(render_bundled hpointed hkinds hswift).1, (render_bundled hpointed hkinds hkotlin).1, ?_⟩
  intro m hm
  constructor
  · -- both classes show one outline of the model, and names are given once in it
    have hmatches := (Graph.definite_modelOutline (hlisted m hm)).matches
    rw [Graph.names_modelOutline] at hmatches
    rw [hclosed.swiftClass_eq hm, hclosed.kotlinClass_eq hm]
    exact hmatches
  · show (g.keyName? m).isSome ↔ _
    rw [Graph.keyName?]
    split <;> simp [*]

/-- The two sources of a household, with a primary key, an indexed property and a backlink. -/
theorem RenderRequest.sources_agree_household :
    Graph.household.validate ⟨0⟩ = .ok () ∧ Graph.household.HasKinds ⟨0⟩ ∧
    (usual ⟨0⟩ .swift).AsksBundled Graph.household ⟨{}, {}⟩ ⟨0⟩ {} .swift ∧
    (usual ⟨0⟩ .kotlin).AsksBundled Graph.household ⟨{}, {}⟩ ⟨0⟩ {} .kotlin ∧
    (Graph.household.swiftClass ⟨0⟩).Matches (Graph.household.kotlinClass ⟨0⟩) ["name", "cats"] ∧
    (Graph.household.swiftClass ⟨0⟩).key = some "name" ∧
    (Graph.household.swiftClass ⟨1⟩).Matches (Graph.household.kotlinClass ⟨1⟩) ["name", "keepers"] ∧
    (Graph.household.swiftClass ⟨1⟩).indexed = ["name"] := by
  have hvalid : Graph.household.validate ⟨0⟩ = .ok () := by cbv
  have hkinds : Graph.household.HasKinds ⟨0⟩ := by decide
  have hswift := asksBundled_usual hvalid ⟨{}, {}⟩ .swift
  have hkotlin := asksBundled_usual hvalid ⟨{}, {}⟩ .kotlin
  have hagree := (sources_agree hvalid hkinds hswift hkotlin).2.2
  exact ⟨hvalid, hkinds, hswift, hkotlin, (hagree ⟨0⟩ (by decide)).1, by cbv,
    (hagree ⟨1⟩ (by decide)).1, by cbv⟩

end MobileSchema
