import MobileSchema.Proofs.Answers
import MobileSchema.Proofs.Schema.Pointing
import MobileSchema.Proofs.Source.Lines
import MobileSchema.Schema.Declaration
import MobileSchema.Schema.View

/-!
# The layout of sources

What the source of a schema looks like, line by line: a header, the imports that the schema needs,
and a class for each of its models.  Nothing here knows of templates.

White space around the tags of a template can leave empty lines in a source.  They are the parameter
`gap`, which stands wherever a tag stands alone on its line, and `rest` at the end; both are empty
where such white space is trimmed.

The layout asks for what the views of a schema answer.  On a schema whose pointers lead to the right
sorts no view is refused, and all views come to what the layout takes (`anyProperty_eq`,
`indexedNames_eq`, `declarations_eq`).
-/

namespace MobileSchema

/-! ### Classes -/

/-- A text that counts as absent if it is empty. -/
def textIfAny (s : Option String) : Option String := s.filter (· ≠ "")

/-- A class in Swift. -/
structure SwiftClass where
  name : String
  declarations : List String
  /-- the name of the primary key -/
  key : Option String
  /-- the names of the indexed properties -/
  indexed : List String
  deriving DecidableEq, Repr

/-- The lines of a class in Swift. -/
def SwiftClass.lines (gap : List String) (c : SwiftClass) : List String :=
  ["", "class " ++ c.name ++ ": Object \x7b"] ++
  c.declarations.flatMap (fun declaration => gap ++ ["    " ++ declaration]) ++ gap ++
  linesIf gap c.key.isSome [
    "",
    "    override static func primaryKey() -> String? \x7b",
    "        return \"" ++ c.key.getD "" ++ "\"",
    "    \x7d"] ++
  linesIf gap (c.indexed ≠ []) [
    "",
    "    override static func indexedProperties() -> [String] \x7b",
    "        return [" ++ ", ".intercalate (c.indexed.map fun name => "\"" ++ name ++ "\"") ++ "]",
    "    \x7d"] ++
  ["\x7d"]

/-- A class in Kotlin. -/
structure KotlinClass where
  name : String
  /-- the declarations, each with the marks before it -/
  declarations : List String
  deriving DecidableEq, Repr

/-- The lines of a class in Kotlin. -/
def KotlinClass.lines (gap : List String) (c : KotlinClass) : List String :=
  ["", "open class " ++ c.name ++ " : RealmObject() \x7b"] ++
  c.declarations.flatMap (fun declaration => gap ++ ["    " ++ declaration]) ++ gap ++
  ["\x7d"]

/-- The mark of an indexed property. -/
def indexMark : String := "@Index "

/-- Whether a shape is of one of the kinds, if it is one of a typed field. -/
def Shape.hasKind : Shape → Bool
  | .typed kind _ => kind.kind?.isSome
  | _ => true

namespace Graph

/-! ### What sources are made of -/

section Layout

variable (g : Graph) (s : SchemaId) (m : ModelId) (p : PropertyId)

/-- Whether a property is the primary key of its owner. -/
def isKey : Bool :=
  match (g.property p).owner with
  | .model owner =>
    (g.property p).shape.isTyped && (g.model owner).primaryKey = .property p
  | _ => false

/-- The declarations of a property. -/
def declared : PlatformPair String :=
  let name := g.propertyName p
  match (g.property p).shape with
  | .typed kind required =>
    let pair := (kind.kind?.getD .string).fieldType.declaration name required
    { pair with android := (if g.isKey p then primaryKeyMark else "") ++ pair.android }
  | .toOne target => toOneDeclaration name (g.nameAt target)
  | .toMany target => toManyDeclaration name (g.nameAt target)
  | .inverse target forward isPrivate =>
    inverseDeclaration name (g.nameAt target) (g.nameAt forward) isPrivate

/-- The name of the primary key of a model. -/
def keyName? : Option String :=
  if (g.model m).primaryKey = .nothing then none else some (g.nameAt (g.model m).primaryKey)

/-- Whether all typed fields that a schema lists are of one of the kinds. -/
def HasKinds : Prop := ∀ m ∈ g.modelsOf s, ∀ p ∈ g.listed m, (g.property p).shape.hasKind

instance : Decidable (g.HasKinds s) :=
  inferInstanceAs (Decidable (∀ m ∈ g.modelsOf s, ∀ p ∈ g.listed m, (g.property p).shape.hasKind))

/-- The names of the indexed properties of a model. -/
def indexedIn : List String :=
  ((g.listed m).filter fun p => (g.property p).indexed).map g.propertyName

/-- The class of a model in Swift. -/
def swiftClass : SwiftClass where
  name := g.modelName m
  declarations := (g.listed m).map fun p => (g.declared p).ios
  key := g.keyName? m
  indexed := g.indexedIn m

/-- The class of a model in Kotlin. -/
def kotlinClass : KotlinClass where
  name := g.modelName m
  declarations := (g.listed m).map fun p =>
    (if (g.property p).indexed then indexMark else "") ++ (g.declared p).android

/-- Whether some property in a schema passes a test. -/
def hasProperty (test : Property → Bool) : Bool :=
  (g.modelsOf s).any fun m => (g.listed m).any fun p => test (g.property p)

/-- The source of a schema in Swift. -/
def swiftLines (gap rest : List String) : List String :=
  let module := textIfAny (g.schema s).moduleName
  ["//", "// Generated by realmgen. Do not edit."] ++
  linesIf gap module.isSome ["// Module: " ++ module.getD ""] ++
  ["//", "", "import Foundation", "import RealmSwift"] ++
  (g.modelsOf s).flatMap (fun m => gap ++ (g.swiftClass m).lines gap) ++ rest

/-- The source of a schema in Kotlin. -/
def kotlinLines (gap rest : List String) : List String :=
  let package := textIfAny (g.schema s).packageName
  ["// Generated by realmgen. Do not edit."] ++
  linesIf gap package.isSome ["package " ++ package.getD ""] ++
  [""] ++
  linesIf gap (g.hasProperty s (·.shape.isListRelation)) ["import io.realm.RealmList"] ++
  ["import io.realm.RealmObject"] ++
  linesIf gap (g.hasProperty s (·.shape.isBacklink)) ["import io.realm.RealmResults"] ++
  linesIf gap (g.hasProperty s (·.indexed)) ["import io.realm.annotations.Index"] ++
  linesIf gap (g.hasProperty s (·.shape.isBacklink))
    ["import io.realm.annotations.LinkingObjects"] ++
  linesIf gap ((g.modelsOf s).any fun m => (g.model m).primaryKey ≠ .nothing)
    ["import io.realm.annotations.PrimaryKey"] ++
  linesIf gap ((g.modelsOf s).any (g.hasKind · .date)) ["import java.util.Date"] ++
  (g.modelsOf s).flatMap (fun m => gap ++ (g.kotlinClass m).lines gap) ++ rest

/-- The source of a schema in a language. -/
def sourceLines (gap rest : List String) : Language → List String
  | .swift => g.swiftLines s gap rest
  | .kotlin => g.kotlinLines s gap rest

end Layout

/-! ### Views -/

variable {g : Graph} {s : SchemaId} {m : ModelId} {p : PropertyId}

/-- Asking whether any property of a model passes a test is not refused on a well pointed schema. -/
theorem anyProperty_eq (h : g.WellPointed s) (hm : m ∈ g.modelsOf s) (asked : String)
    (test : Property → Bool) :
    g.anyProperty m asked test = .ok ((g.listed m).any fun p => test (g.property p)) := by
  rw [anyProperty, h.slots_model hm]
  exact anyM_map_eq_ok fun _ _ => rfl

/-- Asking whether any model passes a test is not refused on a well pointed schema. -/
theorem anyModel_eq {ε : Type} (h : g.WellPointed s) (refused : SchemaFault → ε) (asked : String)
    {f : ModelId → Except ε Bool} {test : ModelId → Bool} (depth : Nat)
    (hf : ∀ m ∈ g.modelsOf s, f m = .ok (test m)) :
    g.anyModel refused asked f (depth + 1) s = .ok ((g.modelsOf s).any test) := by
  rw [anyModel, h.slots_schema]
  exact anyM_map_eq_ok hf

/-- What the template is told about list relations. -/
theorem schemaHasListRelations_eq (h : g.WellPointed s) :
    g.schemaHasListRelations s = .ok (g.hasProperty s (·.shape.isListRelation)) :=
  anyModel_eq h id _ _ fun _ hm => anyProperty_eq h hm _ _

theorem schemaHasBacklinks_eq (h : g.WellPointed s) :
    g.schemaHasBacklinks s = .ok (g.hasProperty s (·.shape.isBacklink)) :=
  anyModel_eq h id _ _ fun _ hm => anyProperty_eq h hm _ _

theorem schemaHasIndexed_eq (h : g.WellPointed s) :
    g.schemaHasIndexed s = .ok (g.hasProperty s (·.indexed)) :=
  anyModel_eq h id _ _ fun _ hm => anyProperty_eq h hm _ _

theorem hasPrimaryKeys_eq (h : g.WellPointed s) :
    g.hasPrimaryKeys s = .ok ((g.modelsOf s).any fun m => (g.model m).primaryKey ≠ .nothing) := by
  rw [hasPrimaryKeys, h.slots_schema]
  exact anyM_map_eq_ok fun _ _ => rfl

/-- What the template is told about a kind. -/
theorem schemaUsesKind_eq {ε : Type} (h : g.WellPointed s) (refused : SchemaFault → ε)
    (kind : FieldKind) :
    g.schemaUsesKind refused s (.ok kind) = .ok ((g.modelsOf s).any (g.hasKind · kind)) :=
  anyModel_eq h refused _ _ fun _ _ => rfl

theorem indexedNames_of_properties (h : ∀ r ∈ (g.model m).slots, ∃ p, r = .property p) :
    g.indexedNames m = .ok (g.indexedIn m) := by
  have hslots : (g.model m).slots = (g.listed m).map .property :=
    eq_map_filterMap (f := Reference.property?) (fun _ => rfl) h
  have hfilter : ((g.listed m).map Reference.property).filterM
      (g.ofProperty "indexed" (·.indexed)) =
      .ok (((g.listed m).filter fun p => (g.property p).indexed).map .property) := by
    apply filterM_map_eq_ok
    intro p
    rfl
  rw [indexedNames, hslots, hfilter]
  show g.namesOf _ = _
  rw [g.namesOf_eq_ok (f := g.nameAt)]
  · simp [indexedIn, Function.comp_def]
  · intro r hr
    obtain ⟨p, -, rfl⟩ := List.mem_map.1 hr
    rfl

/-- What the template is told about the names of a model's indexed properties. -/
theorem indexedNames_eq (h : g.WellPointed s) (hm : m ∈ g.modelsOf s) :
    g.indexedNames m = .ok (g.indexedIn m) :=
  indexedNames_of_properties (h.properties m hm)

/-- What is no property cannot be asked whether it is indexed. -/
theorem indexedNames_eq_error (h : ∃ r ∈ (g.model m).slots, ∀ p, r ≠ .property p) :
    ∃ typeName, g.indexedNames m = .error (.noAttribute typeName "indexed") := by
  have hrefused : ∃ r ∈ (g.model m).slots, ∃ fault,
      g.ofProperty "indexed" (·.indexed) r = .error fault := by
    obtain ⟨r, hr, hno⟩ := h
    cases r with
    | property p => exact absurd rfl (hno p)
    | _ => exact ⟨_, hr, _, rfl⟩
  obtain ⟨r, -, fault, hr, hfilter⟩ := filterM_eq_error hrefused
  have hfault : ∃ typeName, fault = .noAttribute typeName "indexed" := by
    cases r with
    | property p => cases hr
    | _ => exact ⟨_, (Except.error.inj hr).symm⟩
  obtain ⟨typeName, rfl⟩ := hfault
  refine ⟨typeName, ?_⟩
  rw [indexedNames, hfilter]
  rfl

theorem hasIndexed_eq (h : g.WellPointed s) (hm : m ∈ g.modelsOf s) :
    g.hasIndexed m = .ok (g.indexedIn m ≠ []) := by
  rw [hasIndexed, anyProperty_eq h hm]
  congr 1
  rw [Bool.eq_iff_iff]
  simp [indexedIn, List.filter_eq_nil_iff]

/-! ### Declarations -/

theorem markBefore_eq (h : (g.property p).WellPointed) :
    g.markBefore p = .ok (if g.isKey p then primaryKeyMark else "") := by
  obtain ⟨owner, howner⟩ := h.owner
  rw [markBefore, isPrimaryKey, isKey, howner]
  cases (g.property p).shape.isTyped <;> simp [primaryKeyOf, Except.map]

/-- A property whose kind is one of the kinds, if it has a kind, has declarations. -/
theorem declarations_eq (h : (g.property p).WellPointed) (hkind : (g.property p).shape.hasKind) :
    g.declarations p = .ok (g.declared p) := by
  rw [declarations, declared]
  rcases hshape : (g.property p).shape with ⟨kind, required⟩ | target | target |
    ⟨target, forward, isPrivate⟩
  · rw [hshape] at hkind
    obtain ⟨known, hknown⟩ := Option.isSome_iff_exists.1 hkind
    simp only [hknown, markBefore_eq h]
    rfl
  · obtain ⟨t, rfl⟩ := h.target target (by rw [hshape]; rfl)
    rfl
  · obtain ⟨t, rfl⟩ := h.target target (by rw [hshape]; rfl)
    rfl
  · obtain ⟨t, rfl⟩ := h.target target (by rw [hshape]; rfl)
    obtain ⟨q, rfl⟩ := h.forward _ _ _ hshape
    rfl

end Graph

end MobileSchema
