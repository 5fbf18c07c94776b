import MobileSchema.Proofs.Source.BundledRendering
import MobileSchema.Proofs.Source.Declaring
import MobileSchema.Proofs.Source.Resolving

/-!
# The imports of a source in Kotlin

A source imports what its property lines need and nothing else, each of it once
(`RenderRequest.imports_fit`).  The template does not look at these lines: it asks whether the
schema has list relations, backlinks, indexed properties, primary keys and dates.  So what it asks
for has to come to what the lines show, whatever the names in them look like.

A line is taken as the layout has it, with the names that are a part of it.  The import lines can be
told from all others by their beginning, so that they are a list of their own
(`Graph.filter_isImport_kotlinLines`), in which each stands under its condition.
-/

namespace MobileSchema

/-! ### What lines show -/

/-- Whether a line in Kotlin, behind its marks, is the declaration of some name and some shape that
passes a test. -/
def Declares (test : ShapeOutline → Bool) (line : String) : Prop :=
  ∃ indexed isKey, ∃ shape : ShapeOutline, ∃ name,
    test shape ∧ line = marks indexed isKey ++ (shape.declared name).android

/-- Whether a line in Kotlin, behind its marks, declares a variable of a name and a type. -/
def HasType (name type line : String) : Prop :=
  ∃ indexed isKey, ∃ marker ∈ ["", "?"], ∃ initial,
    line = marks indexed isKey ++ ("var " ++ (name ++ (": " ++ (type ++ (marker ++ (" = " ++
      initial))))))

/-- Which sort of relation a line declares does not depend on how the line is cut. -/
theorem ShapeOutline.sort_eq_of_declared_eq {shape shape' : ShapeOutline} {name name' : String}
    (h : (shape.declared name).android = (shape'.declared name').android) :
    shape.isListRelation = shape'.isListRelation ∧ shape.isBacklink = shape'.isBacklink := by
  rw [android_declared, android_declared] at h
  exact sort_eq_of_before_append h

namespace PropertyOutline

variable {p : PropertyOutline}

/-- A property line declares a shape that passes a test just if the property's shape does. -/
theorem declares_iff {test : ShapeOutline → Bool}
    (htest : ∀ {shape shape' : ShapeOutline} {name name' : String},
      (shape.declared name).android = (shape'.declared name').android → test shape = test shape') :
    Declares test p.kotlin ↔ test p.shape := by
  constructor
  · rintro ⟨indexed, isKey, shape, name, hshape, hline⟩
    obtain ⟨-, -, hdeclared⟩ :=
      marks_append_inj (p.shape.unmarked_declared p.name) (shape.unmarked_declared name) hline
    rw [htest hdeclared]
    exact hshape
  · intro h
    exact ⟨p.indexed, p.isKey, p.shape, p.name, h, rfl⟩

/-- No other type is written like the one of dates. -/
theorem kind_eq_date_of_type {kind : FieldKind} {required : Bool} {marker initial : String}
    (h : kind.fieldType.typeName.android ++ (kind.fieldType.behind required).android =
      "Date" ++ (marker ++ (" = " ++ initial))) : kind = .date := by
  rw [← String.toList_inj] at h
  cases kind <;> simp [FieldKind.fieldType] at h ⊢

/-- A property line has the type of dates just if the field is a date. -/
theorem hasType_date_iff {kind : FieldKind} {required : Bool}
    (hshape : p.shape = .typed (.known kind) required) :
    HasType p.name "Date" p.kotlin ↔ kind = .date := by
  have hdeclared : (p.shape.declared p.name).android = "var " ++ (p.name ++ (": " ++
      (kind.fieldType.typeName.android ++ (kind.fieldType.behind required).android))) := by
    rw [hshape, ShapeOutline.android_declared]
    rfl
  constructor
  · rintro ⟨indexed, isKey, marker, -, initial, hline⟩
    have hunmarked : ∀ rest, Unmarked ("var " ++ rest) := fun rest => by simp [Unmarked]
    rw [kotlin, hdeclared] at hline
    obtain ⟨-, -, hline⟩ := marks_append_inj (hunmarked _) (hunmarked _) hline
    rw [String.append_right_inj, String.append_right_inj, String.append_right_inj] at hline
    exact kind_eq_date_of_type hline
  · rintro rfl
    refine ⟨p.indexed, p.isKey, if required then "" else "?", ?_, ?_⟩
    · cases required <;> simp
    · rw [kotlin, hdeclared]
      cases required
      · exact ⟨"null", rfl⟩
      · exact ⟨"Date()", rfl⟩

end PropertyOutline

/-! ### Import lines -/

/-- Whether a line is one of an import. -/
def isImport (line : String) : Bool := "import ".toList.isPrefixOf line.toList

/-- Whether lines import something exactly if it is needed, and not twice. -/
def ImportsIff (lines : List String) (name : String) (needed : Prop) : Prop :=
  ("import " ++ name ∈ lines ↔ needed) ∧ lines.count ("import " ++ name) ≤ 1

/-- The import lines of names that stand under conditions. -/
def importLines (table : List (Bool × String)) : List String :=
  table.flatMap fun row => if row.1 then ["import " ++ row.2] else []

/-- The import lines, each under its condition. -/
theorem importLines_eq_map (table : List (Bool × String)) :
    importLines table = (table.filter (·.1)).map fun row => "import " ++ row.2 := by
  induction table with
  | nil => rfl
  | cons row table ih =>
    rw [importLines, List.flatMap_cons, ← importLines, ih, List.filter_cons]
    cases row.1 <;> rfl

/-- Where names stand under conditions and no name twice, a name is imported under its condition. -/
theorem importsIff_of_mem {table : List (Bool × String)} (hnames : (table.map (·.2)).Nodup)
    {condition : Bool} {name : String} (hmem : (condition, name) ∈ table) {lines : List String}
    (hlines : lines.filter isImport = importLines table) : ImportsIff lines name condition := by
  rw [importLines_eq_map] at hlines
  -- the row of a name is the only one, and so the line that imports it stands there once
  have hrows : ∀ row ∈ table, row.2 = name → row = (condition, name) := by
    intro row hrow hname
    exact List.inj_on_of_nodup_map hnames hrow hmem hname
  have hdistinct : ((table.filter (·.1)).map fun row => "import " ++ row.2).Nodup := by
    have hmade : ((table.filter (·.1)).map (·.2)).Nodup := hnames.sublist (List.filter_sublist.map _)
    have hinjective : Function.Injective ("import " ++ · : String → String) :=
      fun _ _ h => (String.append_right_inj _).1 h
    have hmap := hmade.map hinjective
    rwa [List.map_map] at hmap
  have himport : isImport ("import " ++ name) := by simp [isImport]
  constructor
  · rw [← and_iff_left (a := "import " ++ name ∈ lines) himport, ← List.mem_filter, hlines,
      List.mem_map]
    constructor
    · rintro ⟨row, hrow, hname⟩
      obtain ⟨hrow, hcondition⟩ := List.mem_filter.1 hrow
      rwa [hrows row hrow ((String.append_right_inj _).1 hname)] at hcondition
    · intro hcondition
      exact ⟨_, List.mem_filter.2 ⟨hmem, hcondition⟩, rfl⟩
  · rw [← List.count_filter himport, hlines]
    exact List.nodup_iff_count_le_one.1 hdistinct _

/-- A class has no imports. -/
theorem KotlinClass.not_isImport (c : KotlinClass) {gap : List String}
    (hgap : ∀ line ∈ gap, ¬ isImport line) : ∀ line ∈ c.lines gap, ¬ isImport line := by
  intro line hline
  simp only [lines, List.mem_append, List.mem_cons, List.mem_flatMap, List.not_mem_nil,
    or_false] at hline
  rcases hline with (((rfl | rfl) | ⟨declaration, -, hline | rfl⟩) | hline) | rfl
  · decide
  · simp [isImport, List.isPrefixOf]
  · exact hgap line hline
  · simp [isImport, List.isPrefixOf]
  · exact hgap line hline
  · decide

/-- Behind a condition there are the imports of the lines that stand under it. -/
theorem filter_isImport_linesIf {gap lines : List String} (hgap : ∀ line ∈ gap, ¬ isImport line)
    (condition : Bool) : (linesIf gap condition lines).filter isImport =
      if condition then lines.filter isImport else [] := by
  have hnone : gap.filter isImport = [] := List.filter_eq_nil_iff.2 hgap
  cases condition <;> simp [linesIf, hnone]

namespace Graph

variable {g : Graph} {s : SchemaId} {gap rest : List String}

/-- What a source in Kotlin imports, each under its condition. -/
def kotlinImports (g : Graph) (s : SchemaId) : List (Bool × String) := [
  (g.hasProperty s (·.shape.isListRelation), "io.realm.RealmList"),
  (true, "io.realm.RealmObject"),
  (g.hasProperty s (·.shape.isBacklink), "io.realm.RealmResults"),
  (g.hasProperty s (·.indexed), "io.realm.annotations.Index"),
  (g.hasProperty s (·.shape.isBacklink), "io.realm.annotations.LinkingObjects"),
  ((g.modelsOf s).any fun m => (g.model m).primaryKey ≠ .nothing,
    "io.realm.annotations.PrimaryKey"),
  ((g.modelsOf s).any (g.hasKind · .date), "java.util.Date")]

/-- The import lines of a source are those of the table of imports; no other line looks like one. -/
theorem filter_isImport_kotlinLines (hgap : ∀ line ∈ gap, ¬ isImport line)
    (hrest : ∀ line ∈ rest, ¬ isImport line) :
    (g.kotlinLines s gap rest).filter isImport = importLines (g.kotlinImports s) := by
  have hclasses : ((g.modelsOf s).flatMap fun m => gap ++ (g.kotlinClass m).lines gap).filter
      isImport = [] := by
    rw [List.filter_eq_nil_iff]
    intro line hline
    obtain ⟨m, -, hline⟩ := List.mem_flatMap.1 hline
    rcases List.mem_append.1 hline with hline | hline
    · exact hgap line hline
    · exact (g.kotlinClass m).not_isImport hgap line hline
  have hend : rest.filter isImport = [] := List.filter_eq_nil_iff.2 hrest
  have hpackage : ∀ name, isImport ("package " ++ name) = false := by
    intro name
    simp [isImport, List.isPrefixOf]
  simp only [kotlinLines, List.filter_append, filter_isImport_linesIf hgap, hclasses, hend,
    List.filter_cons, List.filter_nil, hpackage, kotlinImports, importLines, List.flatMap_cons,
    List.flatMap_nil, Bool.false_eq_true, if_false, ite_self, List.append_assoc, List.append_nil]
  rfl

end Graph

/-! ### What lines need -/

namespace Graph

variable {g : Graph} {s : SchemaId}

/-- The property lines of a source in Kotlin. -/
def propertyLines (g : Graph) (s : SchemaId) : List String :=
  (g.modelsOf s).flatMap fun m => (g.kotlinClass m).declarations

/-- A property line is that of some listed property. -/
theorem Closed.exists_propertyLine_iff (h : g.Closed s) {P : String → Prop} :
    (∃ line ∈ g.propertyLines s, P line) ↔
      ∃ m ∈ g.modelsOf s, ∃ p ∈ g.listed m, P (g.propertyOutline m p).kotlin := by
  simp only [propertyLines, kotlinClass_declarations, List.mem_flatMap, List.mem_map]
  constructor
  · rintro ⟨_, ⟨m, hm, p, hp, rfl⟩, hline⟩
    rw [h.kotlinLine_eq hm hp] at hline
    exact ⟨m, hm, p, hp, hline⟩
  · rintro ⟨m, hm, p, hp, hline⟩
    rw [← h.kotlinLine_eq hm hp] at hline
    exact ⟨_, ⟨m, hm, p, hp, rfl⟩, hline⟩

/-- What the lines of properties show of single properties, some property has if some line shows
it. -/
theorem Closed.hasProperty_iff (h : g.Closed s) {P : String → Prop} {test : Property → Bool}
    (hP : ∀ m p, P (g.propertyOutline m p).kotlin ↔ test (g.property p)) :
    g.hasProperty s test ↔ ∃ line ∈ g.propertyLines s, P line := by
  simp only [h.exists_propertyLine_iff, hP, hasProperty, List.any_eq_true]

/-- The template imports lists just if some property line declares one. -/
theorem Closed.hasListRelation_iff (h : g.Closed s) :
    g.hasProperty s (·.shape.isListRelation) ↔
      ∃ line ∈ g.propertyLines s, Declares (·.isListRelation) line := by
  refine h.hasProperty_iff fun m p => ?_
  rw [PropertyOutline.declares_iff fun hsame => (ShapeOutline.sort_eq_of_declared_eq hsame).1,
    propertyOutline]
  rcases (g.property p).shape with _ | _ | _ | _ <;> rfl

theorem Closed.hasBacklink_iff (h : g.Closed s) :
    g.hasProperty s (·.shape.isBacklink) ↔
      ∃ line ∈ g.propertyLines s, Declares (·.isBacklink) line := by
  refine h.hasProperty_iff fun m p => ?_
  rw [PropertyOutline.declares_iff fun hsame => (ShapeOutline.sort_eq_of_declared_eq hsame).2,
    propertyOutline]
  rcases (g.property p).shape with _ | _ | _ | _ <;> rfl

/-- The template imports the mark of the index just if some property line has it. -/
theorem Closed.hasIndexed_iff (h : g.Closed s) :
    g.hasProperty s (·.indexed) ↔ ∃ line ∈ g.propertyLines s, carries indexMark line := by
  refine h.hasProperty_iff fun m p => ?_
  rw [PropertyOutline.carries_indexMark_kotlin, propertyOutline]

/-- A model has a primary key exactly if it lists one. -/
theorem Closed.hasKey_iff (h : g.Closed s) :
    ((g.modelsOf s).any fun m => (g.model m).primaryKey ≠ .nothing) ↔
      ∃ line ∈ g.propertyLines s, carries primaryKeyMark line := by
  simp only [h.exists_propertyLine_iff, PropertyOutline.carries_primaryKeyMark_kotlin,
    List.any_eq_true, propertyOutline, decide_eq_true_eq]
  constructor
  · rintro ⟨m, hm, hkey⟩
    obtain hnone | ⟨p, hp, hkey, -⟩ := h.key m hm
    · exact absurd hnone hkey
    · exact ⟨m, hm, p, hp, hkey⟩
  · rintro ⟨m, hm, p, -, hkey⟩
    exact ⟨m, hm, by simp [hkey]⟩

/-- The template imports dates just if some property line has their type. -/
theorem Closed.hasDate_iff (h : g.Closed s) (hkinds : g.KnowsKinds s) :
    (g.modelsOf s).any (g.hasKind · .date) ↔
      ∃ m ∈ g.modelsOf s, ∃ p ∈ g.listed m, (g.property p).shape.isTyped ∧
        HasType (g.propertyName p) "Date" (g.kotlinLine p) := by
  simp only [List.any_eq_true, hasKind]
  refine exists_congr fun m => and_congr_right fun hm => exists_congr fun p =>
    and_congr_right fun hp => ?_
  have hknows := hkinds m hm p hp
  rw [h.kotlinLine_eq hm hp]
  rcases hshape : (g.property p).shape with ⟨kind | text, required⟩ | _ | _ | _
  · have houtline : (g.propertyOutline m p).shape = .typed (.known kind) required := by
      rw [propertyOutline, hshape]
      rfl
    have htype := PropertyOutline.hasType_date_iff houtline
    simp only [Shape.isTyped, true_and, decide_eq_true_eq]
    exact htype.symm
  · rw [hshape] at hknows
    cases hknows
  all_goals simp [Shape.isTyped]

end Graph

/-! ### Imports -/

/-- Whether the imports in the lines of a source are those that the properties of a schema need, as
their own lines are written. -/
structure Graph.ImportsFit (g : Graph) (s : SchemaId) (lines : List String) : Prop where
  written : ∀ line ∈ g.propertyLines s, "    " ++ line ∈ lines
  list : ImportsIff lines "io.realm.RealmList"
    (∃ line ∈ g.propertyLines s, Declares (·.isListRelation) line)
  results : ImportsIff lines "io.realm.RealmResults"
    (∃ line ∈ g.propertyLines s, Declares (·.isBacklink) line)
  linkingObjects : ImportsIff lines "io.realm.annotations.LinkingObjects"
    (∃ line ∈ g.propertyLines s, Declares (·.isBacklink) line)
  index : ImportsIff lines "io.realm.annotations.Index"
    (∃ line ∈ g.propertyLines s, carries indexMark line)
  primaryKey : ImportsIff lines "io.realm.annotations.PrimaryKey"
    (∃ line ∈ g.propertyLines s, carries primaryKeyMark line)
  date : ImportsIff lines "java.util.Date"
    (∃ m ∈ g.modelsOf s, ∃ p ∈ g.listed m, (g.property p).shape.isTyped ∧
      HasType (g.propertyName p) "Date" (g.kotlinLine p))

variable {g : Graph} {s : SchemaId}

/-- Each import stands there just if it is needed, and once. -/
theorem Graph.Closed.importsFit (h : g.Closed s) (hkinds : g.KnowsKinds s) {gap rest : List String}
    (hgap : ∀ line ∈ gap, ¬ isImport line) (hrest : ∀ line ∈ rest, ¬ isImport line) :
    g.ImportsFit s (g.kotlinLines s gap rest) := by
  -- each import has its row in the table of imports
  have himports : ∀ {condition : Bool} {name : String} {needed : Prop},
      (condition, name) ∈ g.kotlinImports s → (condition ↔ needed) →
      ImportsIff (g.kotlinLines s gap rest) name needed := by
    intro condition name needed hmem hneeded
    rw [← hneeded]
    refine importsIff_of_mem ?_ hmem (filter_isImport_kotlinLines hgap hrest)
    simp [kotlinImports]
  constructor
  case written =>
    intro line hline
    obtain ⟨m, hm, hline⟩ := List.mem_flatMap.1 hline
    have hclass : "    " ++ line ∈ (g.kotlinClass m).lines gap := by
      simp only [KotlinClass.lines, List.mem_append, List.mem_flatMap]
      exact .inl (.inl (.inr ⟨line, hline, by simp⟩))
    simp only [kotlinLines, List.mem_append, List.mem_flatMap]
    exact .inl (.inr ⟨m, hm, .inr hclass⟩)
  case list => exact himports (by simp [kotlinImports]) h.hasListRelation_iff
  case results => exact himports (by simp [kotlinImports]) h.hasBacklink_iff
  case linkingObjects => exact himports (by simp [kotlinImports]) h.hasBacklink_iff
  case index => exact himports (by simp [kotlinImports]) h.hasIndexed_iff
  case primaryKey => exact himports (by simp [kotlinImports]) h.hasKey_iff
  case date => exact himports (by simp [kotlinImports]) (h.hasDate_iff hkinds)

theorem not_isImport_gap (rules : Template.Whitespace) : ∀ line ∈ rules.gap, ¬ isImport line := by
  rcases rules.gap_cases with h | h <;> rw [h] <;> decide

theorem not_isImport_rest (rules : Template.Whitespace) : ∀ line ∈ rules.rest, ¬ isImport line := by
  rw [Template.Whitespace.rest]
  split
  · exact not_isImport_gap rules
  · simp

/-- The source of a valid schema in Kotlin imports what its property lines need and nothing else. -/
theorem RenderRequest.imports_fit {request : RenderRequest} {site : Site} {settings : Settings}
    (h : g.validate s = .ok ()) (hkinds : g.KnowsKinds s)
    (hasks : request.AsksBundled g site s settings .kotlin) :
    let lines := g.kotlinLines s (whitespaceOf settings).gap (whitespaceOf settings).rest
    (request.render g site).result = .ok (textOfLines lines) ∧ g.ImportsFit s lines := by
  have hclosed := (Graph.validate_eq_ok_iff.1 h).1
  exact ⟨(render_bundled hclosed.wellPointed hkinds.hasKinds hasks).1,
    hclosed.importsFit hkinds (not_isImport_gap _) (not_isImport_rest _)⟩

/-- A household has no dates, so its source imports all but these. -/
theorem RenderRequest.imports_fit_household :
    Graph.household.validate ⟨0⟩ = .ok () ∧ Graph.household.KnowsKinds ⟨0⟩ ∧
    (usual ⟨0⟩ .kotlin).AsksBundled Graph.household ⟨{}, {}⟩ ⟨0⟩ {} .kotlin ∧
    Graph.household.ImportsFit ⟨0⟩ [
      "// Generated by realmgen. Do not edit.",
      "",
      "import io.realm.RealmList",
      "import io.realm.RealmObject",
      "import io.realm.RealmResults",
      "import io.realm.annotations.Index",
      "import io.realm.annotations.LinkingObjects",
      "import io.realm.annotations.PrimaryKey",
      "",
      "open class Person : RealmObject() \x7b",
      "    @PrimaryKey var name: String = \"\"",
      "    val cats: RealmList<Cat> = RealmList()",
      "\x7d",
      "",
      "open class Cat : RealmObject() \x7b",
      "    @Index var name: String = \"\"",
      "    @LinkingObjects(\"cats\") private val keepers: RealmResults<Person>? = null",
      "\x7d"] := by
  have hvalid : Graph.household.validate ⟨0⟩ = .ok () := by cbv
  have hkinds : Graph.household.KnowsKinds ⟨0⟩ := by decide
  have hasks := asksBundled_usual hvalid ⟨{}, {}⟩ .kotlin
  have hfit := (imports_fit hvalid hkinds hasks).2
  refine ⟨hvalid, hkinds, hasks, ?_⟩
  -- the lines that are meant are those of the layout
  refine Eq.mp (congrArg (Graph.household.ImportsFit ⟨0⟩) ?_) hfit
  cbv

end MobileSchema
