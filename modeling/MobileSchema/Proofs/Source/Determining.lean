import MobileSchema.Proofs.Source.Agreeing
import MobileSchema.Proofs.Source.Distinguishing
import MobileSchema.Proofs.Source.Importing

/-!
# What a source determines

A source determines the schema that it is made from, up to its objects: in either language schemas
with the same source have the same heading and the same outline (`RenderRequest.source_determines`),
as long as names are plain.

The source is taken apart into lines, a head and classes, and a class into declarations.  A class
shows its own end, so that a list of classes is read one by one
(`ModelOutline.readable_classLines`).  In Swift a declaration does not say whether it is the key or
indexed; this is found in the name of the key and in the list of indexed names, since names are
given once in a model.
-/

namespace MobileSchema

/-! ### Lines of a class -/

/-- Declarations end where there is an empty line or the end of their class. -/
theorem declarations_append_inj {declarations declarations' rest rest' : List String}
    (hrest : ∀ line ∈ rest.head?, line = "" ∨ line = "\x7d")
    (hrest' : ∀ line ∈ rest'.head?, line = "" ∨ line = "\x7d")
    (h : declarations.map ("    " ++ ·) ++ rest = declarations'.map ("    " ++ ·) ++ rest') :
    declarations = declarations' ∧ rest = rest' := by
  have hgoes : ∀ (ds : List String), ∀ line ∈ ds.map ("    " ++ ·),
      ¬ (line = "" ∨ line = "\x7d") := by
    intro ds line hline
    obtain ⟨d, -, rfl⟩ := List.mem_map.1 hline
    rw [← String.toList_inj, ← String.toList_inj]
    simp
  obtain ⟨hlines, hrests⟩ := append_inj_of_stop _ (hgoes _) (hgoes _) hrest hrest' h
  exact ⟨List.map_injective_iff.2 (fun _ _ => (String.append_right_inj _).1) hlines, hrests⟩

namespace KotlinClass

theorem lines_nil (c : KotlinClass) : c.lines [] =
    "" :: ("open class " ++ (c.name ++ " : RealmObject() \x7b")) ::
      (c.declarations.map ("    " ++ ·) ++ ["\x7d"]) := by
  simp [lines, String.append_assoc, List.map_eq_flatMap]

/-- Classes in Kotlin can be read back one by one. -/
theorem readable_lines : Readable (fun _ => True) (lines []) := by
  rintro ⟨name, declarations⟩ ⟨name', declarations'⟩ - - rest rest' h
  rw [lines_nil, lines_nil] at h
  simp only [List.cons_append, List.append_assoc, List.cons.injEq, true_and, List.nil_append,
    String.append_right_inj, String.append_left_inj] at h
  obtain ⟨rfl, hlines⟩ := h
  obtain ⟨rfl, hrest⟩ := declarations_append_inj (by simp) (by simp) hlines
  exact ⟨rfl, (List.cons.inj hrest).2⟩

end KotlinClass

namespace SwiftClass

/-- The lines of a class that give the name of its key. -/
def keyLines : Option String → List String
  | none => []
  | some key => [
    "",
    "    override static func primaryKey() -> String? \x7b",
    "        return \"" ++ (key ++ "\""),
    "    \x7d"]

/-- The lines of a class that list its indexed names. -/
def indexLines (names : List String) : List String :=
  if names = [] then [] else [
    "",
    "    override static func indexedProperties() -> [String] \x7b",
    "        return [" ++ (", ".intercalate (names.map fun name => "\"" ++ name ++ "\"") ++ "]"),
    "    \x7d"]

theorem lines_nil (c : SwiftClass) : c.lines [] =
    "" :: ("class " ++ (c.name ++ ": Object \x7b")) ::
      (c.declarations.map ("    " ++ ·) ++ (keyLines c.key ++ (indexLines c.indexed ++ ["\x7d"]))) := by
  obtain ⟨name, declarations, key, indexed⟩ := c
  cases key <;> by_cases hindexed : indexed = [] <;>
    simp [lines, keyLines, indexLines, linesIf, hindexed, String.append_assoc, List.map_eq_flatMap]

/-- The lines about a key have no line breaks in them. -/
theorem oneLine_keyLines {key : Option String} (h : ∀ name ∈ key, OneLine name) :
    ∀ line ∈ keyLines key, OneLine line := by
  cases key with
  | none => simp [keyLines]
  | some key =>
    simp only [keyLines, List.forall_mem_cons, oneLine_append]
    exact ⟨by simp [OneLine], by simp [OneLine], ⟨by simp [OneLine], h key rfl, by simp [OneLine]⟩,
      by simp [OneLine], by simp⟩

theorem oneLine_indexLines {names : List String} (h : ∀ name ∈ names, OneLine name) :
    ∀ line ∈ indexLines names, OneLine line := by
  rw [indexLines]
  split
  · simp
  · simp only [List.forall_mem_cons, oneLine_append]
    exact ⟨by simp [OneLine], by simp [OneLine],
      ⟨by simp [OneLine], oneLine_intercalate_quoted h, by simp [OneLine]⟩, by simp [OneLine],
      by simp⟩

/-- Which of the two parts behind the declarations there are is said by their second lines. -/
theorem keyLines_append_inj {key key' : Option String} {names names' rest rest' : List String}
    (h : keyLines key ++ (indexLines names ++ "\x7d" :: rest) =
      keyLines key' ++ (indexLines names' ++ "\x7d" :: rest')) :
    key = key' ∧ indexLines names ++ "\x7d" :: rest = indexLines names' ++ "\x7d" :: rest' := by
  have hne : ∀ {key names rest more}, keyLines (some key) ++ more ≠
      indexLines names ++ "\x7d" :: rest := by
    intro key names rest more
    rw [indexLines]
    split <;> simp [keyLines]
  cases key with
  | none =>
    cases key' with
    | none => exact ⟨rfl, h⟩
    | some key' => exact absurd h.symm hne
  | some key =>
    cases key' with
    | none => exact absurd h hne
    | some key' =>
      simp only [keyLines, List.cons_append, List.nil_append, List.cons.injEq, true_and,
        String.append_right_inj, String.append_left_inj] at h
      exact ⟨congrArg some h.1, h.2⟩

/-- The lines about the index tell which names are in it, and where they end. -/
theorem indexLines_append_inj {names names' rest rest' : List String}
    (hnames : ∀ name ∈ names, isPlainName name) (hnames' : ∀ name ∈ names', isPlainName name)
    (h : indexLines names ++ "\x7d" :: rest = indexLines names' ++ "\x7d" :: rest') :
    names = names' ∧ rest = rest' := by
  by_cases hnil : names = [] <;> by_cases hnil' : names' = []
  · subst hnil hnil'
    exact ⟨rfl, (List.cons.inj h).2⟩
  · simp [indexLines, hnil, hnil'] at h
  · simp [indexLines, hnil, hnil'] at h
  · simp only [indexLines, hnil, hnil', if_false, List.cons_append, List.nil_append, List.cons.injEq,
      true_and, String.append_right_inj, String.append_left_inj] at h
    exact ⟨intercalate_quoted_inj hnil hnil' hnames hnames' h.1, h.2⟩

theorem readable_lines :
    Readable (fun c : SwiftClass => ∀ name ∈ c.indexed, isPlainName name) (lines []) := by
  rintro ⟨name, declarations, key, indexed⟩ ⟨name', declarations', key', indexed'⟩ hc hc' rest rest' h
  rw [lines_nil, lines_nil] at h
  simp only [List.cons_append, List.append_assoc, List.cons.injEq, true_and, List.nil_append,
    String.append_right_inj, String.append_left_inj] at h
  obtain ⟨rfl, hlines⟩ := h
  -- the declarations end where the first of the other parts begins, whichever it is
  have hstops : ∀ key names rest, ∀ line ∈ (keyLines key ++ (indexLines names ++
      "\x7d" :: rest)).head?, line = "" ∨ line = "\x7d" := by
    intro key names rest
    rw [indexLines]
    cases key <;> split <;> simp [keyLines]
  obtain ⟨rfl, hparts⟩ := declarations_append_inj (hstops _ _ _) (hstops _ _ _) hlines
  obtain ⟨rfl, hindex⟩ := keyLines_append_inj hparts
  obtain ⟨rfl, hrest⟩ := indexLines_append_inj hc hc' hindex
  exact ⟨rfl, hrest⟩

end SwiftClass

/-! ### Models -/

/-- Whether a class in Swift says of a property, by its name, whether it is the key and whether it
is indexed. -/
structure SwiftClass.Tells (c : SwiftClass) (p : PropertyOutline) : Prop where
  key : c.key = some p.name ↔ p.isKey
  indexed : p.name ∈ c.indexed ↔ p.indexed

/-- A declaration and its class together determine a property. -/
theorem SwiftClass.Tells.eq_of_swift_eq {c : SwiftClass} {p q : PropertyOutline} (hp : c.Tells p)
    (hq : c.Tells q) (hplain : p.Plain) (hplain' : q.Plain) (h : p.swift = q.swift) : p = q := by
  obtain ⟨hname, hshape⟩ := PropertyOutline.swift_inj hplain hplain' h
  have hkey := hp.key
  have hindexed := hp.indexed
  rw [hname] at hkey hindexed
  exact PropertyOutline.ext hname hshape (Bool.eq_iff_iff.2 (hindexed.symm.trans hq.indexed))
    (Bool.eq_iff_iff.2 (hkey.symm.trans hq.key))

namespace ModelOutline

/-- Whether a model has plain names only. -/
structure Plain (m : ModelOutline) : Prop where
  name : isClassName m.name
  properties : ∀ p ∈ m.properties, p.Plain

/-- The lines of the class of a model in a language. -/
def classLines : Language → ModelOutline → List String
  | .swift, m => m.swiftClass.lines []
  | .kotlin, m => m.kotlinClass.lines []

variable {m m' : ModelOutline}

/-- A class in Kotlin tells its model. -/
theorem kotlinClass_inj (hm : m.Plain) (hm' : m'.Plain) (h : m.kotlinClass = m'.kotlinClass) :
    m = m' := by
  obtain ⟨hname, hdeclarations⟩ := KotlinClass.mk.inj h
  refine ModelOutline.ext hname ?_
  exact map_inj_of_sort (fun _ _ => PropertyOutline.kotlin_inj) hm.properties hm'.properties
    hdeclarations

/-- What the class of a model says of its properties is found by their names. -/
theorem Definite.tells (h : m.Definite) : ∀ p ∈ m.properties, m.swiftClass.Tells p :=
  fun _ hp => ⟨h.key_eq_some_iff hp, h.name_mem_indexed_iff hp⟩

/-- A class in Swift tells its model, if a name stands for one property. -/
theorem swiftClass_inj (hm : m.Plain) (hm' : m'.Plain) (hdefinite : m.Definite)
    (hdefinite' : m'.Definite) (h : m.swiftClass = m'.swiftClass) : m = m' := by
  obtain ⟨hname, hdeclarations, -, -⟩ := SwiftClass.mk.inj h
  -- both models are told by the one class
  have htells' : ∀ p ∈ m'.properties, m.swiftClass.Tells p := h ▸ hdefinite'.tells
  have hread : ∀ p q, p.Plain ∧ m.swiftClass.Tells p → q.Plain ∧ m.swiftClass.Tells q →
      p.swift = q.swift → p = q :=
    fun _ _ hp hq heq => hp.2.eq_of_swift_eq hq.2 hp.1 hq.1 heq
  exact ModelOutline.ext hname (map_inj_of_sort hread
    (fun p hp => ⟨hm.properties p hp, hdefinite.tells p hp⟩)
    (fun p hp => ⟨hm'.properties p hp, htells' p hp⟩) hdeclarations)

theorem Plain.isPlainName_of_mem_indexed (hm : m.Plain) :
    ∀ name ∈ m.swiftClass.indexed, isPlainName name := by
  intro name hname
  obtain ⟨p, hp, rfl⟩ := List.mem_map.1 hname
  exact (hm.properties p (List.mem_filter.1 hp).1).name

/-- A model is told from the lines of its class, whatever follows them. -/
theorem readable_classLines (language : Language) :
    Readable (fun m : ModelOutline => m.Plain ∧ m.Definite) (classLines language) := by
  rintro m m' ⟨hm, hdefinite⟩ ⟨hm', hdefinite'⟩ rest rest' h
  cases language with
  | swift =>
    obtain ⟨hclass, hrest⟩ := SwiftClass.readable_lines _ _ hm.isPlainName_of_mem_indexed
      hm'.isPlainName_of_mem_indexed _ _ h
    exact ⟨swiftClass_inj hm hm' hdefinite hdefinite' hclass, hrest⟩
  | kotlin =>
    obtain ⟨hclass, hrest⟩ := KotlinClass.readable_lines _ _ trivial trivial _ _ h
    exact ⟨kotlinClass_inj hm hm' hclass, hrest⟩

/-- The lines of a class in Swift have no line breaks in them if no name has. -/
theorem Plain.oneLine_swift (hm : m.Plain) : ∀ line ∈ classLines .swift m, OneLine line := by
  intro line hline
  rw [classLines, SwiftClass.lines_nil] at hline
  simp only [List.mem_cons, List.mem_append, List.mem_map, List.not_mem_nil, or_false] at hline
  rcases hline with rfl | rfl | ⟨declaration, hdeclaration, rfl⟩ | hkey | hindex | rfl
  · decide
  · have hname := oneLine_of_isPlainName (isPlainName_of_isClassName hm.name)
    rw [oneLine_append, oneLine_append]
    exact ⟨by decide, hname, by decide⟩
  · obtain ⟨p, hp, rfl⟩ := List.mem_map.1 hdeclaration
    have hplain := hm.properties p hp
    rw [oneLine_append]
    exact ⟨by decide, ShapeOutline.oneLine_declared .swift hplain.shape hplain.name⟩
  · refine SwiftClass.oneLine_keyLines ?_ line hkey
    intro name hname
    obtain ⟨p, hp, rfl⟩ := Option.map_eq_some_iff.1 hname
    exact oneLine_of_isPlainName (hm.properties p (List.mem_of_find?_eq_some hp)).name
  · refine SwiftClass.oneLine_indexLines ?_ line hindex
    exact fun name hname => oneLine_of_isPlainName (hm.isPlainName_of_mem_indexed name hname)
  · decide

theorem Plain.oneLine_kotlin (hm : m.Plain) : ∀ line ∈ classLines .kotlin m, OneLine line := by
  intro line hline
  rw [classLines, KotlinClass.lines_nil] at hline
  simp only [List.mem_cons, List.mem_append, List.mem_map, List.not_mem_nil, or_false] at hline
  rcases hline with rfl | rfl | ⟨declaration, hdeclaration, rfl⟩ | rfl
  · decide
  · have hname := oneLine_of_isPlainName (isPlainName_of_isClassName hm.name)
    rw [oneLine_append, oneLine_append]
    exact ⟨by decide, hname, by decide⟩
  · obtain ⟨p, hp, rfl⟩ := List.mem_map.1 hdeclaration
    have hplain := hm.properties p hp
    have hmarks : ∀ indexed isKey, OneLine (marks indexed isKey) := by decide
    rw [PropertyOutline.kotlin, oneLine_append, oneLine_append]
    exact ⟨by decide, hmarks _ _,
      ShapeOutline.oneLine_declared .kotlin hplain.shape hplain.name⟩
  · decide

theorem classLines_ne_nil (language : Language) (m : ModelOutline) :
    classLines language m ≠ [] := by
  cases language <;> simp [classLines, SwiftClass.lines_nil, KotlinClass.lines_nil]

theorem head?_classLines (language : Language) (m : ModelOutline) :
    (classLines language m).head? = some "" := by
  cases language with
  | swift => rw [classLines, SwiftClass.lines_nil]; rfl
  | kotlin => rw [classLines, KotlinClass.lines_nil]; rfl

end ModelOutline

/-! ### Sources -/

/-- A line that gives a name, if there is one. -/
def lineNaming (lead name : String) : List String := if name = "" then [] else [lead ++ name]

/-- A line that names something is there just if there is a name. -/
theorem linesIf_textIfAny (lead : String) (name : Option String) :
    linesIf [] (textIfAny name).isSome [lead ++ (textIfAny name).getD ""] =
      lineNaming lead (name.getD "") := by
  cases name with
  | none => rfl
  | some name => by_cases h : name = "" <;> simp [lineNaming, linesIf, textIfAny, Option.filter, h]

/-- A name in the head is told by the line behind it, which gives no name. -/
theorem lineNaming_append_inj {lead close name name' : String} {rest rest' : List String}
    (hclose : ∀ name, lead ++ name ≠ close)
    (h : lineNaming lead name ++ close :: rest = lineNaming lead name' ++ close :: rest') :
    name = name' ∧ rest = rest' := by
  by_cases hname : name = "" <;> by_cases hname' : name' = ""
  · subst hname hname'
    exact ⟨rfl, (List.cons.inj h).2⟩
  · simp only [lineNaming, hname, hname', if_true, if_false, List.nil_append, List.cons_append,
      List.cons.injEq] at h
    exact absurd h.1.symm (hclose name')
  · simp only [lineNaming, hname, hname', if_true, if_false, List.nil_append, List.cons_append,
      List.cons.injEq] at h
    exact absurd h.1 (hclose name)
  · simp only [lineNaming, hname, hname', if_false, List.nil_append, List.cons_append,
      List.cons.injEq, true_and, String.append_right_inj] at h
    exact h

namespace Graph

variable {g g' : Graph} {s s' : SchemaId} {language : Language}

/-- The name in the head of a source: that of the module or of the package.  A module can be without
a name, which counts as empty; the name of a package is a text unless it was taken away later. -/
def heading (g : Graph) (s : SchemaId) : Language → String
  | .swift => (g.schema s).moduleName.getD ""
  | .kotlin => (g.schema s).packageName.getD ""

/-- The head of a source, before its classes. -/
def headLines (g : Graph) (s : SchemaId) : Language → List String
  | .swift => ["//", "// Generated by realmgen. Do not edit."] ++
    (lineNaming "// Module: " (g.heading s .swift) ++
      ["//", "", "import Foundation", "import RealmSwift"])
  | .kotlin => ["// Generated by realmgen. Do not edit."] ++
    (lineNaming "package " (g.heading s .kotlin) ++ [""] ++ importLines (g.kotlinImports s))

/-- The classes can be written from the outline alone. -/
theorem Closed.classLines_outline (h : g.Closed s) (language : Language) :
    (g.outline s).flatMap (ModelOutline.classLines language) = match language with
      | .swift => (g.modelsOf s).flatMap fun m => [] ++ (g.swiftClass m).lines []
      | .kotlin => (g.modelsOf s).flatMap fun m => [] ++ (g.kotlinClass m).lines [] := by
  rw [outline, List.flatMap_map]
  cases language with
  | swift =>
    refine List.flatMap_congr fun m hm => ?_
    rw [h.swiftClass_eq hm]
    rfl
  | kotlin =>
    refine List.flatMap_congr fun m hm => ?_
    rw [h.kotlinClass_eq hm]
    rfl

/-- The source of a closed schema is a head and the classes of its outline. -/
theorem Closed.sourceLines_eq (h : g.Closed s) (language : Language) :
    g.sourceLines s [] [] language =
      g.headLines s language ++ (g.outline s).flatMap (ModelOutline.classLines language) := by
  rw [h.classLines_outline]
  cases language with
  | swift =>
    show g.swiftLines s [] [] = _
    rw [swiftLines, linesIf_textIfAny, headLines]
    simp only [List.append_assoc, List.append_nil]
    rfl
  | kotlin =>
    show g.kotlinLines s [] [] = _
    rw [kotlinLines, linesIf_textIfAny, headLines]
    simp only [List.append_assoc, List.append_nil, linesIf, kotlinImports, importLines,
      List.flatMap_cons, List.flatMap_nil]
    rfl

/-- The head of a source gives the heading, and ends where the classes begin. -/
theorem headLines_append_inj {classes classes' : List String}
    (hclasses : ∀ line ∈ classes.head?, line = "") (hclasses' : ∀ line ∈ classes'.head?, line = "")
    (h : g.headLines s language ++ classes = g'.headLines s' language ++ classes') :
    g.heading s language = g'.heading s' language ∧ classes = classes' := by
  cases language with
  | swift =>
    simp only [headLines, List.cons_append, List.append_assoc, List.nil_append, List.cons.injEq,
      true_and] at h
    obtain ⟨hheading, hrest⟩ := lineNaming_append_inj (fun name => by
      rw [ne_eq, ← String.toList_inj]; simp) h
    simp only [List.cons.injEq, true_and] at hrest
    exact ⟨hheading, hrest⟩
  | kotlin =>
    simp only [headLines, List.cons_append, List.append_assoc, List.nil_append, List.cons.injEq,
      true_and] at h
    obtain ⟨hheading, hrest⟩ := lineNaming_append_inj (fun name => by
      rw [ne_eq, ← String.toList_inj]; simp) h
    -- no import is empty, so the imports end where the classes begin
    have himports : ∀ table, ∀ line ∈ importLines table, ¬ line = "" := by
      intro table line hline
      rw [importLines_eq_map] at hline
      obtain ⟨row, -, rfl⟩ := List.mem_map.1 hline
      rw [← String.toList_inj]
      simp
    exact ⟨hheading, (append_inj_of_stop _ (himports _) (himports _) hclasses hclasses' hrest).2⟩

/-- The lines of the head have no line breaks in them if the heading has none. -/
theorem oneLine_headLines (h : OneLine (g.heading s language)) :
    ∀ line ∈ g.headLines s language, OneLine line := by
  -- the only line with a name in it, which is the heading
  have hnaming : ∀ lead, OneLine lead → ∀ line ∈ lineNaming lead (g.heading s language),
      OneLine line := by
    intro lead hlead line hline
    rw [lineNaming] at hline
    split at hline
    · cases hline
    · rw [List.mem_singleton.1 hline, oneLine_append]
      exact ⟨hlead, h⟩
  cases language with
  | swift =>
    simp only [headLines, List.mem_append, or_imp, forall_and]
    exact ⟨by simp [OneLine], hnaming _ (by simp [OneLine]), by simp [OneLine]⟩
  | kotlin =>
    have himports : ∀ line ∈ importLines (g.kotlinImports s), OneLine line := by
      intro line hline
      rw [importLines_eq_map] at hline
      obtain ⟨row, hrow, rfl⟩ := List.mem_map.1 hline
      have hnames : ∀ row ∈ g.kotlinImports s, OneLine row.2 := by
        simp [kotlinImports, OneLine]
      rw [oneLine_append]
      exact ⟨by simp [OneLine], hnames row (List.mem_filter.1 hrow).1⟩
    simp only [headLines, List.mem_append, or_imp, forall_and]
    exact ⟨by simp [OneLine], ⟨hnaming _ (by simp [OneLine]), by simp [OneLine]⟩, himports⟩

/-! ### Schemas with plain names -/

/-- Whether the names in a schema are plain, no model is named like the type of a kind, and the
names of package and module are one line each. -/
structure PlainlyNamed (g : Graph) (s : SchemaId) : Prop where
  models : ∀ m ∈ g.modelsOf s, isClassName (g.modelName m)
  properties : ∀ m ∈ g.modelsOf s, ∀ p ∈ g.listed m, isPlainName (g.propertyName p)
  package : ∀ name ∈ (g.schema s).packageName, OneLine name
  module : ∀ name ∈ (g.schema s).moduleName, OneLine name

theorem PlainlyNamed.oneLine_heading (h : g.PlainlyNamed s) : OneLine (g.heading s language) := by
  have hgetD : ∀ name : Option String, (∀ text ∈ name, OneLine text) → OneLine (name.getD "") := by
    intro name hname
    cases name with
    | none => decide
    | some text => exact hname text rfl
  cases language with
  | swift => exact hgetD _ h.module
  | kotlin => exact hgetD _ h.package

/-- What pointers in a schema lead to has a name in the schema. -/
theorem PlainlyNamed.plain_modelOutline (h : g.PlainlyNamed s) (hkinds : g.KnowsKinds s)
    (hclosed : g.Closed s) {m : ModelId} (hm : m ∈ g.modelsOf s) : (g.modelOutline m).Plain := by
  refine ⟨h.models m hm, ?_⟩
  intro outline houtline
  obtain ⟨p, hp, rfl⟩ := List.mem_map.1 houtline
  refine ⟨h.properties m hm p hp, ?_⟩
  have hfits := hclosed.fits m hm p hp
  have hknows := hkinds m hm p hp
  show (g.shapeOutline (g.property p).shape).Plain
  revert hfits hknows
  rcases (g.property p).shape with ⟨kind, required⟩ | target | target | ⟨target, forward, isPrivate⟩
  · -- a typed field shows its kind, and all others show what they point at
    intro _ hknows
    cases kind with
    | known kind => exact ⟨kind, rfl⟩
    | raw text => cases hknows
  · intro hfits _
    obtain ⟨t, ht, rfl⟩ := hfits.target target rfl
    exact h.models t ht
  · intro hfits _
    obtain ⟨t, ht, rfl⟩ := hfits.target target rfl
    exact h.models t ht
  · intro hfits _
    obtain ⟨t, ht, rfl⟩ := hfits.target target rfl
    obtain ⟨q, hq, rfl⟩ := hfits.forward t forward isPrivate rfl
    exact ⟨h.models t ht, h.properties t ht q hq⟩

/-- What is read in a source is the outline of a valid schema with plain names. -/
theorem PlainlyNamed.outline_sound (h : g.PlainlyNamed s) (hkinds : g.KnowsKinds s)
    (hvalid : g.validate s = .ok ()) : ∀ m ∈ g.outline s, m.Plain ∧ m.Definite := by
  obtain ⟨hclosed, -, hlisted⟩ := validate_eq_ok_iff.1 hvalid
  intro outline houtline
  obtain ⟨m, hm, rfl⟩ := List.mem_map.1 houtline
  exact ⟨h.plain_modelOutline hkinds hclosed hm, definite_modelOutline (hlisted m hm)⟩

/-- No line of a plainly named source has line breaks in it, so that the text can be taken apart
into the lines again. -/
theorem PlainlyNamed.oneLine_sourceLines (h : g.PlainlyNamed s) (hkinds : g.KnowsKinds s)
    (hvalid : g.validate s = .ok ()) : ∀ line ∈ g.sourceLines s [] [] language, OneLine line := by
  have hclosed := (validate_eq_ok_iff.1 hvalid).1
  intro line hline
  rw [hclosed.sourceLines_eq, List.mem_append, List.mem_flatMap] at hline
  rcases hline with hline | ⟨m, hm, hline⟩
  · exact oneLine_headLines h.oneLine_heading line hline
  · have hplain := (h.outline_sound hkinds hvalid m hm).1
    cases language with
    | swift => exact hplain.oneLine_swift line hline
    | kotlin => exact hplain.oneLine_kotlin line hline

/-- Lines of source determine the heading and the outline of a schema. -/
theorem PlainlyNamed.eq_of_sourceLines_eq (h : g.PlainlyNamed s) (hkinds : g.KnowsKinds s)
    (hvalid : g.validate s = .ok ()) (h' : g'.PlainlyNamed s') (hkinds' : g'.KnowsKinds s')
    (hvalid' : g'.validate s' = .ok ())
    (heq : g.sourceLines s [] [] language = g'.sourceLines s' [] [] language) :
    g.heading s language = g'.heading s' language ∧ g.outline s = g'.outline s' := by
  have hstart : ∀ outline : List ModelOutline,
      ∀ line ∈ (outline.flatMap (ModelOutline.classLines language)).head?, line = "" := by
    intro outline
    cases outline with
    | nil => simp
    | cons m outline =>
      rw [List.flatMap_cons, List.head?_append_of_ne_nil _ (ModelOutline.classLines_ne_nil _ _),
        ModelOutline.head?_classLines]
      simp
  rw [(validate_eq_ok_iff.1 hvalid).1.sourceLines_eq,
    (validate_eq_ok_iff.1 hvalid').1.sourceLines_eq] at heq
  obtain ⟨hheading, hclasses⟩ := headLines_append_inj (hstart _) (hstart _) heq
  exact ⟨hheading, (ModelOutline.readable_classLines language).flatMap_inj
    (ModelOutline.classLines_ne_nil language) (h.outline_sound hkinds hvalid)
    (h'.outline_sound hkinds' hvalid') hclasses⟩

end Graph

/-! ### Requests -/

variable {g g' : Graph} {s s' : SchemaId} {site site' : Site} {language : Language}

/-- Under the usual settings a source is its lines without gaps. -/
theorem RenderRequest.result_usual {request : RenderRequest} (h : g.validate s = .ok ())
    (hkinds : g.KnowsKinds s) (hasks : request.AsksBundled g site s {} language) :
    (request.render g site).result = .ok (textOfLines (g.sourceLines s [] [] language)) :=
  (render_bundled (Graph.validate_eq_ok_iff.1 h).1.wellPointed hkinds.hasKinds hasks).1

/-- Valid schemas with plain names and the same source have the same heading and the same outline:
the same models in order, with the same properties in order. -/
theorem RenderRequest.source_determines {request request' : RenderRequest}
    (h : g.validate s = .ok ()) (hkinds : g.KnowsKinds s) (hnames : g.PlainlyNamed s)
    (hasks : request.AsksBundled g site s {} language)
    (h' : g'.validate s' = .ok ()) (hkinds' : g'.KnowsKinds s') (hnames' : g'.PlainlyNamed s')
    (hasks' : request'.AsksBundled g' site' s' {} language)
    (hsame : (request.render g site).result = (request'.render g' site').result) :
    g.heading s language = g'.heading s' language ∧ g.outline s = g'.outline s' := by
  rw [result_usual h hkinds hasks, result_usual h' hkinds' hasks'] at hsame
  refine hnames.eq_of_sourceLines_eq hkinds h hnames' hkinds' h' ?_
  exact textOfLines_inj (hnames.oneLine_sourceLines hkinds h)
    (hnames'.oneLine_sourceLines hkinds' h') (Except.ok.inj hsame)

/-- The household with other numbers for the same models and properties. -/
def Graph.renumbered : Graph where
  schemas := [{}, { slots := [.model ⟨1⟩, .model ⟨0⟩], moduleName := some "" }]
  models := [
    { schema := ⟨1⟩, name := "Cat", slots := [.property ⟨2⟩, .property ⟨0⟩] },
    { schema := ⟨1⟩, name := "Person", slots := [.property ⟨3⟩, .property ⟨1⟩],
      primaryKey := .property ⟨3⟩ }]
  properties := [
    { owner := .model ⟨0⟩, name := "keepers",
      shape := .inverse (.model ⟨1⟩) (.property ⟨1⟩) true },
    { owner := .model ⟨1⟩, name := "cats", shape := .toMany (.model ⟨0⟩) },
    { owner := .model ⟨0⟩, name := "name", shape := .typed (.known .string) true, indexed := true },
    { owner := .model ⟨1⟩, name := "name", shape := .typed (.known .string) true }]

/-- The household has the same sources under other numbers, and so the same outline. -/
theorem RenderRequest.source_determines_household :
    (Graph.household.PlainlyNamed ⟨0⟩ ∧ Graph.renumbered.PlainlyNamed ⟨1⟩) ∧
    ((usual ⟨0⟩ .swift).render Graph.household ⟨{}, {}⟩).result =
      ((usual ⟨1⟩ .swift).render Graph.renumbered ⟨{}, {}⟩).result ∧
    ((usual ⟨0⟩ .kotlin).render Graph.household ⟨{}, {}⟩).result =
      ((usual ⟨1⟩ .kotlin).render Graph.renumbered ⟨{}, {}⟩).result ∧
    Graph.household.heading ⟨0⟩ .swift = Graph.renumbered.heading ⟨1⟩ .swift ∧
    Graph.household.heading ⟨0⟩ .kotlin = Graph.renumbered.heading ⟨1⟩ .kotlin ∧
    Graph.household.outline ⟨0⟩ = Graph.renumbered.outline ⟨1⟩ := by
  have hvalid : Graph.household.validate ⟨0⟩ = .ok () := by cbv
  have hvalid' : Graph.renumbered.validate ⟨1⟩ = .ok () := by cbv
  have hkinds : Graph.household.KnowsKinds ⟨0⟩ := by decide
  have hkinds' : Graph.renumbered.KnowsKinds ⟨1⟩ := by decide
  have hnames : Graph.household.PlainlyNamed ⟨0⟩ :=
    ⟨by decide, by decide, by decide, by decide⟩
  have hnames' : Graph.renumbered.PlainlyNamed ⟨1⟩ :=
    ⟨by decide, by decide, by decide, by decide⟩
  have hasks := asksBundled_usual hvalid ⟨{}, {}⟩
  have hasks' := asksBundled_usual hvalid' ⟨{}, {}⟩
  have hsame : ∀ language, ((usual ⟨0⟩ language).render Graph.household ⟨{}, {}⟩).result =
      ((usual ⟨1⟩ language).render Graph.renumbered ⟨{}, {}⟩).result := by
    intro language
    rw [result_usual hvalid hkinds (hasks language), result_usual hvalid' hkinds' (hasks' language)]
    refine congrArg (fun lines => Except.ok (textOfLines lines)) ?_
    cases language <;> cbv
  obtain ⟨hmodule, houtline⟩ := source_determines hvalid hkinds hnames (hasks .swift) hvalid' hkinds'
    hnames' (hasks' .swift) (hsame .swift)
  obtain ⟨hpackage, -⟩ := source_determines hvalid hkinds hnames (hasks .kotlin) hvalid' hkinds'
    hnames' (hasks' .kotlin) (hsame .kotlin)
  exact ⟨⟨hnames, hnames'⟩, hsame .swift, hsame .kotlin, hmodule, hpackage, houtline⟩

end MobileSchema
