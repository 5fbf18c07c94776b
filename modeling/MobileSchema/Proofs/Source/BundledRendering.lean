import MobileSchema.Proofs.Source.BundledText
import MobileSchema.Proofs.Source.Starting
import MobileSchema.Proofs.Template.Merging

/-!
# Rendering with the bundled templates

A request that leaves the template to the language is rendered with a bundled template, unless the
settings lead to another file.  What comes out is the layout of the source
(`RenderRequest.render_bundled`), whatever the names in the schema look like: a name is written as
it is, and never read as a part of a template.
-/

namespace MobileSchema

open Template

variable {g : Graph} {s : SchemaId} {site : Site} {request : RenderRequest} {settings : Settings}
  {language : Language}

/-! ### Requests -/

/-- Whether a request asks for the source of a schema in a language by its bundled template, under
some settings.  All that it offers can be applied, and if the schema is to be checked, it is
valid. -/
structure RenderRequest.AsksBundled (request : RenderRequest) (g : Graph) (site : Site)
    (s : SchemaId) (settings : Settings) (language : Language) : Prop where
  asksFor : request.schema = .schema s
  asksIn : Language.ofValue request.language = .ok language
  /-- no template is named -/
  unnamed : textIfAny request.template = none
  offers : ∀ offer ∈ request.offers, ∃ f, offer.2 = .function f
  /-- the settings are given, or loaded -/
  chosen : request.settings.elim (loadSettings site.env site.files none).1 .ok = .ok settings
  valid : settings.validateBeforeRender → g.validate s = .ok ()
  /-- no file comes before the bundled template -/
  noFile : ∀ dir, settings.templatesDir = some dir →
    fileIn? site.files dir [language.templateName] = none

/-- The request for the source of a schema in a language, with the usual settings and text
functions. -/
def RenderRequest.usual (s : SchemaId) (language : Language) : RenderRequest where
  schema := .schema s
  language := .text language.value
  settings := some {}

/-- A request that leaves everything to defaults asks for a bundled template, if the schema is
valid. -/
theorem RenderRequest.asksBundled_usual (h : g.validate s = .ok ()) (site : Site)
    (language : Language) : (usual s language).AsksBundled g site s {} language where
  asksFor := rfl
  asksIn := by cases language <;> rfl
  unnamed := rfl
  offers := fun _ hoffer => absurd hoffer List.not_mem_nil
  chosen := rfl
  valid := fun _ => h
  noFile := fun _ hdir => by cases hdir

/-! ### Preparing -/

/-- Finding the settings changes nothing but what is noted. -/
theorem run_findSettings
    (h : request.settings.elim (loadSettings site.env site.files none).1 .ok = .ok settings)
    (st : State) : ∃ log, (request.order.findSettings site).run.run st =
      (.ok (.given settings), { st with log := log }) := by
  rw [Order.findSettings, RenderRequest.order]
  cases hgiven : request.settings with
  | none =>
    rw [hgiven] at h
    rcases hload : loadSettings site.env site.files none with ⟨loaded, log⟩
    rw [hload] at h
    cases show loaded = .ok settings from h
    refine ⟨st.log ++ log, ?_⟩
    simp only [Option.elim, resume, pure_bind]
    rfl
  | some given =>
    rw [hgiven] at h
    cases h
    exact ⟨st.log, rfl⟩

/-- A request for a bundled template gets as far as the template, with the graph as it was. -/
theorem run_prepare (h : request.AsksBundled g site s settings language) :
    ∃ table log dicts, (request.order.prepare site).run.run { graph := g } =
      (.ok ⟨⟨settings, site.files, table⟩, initialNames s language (.dict 0),
        .ofString language.templateName⟩, { graph := g, log, dicts }) := by
  obtain ⟨table, htable⟩ := FunctionTable.merge_isOk_iff.2 h.offers
  obtain ⟨log, hsettings⟩ := run_findSettings h.chosen { graph := g }
  have hlanguage : request.order.language = .ok language := by
    rw [RenderRequest.order, h.asksIn]
    rfl
  have hoffers : request.order.offers = .ok request.offers := rfl
  have hcheck : settings.validateBeforeRender →
      request.order.checkSchema.run.run { graph := g, log } = (.ok (), { graph := g, log }) := by
    intro hvalidate
    simp only [Order.checkSchema, RenderRequest.order, h.asksFor]
    rw [run_bind (show currentGraph.run.run { graph := g, log } = (.ok g, _) from rfl),
      h.valid hvalidate]
    rfl
  have hname : request.order.nameObject language = pure (.text language.templateName) := by
    rw [Order.nameObject, RenderRequest.order, truthOf_ofText?, h.unnamed]
    rfl
  have hschema : request.order.findSchema = pure s := by
    simp only [Order.findSchema, RenderRequest.order, h.asksFor]
  refine ⟨table, log ++ [.rendering (g.schema s).packageName language.value language.templateName
    (g.schema s).slots.length], [functionEntries table], ?_⟩
  -- first the settings, then the language, the check, the text functions and the name
  rw [Order.prepare, run_bind hsettings, hlanguage, hoffers]
  simp only [resume, pure_bind, htable, hname, hschema]
  split
  · next hvalidate =>
    refine (run_bind (hcheck hvalidate)).trans ?_
    rfl
  · rfl

/-! ### Rendering -/

/-- The bundled templates only read, have no blocks and extend no other. -/
theorem plain_bundled (rules : Whitespace) (language : Language) :
    plainTemplate (bundledTree rules.gap rules.rest language) := by
  obtain ⟨trim, strip, keep⟩ := rules
  cases language
  · revert trim strip keep
    decide +kernel
  · revert trim strip keep
    decide +kernel

/-- The bundled template is what is found under the name for a language, where no file is. -/
theorem source_bundled {files : FileTree} (h : ∀ dir, settings.templatesDir = some dir →
      fileIn? files dir [language.templateName] = none) :
    source settings files (.ofString language.templateName) = .ok (bundledSource language) := by
  have hfile : (settings.templatesDir.bind fun dir => fileIn? files dir [language.templateName]) =
      none := by
    rw [Option.bind_eq_none_iff]
    exact h
  have hnames : namesOf? language.templateName = some [language.templateName] := by
    cases language <;> decide +kernel
  simp only [source, TemplateName.ofString, hnames, hfile]
  cases language <;> rfl

/-- The scope that a bundled template starts in is ready for it. -/
theorem ready_atStart {context : Context} {base : State} (hsafety : context.safety = {})
    (hpointed : base.graph.WellPointed s) (hkinds : base.graph.HasKinds s) (i : Nat)
    (functions : Object) :
    Ready context base (.atStart i (initialNames s language functions ++ commonNames)) s where
  safety := hsafety
  yields := rfl
  schema := rfl
  kinds := rfl
  pointed := hpointed
  declared := fun m hm p hp =>
    Graph.declarations_eq (hpointed.property m hm p hp) (hkinds m hm p hp)

/-- A bundled template writes the layout with the empty lines that the settings leave in it.  The
graph stays as it is. -/
theorem RenderRequest.render_bundled (hpointed : g.WellPointed s) (hkinds : g.HasKinds s)
    (h : request.AsksBundled g site s settings language) :
    let rules := whitespaceOf settings
    (request.render g site).result =
        .ok (textOfLines (g.sourceLines s rules.gap rules.rest language)) ∧
      (request.render g site).graph = g := by
  intro rules
  obtain ⟨table, log, dicts, hprepare⟩ := run_prepare h
  let page : Page := ⟨settings, site.files, table⟩
  let st : State := { graph := g, log, dicts }
  have hready : Ready
      (contextOf page language.templateName (doErrand site site.env.depths.templates page))
      (st.starting (.ofString language.templateName) (initialNames s language (.dict 0)))
      (.atStart 0 (initialNames s language (.dict 0) ++ commonNames)) s :=
    ready_atStart rfl hpointed hkinds 0 (.dict 0)
  obtain ⟨texts, later, htexts, hgrows, hstart⟩ := run_startRendering
    (show source page.settings page.files _ = _ from source_bundled h.noFile)
    (treeOfSource_bundled rules language) (plain_bundled rules language)
    (writes_bundled rules.gap_cases hready language)
  have hrun : (request.order.text site).run.run { graph := g } =
      (.ok (String.join texts), later) := by
    rw [Order.text_eq, run_bind hprepare]
    refine (run_bind hstart).trans ?_
    dsimp only
    rw [wholeText_texts]
    rfl
  rw [RenderRequest.render, Rendered.ofAct, hrun, htexts]
  exact ⟨rfl, hgrows.graph⟩

/-- With white space around tags trimmed, a bundled template writes the layout and nothing else. -/
theorem RenderRequest.result_eq_sourceLines (hpointed : g.WellPointed s) (hkinds : g.HasKinds s)
    (h : request.AsksBundled g site s settings language) (htrim : settings.trimBlocks) :
    (request.render g site).result = .ok (textOfLines (g.sourceLines s [] [] language)) := by
  have hgap : (whitespaceOf settings).gap = [] := by
    rw [Whitespace.gap, whitespaceOf, if_pos htrim]
  have hrest : (whitespaceOf settings).rest = [] := by
    rw [Whitespace.rest, hgap, ite_self]
  have hrender := (render_bundled hpointed hkinds h).1
  rw [hgap, hrest] at hrender
  exact hrender

/-- A schema in whose names there are tags. -/
def tagged : Graph where
  schemas := [{ packageName := some "zoo", slots := [.model ⟨0⟩] }]
  models := [
    { schema := ⟨0⟩, name := "\x7b\x7b cat \x7d\x7d",
      slots := [.property ⟨0⟩, .property ⟨1⟩, .property ⟨2⟩], primaryKey := .property ⟨0⟩ }]
  properties := [
    { owner := .model ⟨0⟩, name := "id", shape := .typed (.known .int64) true },
    { owner := .model ⟨0⟩, name := "born", shape := .typed (.known .date) false, indexed := true },
    { owner := .model ⟨0⟩, name := "<kin>", shape := .toMany (.model ⟨0⟩) }]

/-- The request for the source of a schema in Kotlin, which is to be checked before. -/
def taggedRequest : RenderRequest where
  schema := .schema ⟨0⟩
  language := .text "kotlin"
  settings := some { lstripBlocks := false }

/-- The tags in the name are written and not read. -/
theorem RenderRequest.result_eq_sourceLines_tagged :
    tagged.WellPointed ⟨0⟩ ∧ tagged.HasKinds ⟨0⟩ ∧
    taggedRequest.AsksBundled tagged ⟨{}, {}⟩ ⟨0⟩ { lstripBlocks := false } .kotlin ∧
    (taggedRequest.render tagged ⟨{}, {}⟩).result = .ok (textOfLines [
      "// Generated by realmgen. Do not edit.",
      "package zoo",
      "",
      "import io.realm.RealmList",
      "import io.realm.RealmObject",
      "import io.realm.annotations.Index",
      "import io.realm.annotations.PrimaryKey",
      "import java.util.Date",
      "",
      "open class \x7b\x7b cat \x7d\x7d : RealmObject() \x7b",
      "    @PrimaryKey var id: Long = 0L",
      "    @Index var born: Date? = null",
      "    val <kin>: RealmList<\x7b\x7b cat \x7d\x7d> = RealmList()",
      "\x7d"]) := by
  have hpointed : tagged.WellPointed ⟨0⟩ := by decide
  have hkinds : tagged.HasKinds ⟨0⟩ := by decide
  have hasks : taggedRequest.AsksBundled tagged ⟨{}, {}⟩ ⟨0⟩ { lstripBlocks := false } .kotlin := by
    refine ⟨rfl, rfl, rfl, ?_, rfl, fun _ => by cbv, ?_⟩
    · intro offer hoffer
      cases hoffer
    · intro dir hdir
      cases hdir
  refine ⟨hpointed, hkinds, hasks, ?_⟩
  rw [result_eq_sourceLines hpointed hkinds hasks rfl]
  refine congrArg (fun lines => Except.ok (textOfLines lines)) ?_
  cbv

end MobileSchema
