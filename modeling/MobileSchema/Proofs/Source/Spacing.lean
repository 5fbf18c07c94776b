import MobileSchema.Proofs.Source.BundledRendering
import MobileSchema.Proofs.Source.BundledSpacing

/-!
# White space in sources

The settings for white space around tags only change the empty lines of a source.
-/

namespace MobileSchema

open Template

/-! ### Starting two templates -/

section Starting

variable {context context' : Context} {base st st' : State} {page page' : Page}
  {run run' : Errand → Act (List Object)} {name : TemplateName} {names : List (String × Object)}
  {cs cs' : List Char} {tree tree' : List Statement} {related : String → String → Prop}

/-- Two templates whose statements go side by side write texts that are related. -/
theorem Template.abreast_runTemplate {i : Nat} {rendering : Rendering} (hplain : plainTemplate tree)
    (hplain' : plainTemplate tree') (hrendering : base.renderings[i]? = some rendering)
    (hparent : rendering.parent = none)
    (h : Beside context context' base (.atStart i rendering.names) related tree tree') :
    Abreast base (fun _ => Texts related) (runTemplate context i tree)
      (runTemplate context' i tree') := by
  -- neither template changes what is known of its rendering, however far it is
  have hhere : ∀ later, base.GrowsTo later →
      Repeats later (fun _ found => found = rendering) (renderingAt i) := by
    intro later hlater
    refine (repeats_renderingAt i).imp fun _ found _ hfound => ?_
    rw [hfound, hlater.renderings, hrendering]
    rfl
  rw [runTemplate_plain hplain, runTemplate_plain hplain']
  refine (hhere base (.refl base)).abreast fun mid found hmid hfound => ?_
  subst hfound
  refine ((h.abreast _ _).mono hmid).bind fun mid' p q hmid' hpq => ?_
  refine (hhere mid' (hmid.trans hmid')).abreast fun _ found _ hfound => ?_
  subst hfound
  obtain ⟨parts, _⟩ := p
  obtain ⟨parts', _⟩ := q
  dsimp only
  rw [hparent]
  exact .pure fun _ _ => hpq.2.2

/-- Plain templates, each in its own rendering, write what their statements write. -/
theorem goTogether_startRendering
    (hsource : source page.settings page.files name = .ok cs)
    (hsource' : source page'.settings page'.files name = .ok cs')
    (hread : treeOfSource (whitespaceOf page.settings) cs = .ok tree)
    (hread' : treeOfSource (whitespaceOf page'.settings) cs' = .ok tree')
    (hplain : plainTemplate tree) (hplain' : plainTemplate tree') (halike : st.Alike st')
    (h : Beside (contextOf page name.path run) (contextOf page' name.path run')
      (st.starting name names) (.atStart st.renderings.length (names ++ commonNames)) related
      tree tree') :
    GoTogether (st.starting name names) (fun _ p q => Texts related p.2 q.2)
      ((startRendering page run name names).run.run st)
      ((startRendering page' run' name names).run.run st') := by
  have hstarting : (st.starting name names).Alike (st'.starting name names) :=
    ⟨halike.graph, congrArg (· ++ _) halike.renderings, halike.lists, halike.loops⟩
  rw [run_startRendering_plain hsource hread hplain,
    run_startRendering_plain hsource' hread' hplain', halike.renderings]
  have hrun := abreast_runTemplate hplain hplain' (getElem?_starting st name names) rfl h _ _
    (.refl _) hstarting
  exact hrun.bind (.refl _) fun _ _ _ _ halike hgrows hparts => .answer halike hgrows hparts

end Starting

/-! ### Rendering under two settings -/

section Rendering

variable {g : Graph} {s : SchemaId} {site site' : Site} {request request' : RenderRequest}
  {settings settings' : Settings} {language : Language}

/-- Whether two results are the same fault, or texts that are related. -/
inductive SameButFor (related : String → String → Prop) :
    Except RenderFault String → Except RenderFault String → Prop
  | fault (fault : RenderFault) : SameButFor related (.error fault) (.error fault)
  | text {a b : String} (h : related a b) : SameButFor related (.ok a) (.ok b)

/-- Runs that go together come to related texts or to the same fault. -/
theorem SameButFor.of_goTogether (base : State) {related : String → String → Prop}
    {outcome outcome' : Except RenderFault String × State}
    (h : GoTogether base (fun _ => related) outcome outcome') :
    SameButFor related outcome.1 outcome'.1 := by
  cases h with
  | fault _ _ => exact .fault _
  | answer _ _ h => exact .text h

/-- Under two settings, the source of a schema is made of the same lines, with other gaps between
them, or both times it is refused for the same reason. -/
theorem RenderRequest.results_spaced (h : request.AsksBundled g site s settings language)
    (h' : request'.AsksBundled g site' s settings' language) :
    SameButFor (SpacedBefore (whitespaceOf settings).rest (whitespaceOf settings').rest
        (whitespaceOf settings).gap (whitespaceOf settings').gap)
      (request.render g site).result (request'.render g site').result := by
  obtain ⟨table, log, dicts, hprepare⟩ := run_prepare h
  obtain ⟨table', log', dicts', hprepare'⟩ := run_prepare h'
  let page : Page := ⟨settings, site.files, table⟩
  let page' : Page := ⟨settings', site'.files, table'⟩
  let names := initialNames s language (.dict 0)
  let st : State := { graph := g, log, dicts }
  let st' : State := { graph := g, log := log', dicts := dicts' }
  -- the templates start in the same scope
  have hready : ReadyBeside
      (contextOf page language.templateName (doErrand site site.env.depths.templates page))
      (contextOf page' language.templateName (doErrand site' site'.env.depths.templates page'))
      (.atStart 0 (names ++ commonNames)) s := ⟨rfl, rfl, rfl, rfl, rfl⟩
  -- their statements go beside each other from there on
  have hstart := goTogether_startRendering
    (show source page.settings page.files _ = _ from source_bundled h.noFile)
    (show source page'.settings page'.files _ = _ from source_bundled h'.noFile)
    (treeOfSource_bundled _ language) (treeOfSource_bundled _ language)
    (plain_bundled _ language) (plain_bundled _ language)
    (show st.Alike st' from ⟨rfl, rfl, rfl, rfl⟩)
    (beside_bundled (whitespaceOf settings).gap_cases (whitespaceOf settings').gap_cases hready
      (whitespaceOf settings).rest (whitespaceOf settings').rest language)
  -- what both have written are texts, so the sources are texts as well
  show SameButFor _ ((request.order.text site).run.run { graph := g }).1
    ((request'.order.text site').run.run { graph := g }).1
  refine .of_goTogether (st.starting (.ofString language.templateName) names) ?_
  rw [Order.text_eq, Order.text_eq, run_bind hprepare, run_bind hprepare']
  refine .bind (.refl _) hstart fun p q later later' halike hgrows htexts => ?_
  obtain ⟨i, _⟩ := p
  obtain ⟨i', _⟩ := q
  obtain ⟨texts, texts', rfl, rfl, hspaced⟩ := htexts
  dsimp only
  rw [wholeText_texts, wholeText_texts]
  exact .answer halike hgrows hspaced

end Rendering

/-! ### Empty lines -/

/-- The lines of a text that are not empty. -/
def nonEmptyLines (text : String) : List String :=
  ((text.toList.splitOn '\n').filter (· ≠ [])).map String.ofList

/-- Texts with a line break between them have their lines one after another. -/
theorem nonEmptyLines_append (before behind : String) :
    nonEmptyLines (before ++ "\n" ++ behind) = nonEmptyLines before ++ nonEmptyLines behind := by
  have hsplit : (before ++ "\n" ++ behind).toList.splitOn '\n' =
      before.toList.splitOn '\n' ++ behind.toList.splitOn '\n' := by
    simp only [String.toList_append, List.append_assoc]
    exact List.splitOnP_append_cons before.toList behind.toList (beq_self_eq_true '\n')
  rw [nonEmptyLines, hsplit, List.filter_append, List.map_append]
  rfl

theorem nonEmptyLines_textOfLines (lines : List String) :
    nonEmptyLines (textOfLines lines) = lines.flatMap nonEmptyLines := by
  induction lines with
  | nil => rfl
  | cons line lines ih => rw [textOfLines_cons, nonEmptyLines_append, ih, List.flatMap_cons]

/-- What is in the gaps does not count among the lines that are not empty. -/
theorem nonEmptyLines_filled {gap : List String} (hgap : gap = [] ∨ gap = [""])
    (lines : List (Option String)) :
    (filled gap lines).flatMap nonEmptyLines = lines.flatMap (·.elim [] nonEmptyLines) := by
  have hnone : gap.flatMap nonEmptyLines = [] := by rcases hgap with rfl | rfl <;> rfl
  induction lines with
  | nil => rfl
  | cons line lines ih =>
    cases line with
    | none => simp [hnone, ih]
    | some line => simp [ih]

/-! ### What the settings change -/

section Changes

variable {g : Graph} {s : SchemaId} {site site' : Site} {request request' : RenderRequest}
  {settings settings' : Settings} {language : Language} {rest rest' gap gap' : List String}

/-- Texts with the same gaps and the same last lines are the same. -/
theorem SpacedBefore.eq {a b : String} (h : SpacedBefore rest rest gap gap a b) : a = b := by
  obtain ⟨lines, rfl, rfl⟩ := h
  rfl

/-- Texts that differ in their gaps and in what is behind them have the same lines that are not
empty. -/
theorem SpacedBefore.nonEmptyLines_eq {a b : String} (hgap : gap = [] ∨ gap = [""])
    (hgap' : gap' = [] ∨ gap' = [""]) (hrest : rest = [] ∨ rest = [""])
    (hrest' : rest' = [] ∨ rest' = [""]) (h : SpacedBefore rest rest' gap gap' a b) :
    nonEmptyLines a = nonEmptyLines b := by
  obtain ⟨lines, rfl, rfl⟩ := h
  simp only [nonEmptyLines_textOfLines, List.flatMap_append, nonEmptyLines_filled hgap,
    nonEmptyLines_filled hgap']
  rcases hrest with rfl | rfl <;> rcases hrest' with rfl | rfl <;> rfl

/-- One of two texts has an empty line behind the lines of both. -/
theorem SpacedBefore.eq_append {a b : String} (h : SpacedBefore [] [""] gap gap a b) :
    b = a ++ "\n" := by
  obtain ⟨lines, rfl, rfl⟩ := h
  rw [List.append_nil, textOfLines_append]
  rfl

theorem Template.Whitespace.rest_cases (rules : Whitespace) : rules.rest = [] ∨ rules.rest = [""] := by
  rw [Whitespace.rest]
  split
  · exact rules.gap_cases
  · exact .inl rfl

/-- The gaps depend on one setting. -/
theorem Template.Whitespace.gap_congr {rules rules' : Whitespace}
    (h : rules.trimBlocks = rules'.trimBlocks) : rules.gap = rules'.gap := by
  rw [gap, gap, h]

theorem Template.Whitespace.rest_congr {rules rules' : Whitespace}
    (h : rules.trimBlocks = rules'.trimBlocks)
    (hkeep : rules.keepTrailingNewline = rules'.keepTrailingNewline) : rules.rest = rules'.rest := by
  rw [rest, rest, gap_congr h, hkeep]

/-- The settings for white space only change the empty lines of a source.  Whether white space
before tags is stripped makes no difference.  Whatever the settings are, the lines that are not
empty are the same, in the same order.  If white space around tags is not trimmed, the last line
break of the template is one more at the end of the source where it is kept.  If there is no source
under some settings, there is none under others, for the same reason. -/
theorem RenderRequest.whitespace_changes_empty_lines
    (h : request.AsksBundled g site s settings language)
    (h' : request'.AsksBundled g site' s settings' language) :
    let result := (request.render g site).result
    let result' := (request'.render g site').result
    (settings.trimBlocks = settings'.trimBlocks →
      settings.keepTrailingNewline = settings'.keepTrailingNewline → result = result') ∧
    result.map nonEmptyLines = result'.map nonEmptyLines ∧
    (settings.trimBlocks = false → settings'.trimBlocks = false →
      settings.keepTrailingNewline = false → settings'.keepTrailingNewline = true →
      result' = result.map (· ++ "\n")) := by
  have hresults := results_spaced h h'
  dsimp only
  generalize (request.render g site).result = result at hresults ⊢
  generalize (request'.render g site').result = result' at hresults ⊢
  refine ⟨fun htrim hkeep => ?_, ?_, fun htrim htrim' hkeep hkeep' => ?_⟩
  · have hgap : (whitespaceOf settings).gap = (whitespaceOf settings').gap :=
      Whitespace.gap_congr htrim
    have hrest : (whitespaceOf settings).rest = (whitespaceOf settings').rest :=
      Whitespace.rest_congr htrim hkeep
    rw [hgap, hrest] at hresults
    cases hresults with
    | fault fault => rfl
    | text hspaced => exact congrArg Except.ok hspaced.eq
  · cases hresults with
    | fault fault => rfl
    | text hspaced =>
      exact congrArg Except.ok (hspaced.nonEmptyLines_eq (Whitespace.gap_cases _)
        (Whitespace.gap_cases _) (Whitespace.rest_cases _) (Whitespace.rest_cases _))
  · have hgap : (whitespaceOf settings).gap = [""] := by simp [Whitespace.gap, whitespaceOf, htrim]
    have hgap' : (whitespaceOf settings').gap = [""] := by simp [Whitespace.gap, whitespaceOf, htrim']
    have hrest : (whitespaceOf settings).rest = [] := by simp [Whitespace.rest, whitespaceOf, hkeep]
    have hrest' : (whitespaceOf settings').rest = [""] := by
      rw [Whitespace.rest, hgap']
      simp [whitespaceOf, hkeep']
    rw [hgap, hgap', hrest, hrest'] at hresults
    cases hresults with
    | fault fault => rfl
    | text hspaced => exact congrArg Except.ok hspaced.eq_append

/-- A schema with line breaks in the name of a model. -/
def broken : Graph where
  schemas := [{ moduleName := some "Night", slots := [.model ⟨0⟩] }]
  models := [
    { schema := ⟨0⟩, name := "owl\n\nhawk", slots := [.property ⟨0⟩], primaryKey := .property ⟨0⟩ }]
  properties := [
    { owner := .model ⟨0⟩, name := "id", shape := .typed (.known .int64) true }]

/-- The request for the source of a schema in Swift under some settings. -/
def RenderRequest.under (settings : Settings) : RenderRequest where
  schema := .schema ⟨0⟩
  language := .text "swift"
  settings := some settings

/-- The schema is valid and no directory of templates is given, so that the bundled template is
asked for. -/
theorem RenderRequest.asksBundled_under (htemplates : settings.templatesDir = none) :
    (under settings).AsksBundled broken ⟨{}, {}⟩ ⟨0⟩ settings .swift := by
  refine ⟨rfl, rfl, rfl, ?_, rfl, fun _ => by cbv, ?_⟩
  · intro offer hoffer
    cases hoffer
  · intro dir hdir
    rw [htemplates] at hdir
    cases hdir

/-- A name with line breaks in it, under four settings. -/
theorem RenderRequest.whitespace_changes_empty_lines_broken :
    let result (settings : Settings) := ((under settings).render broken ⟨{}, {}⟩).result
    let plain : Settings := { trimBlocks := false, keepTrailingNewline := false }
    let trimmed := textOfLines [
      "//",
      "// Generated by realmgen. Do not edit.",
      "// Module: Night",
      "//",
      "",
      "import Foundation",
      "import RealmSwift",
      "",
      "class owl\n\nhawk: Object \x7b",
      "    @objc dynamic var id: Int64 = 0",
      "",
      "    override static func primaryKey() -> String? \x7b",
      "        return \"id\"",
      "    \x7d",
      "\x7d"]
    let spaced := textOfLines [
      "//",
      "// Generated by realmgen. Do not edit.",
      "",
      "// Module: Night",
      "",
      "//",
      "",
      "import Foundation",
      "import RealmSwift",
      "",
      "",
      "class owl\n\nhawk: Object \x7b",
      "",
      "    @objc dynamic var id: Int64 = 0",
      "",
      "",
      "",
      "    override static func primaryKey() -> String? \x7b",
      "        return \"id\"",
      "    \x7d",
      "",
      "",
      "\x7d"]
    result {} = .ok trimmed ∧ result { lstripBlocks := false } = .ok trimmed ∧
      result plain = .ok spaced ∧ nonEmptyLines spaced = nonEmptyLines trimmed ∧
      result { plain with keepTrailingNewline := true } = .ok (spaced ++ "\n") := by
  intro result plain trimmed spaced
  have hpointed : broken.WellPointed ⟨0⟩ := by decide
  have hkinds : broken.HasKinds ⟨0⟩ := by decide
  have htrimmed : result {} = .ok trimmed := by
    refine (render_bundled hpointed hkinds (asksBundled_under rfl)).1.trans ?_
    refine congrArg (fun lines => Except.ok (textOfLines lines)) ?_
    cbv
  have hspaced : result plain = .ok spaced := by
    refine (render_bundled hpointed hkinds (asksBundled_under rfl)).1.trans ?_
    refine congrArg (fun lines => Except.ok (textOfLines lines)) ?_
    cbv
  refine ⟨htrimmed, ?_, hspaced, ?_, ?_⟩
  · have hsame : result { lstripBlocks := false } = result {} :=
      (whitespace_changes_empty_lines (asksBundled_under rfl) (asksBundled_under rfl)).1 rfl rfl
    rw [hsame, htrimmed]
  · have hlines : (result plain).map nonEmptyLines = (result {}).map nonEmptyLines :=
      (whitespace_changes_empty_lines (asksBundled_under rfl) (asksBundled_under rfl)).2.1
    rw [hspaced, htrimmed] at hlines
    exact Except.ok.inj hlines
  · have hmore : result { plain with keepTrailingNewline := true } = (result plain).map (· ++ "\n") :=
      (whitespace_changes_empty_lines (asksBundled_under rfl) (asksBundled_under rfl)).2.2 rfl
        rfl rfl rfl
    rw [hmore, hspaced]
    rfl

end Changes

end MobileSchema
