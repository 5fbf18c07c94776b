import MobileSchema.Proofs.Source.BundledRendering

/-!
# What is decided before a template is looked up

Before a template is looked up the settings are found, then the language, then the schema is checked
if the settings ask for it, and last the text functions are put together.  The first of these that
fails is what the request is refused for.

A request that leaves its template to the language is refused in one of these four ways, or it asks
for the bundled template (`RenderRequest.LeavesTemplate.refused_or_asks`).  All that the schema has
to say in this is what its check comes to.
-/

namespace MobileSchema

open Template

variable {g : Graph} {s : SchemaId} {site : Site} {request : RenderRequest} {settings : Settings}
  {language : Language}

/-- Whether a request leaves the template of a schema's source to the language, and no file comes
before the bundled one. -/
structure RenderRequest.LeavesTemplate (request : RenderRequest) (site : Site) (s : SchemaId) :
    Prop where
  asksFor : request.schema = .schema s
  /-- no template is named -/
  unnamed : textIfAny request.template = none
  noFile : ∀ settings language dir,
    request.settings.elim (loadSettings site.env site.files none).1 .ok = .ok settings →
    Language.ofValue request.language = .ok language → settings.templatesDir = some dir →
      fileIn? site.files dir [language.templateName] = none

/-- What cannot be applied is refused. -/
theorem FunctionTable.merge_error_or (offers : List (String × Offer)) :
    (∃ fault, FunctionTable.merge offers = .error fault) ∨
      ∀ offer ∈ offers, ∃ f, offer.2 = .function f := by
  rcases hmerge : FunctionTable.merge offers with fault | table
  · exact .inl ⟨fault, rfl⟩
  · exact .inr (FunctionTable.merge_isOk_iff.1 ⟨table, hmerge⟩)

/-- What is refused before the template is looked up is what rendering is refused for. -/
theorem RenderRequest.result_of_prepare {fault : RenderFault} {later : State}
    (h : (request.order.prepare site).run.run { graph := g } = (.error fault, later)) :
    (request.render g site).result = .error fault := by
  have htext : (request.order.text site).run.run { graph := g } = (.error fault, later) := by
    rw [Order.text_eq]
    exact run_bind_error h
  rw [RenderRequest.render, Rendered.ofAct, htext]

/-- Settings that cannot be loaded are what the search for them is refused for. -/
theorem run_findSettings_error {fault : SettingsFault}
    (h : request.settings.elim (loadSettings site.env site.files none).1 .ok = .error fault)
    (st : State) : ∃ later, (request.order.findSettings site).run.run st =
      (.error (.settings fault), later) := by
  rw [Order.findSettings, RenderRequest.order]
  cases hgiven : request.settings with
  | none =>
    rw [hgiven] at h
    rcases hload : loadSettings site.env site.files none with ⟨loaded, log⟩
    rw [hload] at h
    cases show loaded = .error fault from h
    refine ⟨{ st with log := st.log ++ log }, ?_⟩
    simp only [Option.elim, resume, pure_bind]
    rfl
  | some given =>
    rw [hgiven] at h
    cases h

theorem run_checkSchema (h : request.schema = .schema s) (st : State) :
    request.order.checkSchema.run.run st = (ask (st.graph.validate s)).run.run st := by
  simp only [Order.checkSchema, RenderRequest.order, h]
  exact run_bind (show currentGraph.run.run st = (.ok st.graph, st) from rfl)

/-! ### Refusals -/

namespace RenderRequest

/-- First of all, the settings have to be found. -/
theorem refused_by_settings {fault : SettingsFault}
    (h : request.settings.elim (loadSettings site.env site.files none).1 .ok = .error fault) :
    (request.render g site).result = .error (.settings fault) := by
  obtain ⟨later, hsettings⟩ := run_findSettings_error h { graph := g }
  have hprepare : (request.order.prepare site).run.run { graph := g } =
      (.error (.settings fault), later) := by
    rw [Order.prepare]
    exact run_bind_error hsettings
  exact result_of_prepare hprepare

theorem order_language {outcome : Except SchemaFault Language}
    (h : Language.ofValue request.language = outcome) :
    request.order.language = outcome.mapError .schema := by
  rw [RenderRequest.order, h]

variable (hchosen : request.settings.elim (loadSettings site.env site.files none).1 .ok =
  .ok settings)
include hchosen

/-- Then there has to be such a language. -/
theorem refused_by_language {fault : SchemaFault}
    (h : Language.ofValue request.language = .error fault) :
    (request.render g site).result = .error (.schema fault) := by
  obtain ⟨log, hsettings⟩ := run_findSettings hchosen { graph := g }
  have hprepare : (request.order.prepare site).run.run { graph := g } =
      (.error (.schema fault), { graph := g, log }) := by
    rw [Order.prepare, run_bind hsettings, order_language h]
    rfl
  exact result_of_prepare hprepare

variable (hlanguage : Language.ofValue request.language = .ok language)
  (hschema : request.schema = .schema s)
include hlanguage hschema

/-- Then the schema has to pass the check, if the settings ask for it. -/
theorem refused_by_check {fault : SchemaFault} (hvalidate : settings.validateBeforeRender = true)
    (h : g.validate s = .error fault) :
    (request.render g site).result = .error (.schema fault) := by
  obtain ⟨log, hsettings⟩ := run_findSettings hchosen { graph := g }
  have hcheck : request.order.checkSchema.run.run { graph := g, log } =
      (.error (.schema fault), { graph := g, log := log ++ fault.log }) := by
    rw [run_checkSchema hschema, h]
    rfl
  have hprepare : (request.order.prepare site).run.run { graph := g } =
      (.error (.schema fault), { graph := g, log := log ++ fault.log }) := by
    rw [Order.prepare, run_bind hsettings, order_language hlanguage]
    simp only [Except.mapError, resume, pure_bind, hvalidate, if_true]
    exact run_bind_error hcheck
  exact result_of_prepare hprepare

/-- Last, the text functions have to be functions. -/
theorem refused_by_offers {fault : NotApplicable}
    (hvalid : settings.validateBeforeRender → g.validate s = .ok ())
    (h : FunctionTable.merge request.offers = .error fault) :
    (request.render g site).result = .error (.offer fault) := by
  obtain ⟨log, hsettings⟩ := run_findSettings hchosen { graph := g }
  have hcheck : settings.validateBeforeRender →
      request.order.checkSchema.run.run { graph := g, log } = (.ok (), { graph := g, log }) := by
    intro hvalidate
    rw [run_checkSchema hschema, hvalid hvalidate]
    rfl
  have hoffers : request.order.offers = .ok request.offers := rfl
  have hprepare : (request.order.prepare site).run.run { graph := g } =
      (.error (.offer fault), { graph := g, log }) := by
    rw [Order.prepare, run_bind hsettings, order_language hlanguage, hoffers]
    simp only [Except.mapError, resume, pure_bind, h]
    split
    · next hvalidate => exact (run_bind (hcheck hvalidate)).trans rfl
    · rfl
  exact result_of_prepare hprepare

end RenderRequest

/-- A request that leaves the template to the language is refused for a reason that depends on the
schema only by the check, or it asks for the bundled template. -/
theorem RenderRequest.LeavesTemplate.refused_or_asks (h : request.LeavesTemplate site s)
    (checked : Except SchemaFault Unit) :
    (∃ fault, ∀ g : Graph, g.validate s = checked →
      (request.render g site).result = .error fault) ∨
    ∃ settings language, ∀ g : Graph, g.validate s = checked →
      request.AsksBundled g site s settings language := by
  -- the settings come first, then the language, the check and the text functions
  cases hchosen : request.settings.elim (loadSettings site.env site.files none).1 .ok with
  | error fault => exact .inl ⟨_, fun _ _ => refused_by_settings hchosen⟩
  | ok settings =>
    cases hlanguage : Language.ofValue request.language with
    | error fault => exact .inl ⟨_, fun _ _ => refused_by_language hchosen hlanguage⟩
    | ok language =>
      by_cases hrefused : settings.validateBeforeRender = true ∧ ∃ fault, checked = .error fault
      · obtain ⟨hvalidate, fault, rfl⟩ := hrefused
        exact .inl ⟨_, fun _ hg => refused_by_check hchosen hlanguage h.asksFor hvalidate hg⟩
      · have hvalid : settings.validateBeforeRender → checked = .ok () := by
          intro hvalidate
          rcases checked with fault | ⟨⟩
          · exact absurd ⟨hvalidate, fault, rfl⟩ hrefused
          · rfl
        rcases FunctionTable.merge_error_or request.offers with ⟨fault, hmerge⟩ | hoffers
        · exact .inl ⟨_, fun g hg => refused_by_offers hchosen hlanguage h.asksFor
            (fun hvalidate => hg.trans (hvalid hvalidate)) hmerge⟩
        · exact .inr ⟨settings, language, fun g hg => {
            asksFor := h.asksFor
            asksIn := hlanguage
            unnamed := h.unnamed
            offers := hoffers
            chosen := hchosen
            valid := fun hvalidate => hg.trans (hvalid hvalidate)
            noFile := fun dir => h.noFile settings language dir hchosen hlanguage }⟩

end MobileSchema
