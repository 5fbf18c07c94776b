import MobileSchema.Proofs.Template.Asking
import MobileSchema.Proofs.Template.Preparing
import MobileSchema.Source.Rendering

/-!
# Starting templates

A template that only reads is looked up, read and prepared, and then it is run in a rendering of its
own.  What it writes is what its statements write in the scope of the names that it is given
(`run_startRendering`).
-/

namespace MobileSchema

namespace Template

variable {context : Context} {base st : State} {tree : List Statement} {written : String} {i : Nat}

/-! ### Running -/

/-- Whether a template only reads, has no blocks and extends no other, and is prepared as it
stands. -/
def plainTemplate (tree : List Statement) : Bool :=
  !Statement.lookUp tree "self" && !Statement.anyExtends tree &&
    (Statement.blocksInAll tree).isEmpty && Statement.areSteady tree && onlyReads [] tree

/-- The scope that a template starts in. -/
def Scope.atStart (rendering : Nat) (names : List (String × Object)) : Scope :=
  { Scope.ofNames rendering names with isOutermost := true }

/-- A plain template is run in its own rendering. -/
theorem runTemplate_plain (hplain : plainTemplate tree) (context : Context) (i : Nat) :
    runTemplate context i tree = do
      let rendering ← renderingAt i
      let (parts, _) ← Statement.runAll context (Statement.scopeNamesOfAll tree)
        (.atStart i rendering.names) tree
      match (← renderingAt i).parent with
      | none => return parts
      | some name => return parts ++ (← context.run (.parent i name)) := by
  simp only [plainTemplate, Bool.and_eq_true, Bool.not_eq_true'] at hplain
  obtain ⟨⟨⟨⟨hself, hextends⟩, -⟩, -⟩, hreads⟩ := hplain
  simp only [runTemplate, hself, hextends, Bool.false_eq_true, if_false,
    frame_of_onlyReads hreads]
  rfl

/-- A plain template writes what its statements write in the scope that it starts in. -/
theorem comes_runTemplate {rendering : Rendering} (hplain : plainTemplate tree)
    (hrendering : base.renderings[i]? = some rendering) (hparent : rendering.parent = none)
    (h : Writes context base (Statement.scopeNamesOfAll tree) (.atStart i rendering.names) tree
      written) :
    ∃ texts : List String, String.join texts = written ∧
      Comes base (runTemplate context i tree) (texts.map .text) := by
  obtain ⟨texts, htexts, hall⟩ := h
  have hhere : Comes base (renderingAt i) rendering := by
    have hat : Comes base (renderingAt i) _ := comes_renderingAt
    rw [hrendering] at hat
    exact hat
  refine ⟨texts, htexts, ?_⟩
  rw [runTemplate_plain hplain]
  refine hhere.bind (hall.bind (hhere.bind ?_))
  rw [hparent]
  exact .pure _

/-- Each text among the parts is given by the numbers of its own characters. -/
theorem joinedCodes_texts (texts : List String) :
    joinedCodes (texts.map .text) = pure (texts.map fun s => codesOf s.toList) := by
  rw [joinedCodes]
  -- the places only matter for parts that are no texts
  generalize 0 = place
  induction texts generalizing place with
  | nil => rfl
  | cons s texts ih =>
    rw [List.map_cons, List.zipIdx_cons, List.mapM_cons, ih]
    rfl

/-- Parts that are texts are put together as they are. -/
theorem codesOfParts_texts (texts : List String) :
    codesOfParts (texts.map .text) = pure (codesOf (String.join texts).toList) := by
  have hflat : (texts.map fun s => codesOf s.toList).flatten =
      codesOf (String.join texts).toList := by
    rw [String.toList_join, codesOf, List.map_flatMap, List.flatMap_def]
    rfl
  rw [codesOfParts, joinedCodes_texts, pure_bind, hflat]

end Template

/-- A source that is put together from texts is a text. -/
theorem wholeText_texts (texts : List String) :
    (do wholeText (← Template.codesOfParts (texts.map .text))) = pure (String.join texts) := by
  rw [Template.codesOfParts_texts, pure_bind, wholeText, textOfCodes?_codesOf, String.ofList_toList]

/-- The text of a source, from the order to the text. -/
theorem Order.text_eq (site : Site) (order : Order) : order.text site = (do
    let job ← order.prepare site
    let run := doErrand site site.env.depths.templates job.page
    let (_, parts) ← startRendering job.page run job.name job.names
    wholeText (← Template.codesOfParts parts)) := by
  simp only [Order.text, Order.codes, bind_assoc]

/-! ### Starting -/

section Starting

open Template

variable {page : Page} {run : Errand → Act (List Object)} {name : TemplateName}
  {names : List (String × Object)} {cs : List Char} {tree : List Statement} {written : String}
  {st : State}

/-- A plain template is prepared as it stands. -/
theorem preparedOf_eq_pure (hsource : source page.settings page.files name = .ok cs)
    (hread : treeOfSource (whitespaceOf page.settings) cs = .ok tree)
    (hplain : plainTemplate tree) : preparedOf page name = pure ⟨tree, []⟩ := by
  simp only [plainTemplate, Bool.and_eq_true] at hplain
  obtain ⟨⟨⟨-, hblocks⟩, hsteady⟩, -⟩ := hplain
  rw [preparedOf, hsource]
  dsimp only
  rw [hread]
  exact prepared_eq_self hsteady (List.isEmpty_iff.1 hblocks)

/-- A state in which the rendering of a template is about to start. -/
def Template.State.starting (st : State) (name : TemplateName) (names : List (String × Object)) :
    State :=
  { st with
    renderings := st.renderings ++ [{ template := name.path, names := names ++ commonNames }] }

/-- A plain template is looked up and read, and run in a new rendering. -/
theorem run_startRendering_plain (hsource : source page.settings page.files name = .ok cs)
    (hread : treeOfSource (whitespaceOf page.settings) cs = .ok tree) (hplain : plainTemplate tree)
    (run : Errand → Act (List Object)) (st : State) :
    (startRendering page run name names).run.run st = (do
      let parts ← runTemplate (contextOf page name.path run) st.renderings.length tree
      return (st.renderings.length, parts)).run.run (st.starting name names) := by
  have hnew : (newRendering { template := name.path, names := names ++ commonNames }).run.run st =
      (.ok st.renderings.length, st.starting name names) := rfl
  rw [startRendering, preparedOf_eq_pure hsource hread hplain, pure_bind]
  -- there are no blocks to be remembered with the rendering
  exact run_bind hnew

theorem getElem?_starting (st : State) (name : TemplateName) (names : List (String × Object)) :
    (st.starting name names).renderings[st.renderings.length]? =
      some { template := name.path, names := names ++ commonNames } :=
  List.getElem?_concat_length

/-- A plain template writes in its own rendering what its statements write. -/
theorem run_startRendering (hsource : source page.settings page.files name = .ok cs)
    (hread : treeOfSource (whitespaceOf page.settings) cs = .ok tree) (hplain : plainTemplate tree)
    (h : Writes (contextOf page name.path run) (st.starting name names)
      (Statement.scopeNamesOfAll tree) (.atStart st.renderings.length (names ++ commonNames)) tree
      written) :
    ∃ texts later, String.join texts = written ∧ (st.starting name names).GrowsTo later ∧
      (startRendering page run name names).run.run st =
        (.ok (st.renderings.length, texts.map .text), later) := by
  obtain ⟨texts, htexts, hcomes⟩ := comes_runTemplate hplain (getElem?_starting st name names) rfl h
  obtain ⟨later, hlater, hgrows⟩ := hcomes _ (.refl _)
  refine ⟨texts, later, htexts, hgrows, ?_⟩
  rw [run_startRendering_plain hsource hread hplain, run_bind hlater]
  rfl

end Starting

end MobileSchema
